import FixBench.Proofs.Wire.FieldWalk
import FixBench.Wire.Encode

/-!
# Fields tile the input

A reader counts its place from the start of the input, but looks for both separators of a field in
what is left of it, and the first equals sign there may belong to a later field. So it has to be shown
that its places and the bytes it returns agree: the fields of any number of calls stand in the input
one behind the other, from its start to the place of the reader (`Tiles`).

One call does one of three things (`Called`). Call after call this is the walk over the whole input,
and behind the last field of the walk all calls are answered alike (`ask_eq`). A tiling of `n` fields
takes `4 * n` bytes or more, so there is a last field.
-/
namespace FixBench.Wire

/-! ### Tilings -/

/-- A field stands in `input` from its offset to its stop: the digits of its tag, an equals sign, its
value and a separator. -/
structure RawField.StandsIn (field : RawField) (input : List UInt8) : Prop where
  slice : input.extract field.offset field.stop = field.digits ++ equals :: field.value ++ [soh]
  wellFormed : (⟨field.digits, field.value⟩ : Spelling).WellFormed
  tag : field.tag.toNat = Numeral.digitsValue field.digits

/-- Fields stand in `input` one behind the other, the first at `start` and the last up to `stop`. -/
inductive Tiles (input : List UInt8) : Nat → List RawField → Nat → Prop
  | nil (place : Nat) : Tiles input place [] place
  | cons {field : RawField} {rest : List RawField} {stop : Nat} (stands : field.StandsIn input)
      (behind : Tiles input field.stop rest stop) : Tiles input field.offset (field :: rest) stop

/-- No field, of whatever tag and value, starts in `input` at `place`. -/
def NoFieldAt (input : List UInt8) (place : Nat) : Prop :=
  ∀ spelling : Spelling, spelling.WellFormed → ¬ spelling.bytes <+: input.drop place

theorem Spelling.standsIn_placed {spelling : Spelling} {input rest : List UInt8} {place : Nat}
    (wellFormed : spelling.WellFormed) (front : input.drop place = spelling.bytes ++ rest) :
    (spelling.placed place).StandsIn input where
  slice := by
    have size : (spelling.placed place).stop - place = spelling.bytes.length := by
      rw [stop_placed, Nat.add_sub_cancel_left]
    calc input.extract place (spelling.placed place).stop
      _ = (spelling.bytes ++ rest).take spelling.bytes.length := by
        rw [List.extract_eq_take_drop, size, front]
      _ = spelling.bytes := List.take_left
  wellFormed := wellFormed
  tag := spelling.toNat_tag_placed place wellFormed

/-- The shortest field has one digit and one byte of value. -/
theorem Spelling.four_le_length_bytes {spelling : Spelling} (wellFormed : spelling.WellFormed) :
    4 ≤ spelling.bytes.length := by
  have digits := List.length_pos_iff.mpr wellFormed.digits_ne_nil
  have value := List.length_pos_iff.mpr wellFormed.value_ne_nil
  simp only [bytes, List.length_append, List.length_cons, List.length_nil]
  omega

namespace Tiles

variable {input : List UInt8} {start stop : Nat} {fields : List RawField}

theorem add_four_mul_length_le (tiles : Tiles input start fields stop) :
    start + 4 * fields.length ≤ stop := by
  induction tiles with
  | nil place => exact Nat.le_refl _
  | @cons field rest stop stands _ ih =>
    have size : 4 ≤ field.bytes.length := Spelling.four_le_length_bytes stands.wellFormed
    rw [RawField.stop] at ih
    rw [List.length_cons]
    omega

/-- The first fields of a tiling tile the bytes that are theirs. -/
theorem take (tiles : Tiles input start fields stop) (count : Nat) :
    Tiles input start (fields.take count)
      (start + ((fields.take count).flatMap RawField.bytes).length) := by
  induction tiles generalizing count with
  | nil place =>
    rw [List.take_nil]
    exact .nil place
  | @cons field rest stop stands _ ih =>
    cases count with
    | zero => exact .nil field.offset
    | succ count =>
      rw [List.take_succ_cons, List.flatMap_cons, List.length_append, ← Nat.add_assoc]
      exact .cons stands (ih count)

end Tiles

/-! ### The walk -/

theorem flatMap_fields_walk (offset : Nat) (bytes : List UInt8) :
    (walk offset bytes).fields.flatMap RawField.bytes ++ (walk offset bytes).left = bytes := by
  fun_induction walk offset bytes with
  | case1 offset => rfl
  | case2 offset bytes _ fault _ => rfl
  | case3 offset bytes _ field rest found after ih =>
    rw [eq_of_nextField found, List.flatMap_cons, List.append_assoc, ih]

theorem offset_walk (input : List UInt8) :
    (walk 0 input).offset input.length =
      ((walk 0 input).fields.flatMap RawField.bytes).length := by
  have size := congrArg List.length (flatMap_fields_walk 0 input)
  rw [List.length_append] at size
  rw [Walk.offset]
  omega

theorem drop_offset_walk (input : List UInt8) :
    input.drop ((walk 0 input).offset input.length) = (walk 0 input).left := by
  rw [offset_walk]
  nth_rewrite 2 [← flatMap_fields_walk 0 input]
  exact List.drop_left

/-- A walk over what is left of an input tiles it as far as the walk has come. -/
theorem tiles_walk {input bytes : List UInt8} {offset : Nat} (front : input.drop offset = bytes) :
    Tiles input offset (walk offset bytes).fields
      (offset + ((walk offset bytes).fields.flatMap RawField.bytes).length) := by
  fun_induction walk offset bytes with
  | case1 offset => exact .nil offset
  | case2 offset bytes _ fault _ => exact .nil offset
  | case3 offset bytes _ field rest found after ih =>
    obtain ⟨spelling, wellFormed, rfl, rfl⟩ := (nextField_eq_ok_iff _ _ _ _).mp found
    have behind : input.drop (spelling.placed offset).stop = rest := by
      rw [Spelling.stop_placed, ← List.drop_drop, front, List.drop_left]
    rw [List.flatMap_cons, List.length_append, ← Nat.add_assoc]
    exact .cons (Spelling.standsIn_placed wellFormed front) (ih behind)

/-! ### How a walk ends -/

/-- What a call is answered: a field, none at the end of the input, or a fault. -/
abbrev Answer := Except DecodeFault (Option RawField)

/-- The answer to the call behind the last field of a walk. -/
def Walk.ending (walked : Walk) : Answer :=
  match walked.fault with
  | none => .ok none
  | some fault => .error fault

/-- A fault that gives a place gives the one at which the field starts. -/
theorem eq_of_nextField_fieldStructure {offset place : Nat} {bytes : List UInt8} {reason : String}
    (failed : nextField offset bytes = .error (.fieldStructure place reason)) : place = offset := by
  unfold nextField at failed
  split at failed
  · cases failed
    rfl
  split at failed
  · cases failed
  split at failed
  · cases failed
    rfl
  · cases failed
    rfl
  · cases failed

theorem noFieldAt_of_nextField {offset place : Nat} {input : List UInt8} {fault : DecodeFault}
    (failed : nextField offset (input.drop place) = .error fault) : NoFieldAt input place := by
  rintro spelling wellFormed ⟨rest, whole⟩
  have found := (nextField_eq_ok_iff offset _ rest _).mpr ⟨spelling, wellFormed, rfl, whole.symm⟩
  rw [failed] at found
  cases found

/-- A walk ends where nothing is left, or where the field that is at fault starts. -/
theorem walk_ends (offset : Nat) (bytes : List UInt8) :
    (walk offset bytes).left = [] ∧ (walk offset bytes).ending = .ok none ∨
      ∃ fault, (walk offset bytes).left ≠ [] ∧ (walk offset bytes).ending = .error fault ∧
        nextField (offset + ((walk offset bytes).fields.flatMap RawField.bytes).length)
          (walk offset bytes).left = .error fault := by
  fun_induction walk offset bytes with
  | case1 offset => exact .inl ⟨rfl, rfl⟩
  | case2 offset bytes nonempty fault failed => exact .inr ⟨fault, nonempty, rfl, failed⟩
  | case3 offset bytes _ field rest found after ih =>
    obtain ⟨spelling, -, rfl, -⟩ := (nextField_eq_ok_iff _ _ _ _).mp found
    obtain ended | ⟨fault, more, ending, failed⟩ := ih
    · exact .inl ended
    · refine .inr ⟨fault, more, ending, ?_⟩
      rw [List.flatMap_cons, List.length_append, ← Nat.add_assoc]
      exact failed

/-! ### Calls -/

namespace FieldReader

/-- What one call can come to: the field that starts at the reader's place, or no move. -/
inductive Called (reader : FieldReader) : Answer × FieldReader → Prop
  | field {spelling : Spelling} {rest : List UInt8} (wellFormed : spelling.WellFormed)
      (front : reader.input.drop reader.offset = spelling.bytes ++ rest) :
      Called reader (.ok (some (spelling.placed reader.offset)),
        ⟨reader.input, reader.offset + spelling.bytes.length⟩)
  | ended (done : reader.input.drop reader.offset = []) : Called reader (.ok none, reader)
  | failed {fault : DecodeFault} (more : reader.input.drop reader.offset ≠ [])
      (failed : nextField reader.offset (reader.input.drop reader.offset) = .error fault) :
      Called reader (.error fault, reader)

theorem isDone_iff (reader : FieldReader) :
    reader.isDone = true ↔ reader.input.drop reader.offset = [] := by
  rw [isDone, decide_eq_true_iff, List.drop_eq_nil_iff]

theorem called_next (reader : FieldReader) : reader.Called reader.next := by
  unfold next
  split
  · rename_i done
    exact .ended (reader.isDone_iff.mp done)
  rename_i more
  rw [isDone_iff] at more
  split
  · rename_i fault failed
    exact .failed more failed
  · rename_i field rest found
    obtain ⟨spelling, wellFormed, rfl, front⟩ := (nextField_eq_ok_iff _ _ _ _).mp found
    exact .field wellFormed front

/-- The answers to so many calls, one after another, and the reader after them. -/
def ask (reader : FieldReader) : Nat → List Answer × FieldReader
  | 0 => ([], reader)
  | calls + 1 =>
    let later := reader.next.2.ask calls
    (reader.next.1 :: later.1, later.2)

/-- Calls answer with the fields of the walk over what is left, one each, and then with its ending. -/
theorem ask_eq (reader : FieldReader) (calls : Nat) :
    let walked := walk reader.offset (reader.input.drop reader.offset)
    reader.ask calls =
      ((walked.fields.take calls).map (fun field => .ok (some field)) ++
          List.replicate (calls - walked.fields.length) walked.ending,
        ⟨reader.input,
          reader.offset + ((walked.fields.take calls).flatMap RawField.bytes).length⟩) := by
  -- For every reader: a field leaves one that is further on, with the tail of this walk before it.
  induction calls generalizing reader with
  | zero => simp [ask]
  | succ calls ih =>
    have called := reader.called_next
    rw [ask]
    generalize reader.next = call at called ⊢
    dsimp only
    rw [ih]
    cases called with
    | @field spelling rest wellFormed front =>
      have behind : reader.input.drop (reader.offset + spelling.bytes.length) = rest := by
        rw [← List.drop_drop, front, List.drop_left]
      rw [behind, front, walk_cons _ _ _ wellFormed]
      simp only [List.take_succ_cons, List.map_cons, List.length_cons, Nat.add_sub_add_right,
        List.flatMap_cons, List.length_append, ← Nat.add_assoc, List.cons_append]
      rfl
    | ended done =>
      -- Without a field the reader has not moved, so the calls to come are answered as this one is.
      rw [done, walk_nil]
      simp [List.replicate_succ, Walk.ending]
    | failed more failed =>
      rw [walk_of_error more failed]
      simp [List.replicate_succ, Walk.ending]

/-- The equals sign that is found may stand behind the field's separator: then what is in front of it
is no tag, and the reader stays. -/
example : (start [49, 61, 97, 1, 50, 1, 51, 61, 98, 1]).ask 3 =
    ([.ok (some ⟨1, [49], [97], 0⟩), .error (.tagFormat "2\x013"), .error (.tagFormat "2\x013")],
      ⟨[49, 61, 97, 1, 50, 1, 51, 61, 98, 1], 4⟩) := by decide +kernel

end FieldReader

/-- How an input is read. Calls answer with these fields, one each, and then always alike, with the
reader at `offset`. -/
structure Reads (input : List UInt8) (fields : List RawField) (ending : Answer) (offset : Nat) :
    Prop where
  answers : ∀ calls, ((FieldReader.start input).ask calls).1 =
    (fields.take calls).map (fun field => .ok (some field)) ++
      List.replicate (calls - fields.length) ending
  /-- The fields so far tile the input up to the reader. -/
  tiles : ∀ calls, ∃ place, ((FieldReader.start input).ask calls).2 = ⟨input, place⟩ ∧
    Tiles input 0 (fields.take calls) place
  /-- Behind the last field the reader stays. -/
  rests : ∀ calls, fields.length ≤ calls →
    ((FieldReader.start input).ask calls).2 = ⟨input, offset⟩
  /-- Each field takes four bytes or more. -/
  bounded : 4 * fields.length ≤ offset
  /-- Reading ends with the input, or where a field should start and none does. -/
  ends : ending = .ok none ∧ offset = input.length ∨
    ∃ fault, ending = .error fault ∧ offset < input.length ∧ NoFieldAt input offset ∧
      ∀ place reason, fault = .fieldStructure place reason → place = offset

/-- Repeated calls are the walk over the input. -/
theorem reads_walk (input : List UInt8) :
    Reads input (walk 0 input).fields (walk 0 input).ending
      ((walk 0 input).offset input.length) := by
  have tiles : Tiles input 0 _ _ := tiles_walk List.drop_zero
  have asked := (FieldReader.start input).ask_eq
  simp only [FieldReader.start, List.drop_zero, Nat.zero_add] at asked tiles
  refine ⟨?_, ?_, ?_, ?_, ?_⟩
  · intro calls
    rw [FieldReader.start, asked]
  · intro calls
    have first := tiles.take calls
    rw [Nat.zero_add] at first
    exact ⟨_, by rw [FieldReader.start, asked], first⟩
  · intro calls enough
    rw [FieldReader.start, asked, List.take_of_length_le enough, offset_walk]
  · have bound := tiles.add_four_mul_length_le
    rwa [Nat.zero_add, ← offset_walk] at bound
  · obtain ⟨none, ending⟩ | ⟨fault, more, ending, failed⟩ := walk_ends 0 input
    · refine .inl ⟨ending, ?_⟩
      rw [Walk.offset, none, List.length_nil, Nat.sub_zero]
    · -- What the walk has left is the input from the reader's place on, and the fault is of a field
      -- that should start there.
      rw [Nat.zero_add, ← offset_walk] at failed
      rw [← drop_offset_walk] at more failed
      refine .inr ⟨fault, ending, ?_, noFieldAt_of_nextField failed, ?_⟩
      · rw [ne_eq, List.drop_eq_nil_iff] at more
        omega
      · rintro place reason rfl
        exact eq_of_nextField_fieldStructure failed

/-! ### What a writer appends -/

/-- Appends one field for each tag and value. -/
def FrameWriter.putAll (writer : FrameWriter) (puts : List (Tag × List UInt8)) : FrameWriter :=
  puts.foldl (fun writer put => writer.putBytes put.1 put.2) writer

/-- A tag and a value as a writer spells them. -/
def spelled (put : Tag × List UInt8) : Spelling := ⟨Numeral.digits put.1.toNat, put.2⟩

theorem FrameWriter.body_putAll (writer : FrameWriter) (puts : List (Tag × List UInt8)) :
    (writer.putAll puts).body = writer.body ++ (puts.map spelled).flatMap Spelling.bytes := by
  induction puts generalizing writer with
  | nil => simp [putAll]
  | cons put rest ih =>
    have later := ih (writer.putBytes put.1 put.2)
    rw [putAll] at later
    rw [putAll, List.foldl_cons, later, List.map_cons, List.flatMap_cons, ← List.append_assoc]
    rfl

/-- What is spelled can be read back wherever it stands. -/
theorem map_placeAll_spelled (start : Nat) (puts : List (Tag × List UInt8)) :
    (placeAll start (puts.map spelled)).map (fun field => (field.tag, field.value)) = puts := by
  induction puts generalizing start with
  | nil => rfl
  | cons put rest ih =>
    rw [List.map_cons, placeAll, List.map_cons, ih]
    simp [Spelling.placed, Spelling.number, spelled, Numeral.digitsValue_digits]

/-- **Fields tile the input.** Whatever the input is, repeated calls come to an end, which is that of
the walk: after any number of them, the fields returned stand in the input one behind the other, from
its start to the reader's place, and the reader comes to rest at the end of the input or where the
field at fault starts. And whatever fields a writer appends, under positive tags and with values that
can stand in a field, calls over what it has appended return just these and then none. -/
theorem calls_tile_input :
    (∀ input : List UInt8,
      Reads input (walk 0 input).fields (walk 0 input).ending
        ((walk 0 input).offset input.length)) ∧
    ∀ (writer : FrameWriter) (puts : List (Tag × List UInt8)),
      (∀ put ∈ puts, 0 < put.1 ∧ put.2 ≠ [] ∧ soh ∉ put.2) →
      ∃ appended fields, (writer.putAll puts).body = writer.body ++ appended ∧
        Reads appended fields (.ok none) appended.length ∧
        fields.map (fun field => (field.tag, field.value)) = puts := by
  refine ⟨reads_walk, ?_⟩
  intro writer puts fit
  have wellFormed : ∀ spelling ∈ puts.map spelled, spelling.WellFormed := by
    intro spelling member
    obtain ⟨put, listed, rfl⟩ := List.mem_map.mp member
    obtain ⟨positive, nonempty, absent⟩ := fit put listed
    exact Spelling.wellFormed_of_tag put.1 put.2 (UInt32.pos_iff_ne_zero.mp positive) nonempty absent
  have reads := reads_walk ((puts.map spelled).flatMap Spelling.bytes)
  rw [walk_spellings 0 _ wellFormed] at reads
  exact ⟨_, _, writer.body_putAll puts, reads, map_placeAll_spelled 0 puts⟩

/-- An equals sign in a value, and the largest tag with a byte that is no text. -/
theorem calls_tile_input_appended :
    let puts : List (Tag × List UInt8) := [(58, [97, 61, 98]), (4294967295, [255])]
    let bytes : List UInt8 :=
      [53, 56, 61, 97, 61, 98, 1, 52, 50, 57, 52, 57, 54, 55, 50, 57, 53, 61, 255, 1]
    (∀ put ∈ puts, 0 < put.1 ∧ put.2 ≠ [] ∧ soh ∉ put.2) ∧
      ((FrameWriter.start "FIX.4.4").putAll puts).body = bytes ∧
      ∃ fields, Reads bytes fields (.ok none) 20 ∧
        fields.map (fun field => (field.tag, field.value)) = puts := by
  intro puts bytes
  have fit : ∀ put ∈ puts, 0 < put.1 ∧ put.2 ≠ [] ∧ soh ∉ put.2 := by decide
  have written : ((FrameWriter.start "FIX.4.4").putAll puts).body = bytes := by decide +kernel
  obtain ⟨appended, fields, body, reads, same⟩ :=
    calls_tile_input.2 (FrameWriter.start "FIX.4.4") puts fit
  -- The writer has held nothing before, so its body is what has been appended.
  have whole : bytes = appended := written.symm.trans body
  subst whole
  exact ⟨fit, written, fields, reads, same⟩

end FixBench.Wire
