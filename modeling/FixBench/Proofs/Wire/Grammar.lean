import FixBench.Proofs.Failing
import FixBench.Proofs.Text.Utf8
import FixBench.Proofs.Wire.FieldWalk
import FixBench.Wire.Decode

/-!
# The grammar of a frame

`FrameSpelling` is a frame cut into the fields it is made of and `FrameSpelling.Valid` says which
of them are messages, without any reference to how bytes are read. Decoding accepts exactly the
bytes of the valid ones, and the message it returns is the one they carry.

Both directions go through `placeAll`: soundness starts from the spellings the walk has passed,
completeness from those of the frame. In between, `readBody` is described by what the fields it
still has to read must satisfy behind those it has seen (`Follows`), which is what its recursion
preserves.
-/
namespace FixBench.Wire

/-! ### Checksums -/

def byteSum (bytes : List UInt8) : Nat := (bytes.map UInt8.toNat).sum

/-- The checksum is the sum of the bytes modulo 256. -/
theorem toNat_checksum (bytes : List UInt8) : (checksum bytes).toNat = byteSum bytes % 256 := by
  -- The induction needs the sum over the bytes that have gone before.
  have generalized (start : UInt8) :
      (bytes.foldl (· + ·) start).toNat = (start.toNat + byteSum bytes) % 256 := by
    induction bytes generalizing start with
    | nil =>
      have := start.toNat_lt
      simp only [List.foldl_nil, byteSum, List.map_nil, List.sum_nil]
      omega
    | cons b rest ih =>
      simp only [List.foldl_cons, ih, byteSum, List.map_cons, List.sum_cons, UInt8.toNat_add]
      omega
  rw [checksum, generalized]
  simp

theorem checksum_eq (bytes : List UInt8) : checksum bytes = UInt8.ofNat (byteSum bytes) := by
  rw [← UInt8.toNat_inj, toNat_checksum, UInt8.toNat_ofNat']

theorem readChecksum?_eq_some_iff (bytes : List UInt8) (sum : UInt8) :
    readChecksum? bytes = some sum ↔
      bytes.length = 3 ∧ (∀ b ∈ bytes, Numeral.isDigit b = true) ∧
        Numeral.digitsValue bytes = sum.toNat := by
  unfold readChecksum?
  constructor
  · intro read
    split at read
    · rename_i three
      split at read
      · rename_i value found
        obtain ⟨_, digital, rfl⟩ := (Numeral.digitsValue?_eq_some_iff _ _).mp found
        split at read
        · rename_i small
          cases read
          exact ⟨three, digital, (UInt8.toNat_ofNat_of_lt' small).symm⟩
        · cases read
      · cases read
    · cases read
  · rintro ⟨three, digital, value⟩
    have nonempty : bytes ≠ [] := List.ne_nil_of_length_pos (by omega)
    have found := (Numeral.digitsValue?_eq_some_iff bytes _).mpr ⟨nonempty, digital, value⟩
    have small := sum.toNat_lt
    simp [three, found, small]

/-! ### Frames -/

namespace Spelling

/-- The field these bytes spell. -/
structure Denotes (spelling : Spelling) (field : Field) : Prop where
  tag : field.tag.toNat = spelling.number
  value : Utf8.encode field.value = spelling.value

end Spelling

/-- A frame as the fields it is made of. -/
structure FrameSpelling where
  version : Spelling
  length : Spelling
  body : List Spelling
  trailer : Spelling

namespace FrameSpelling

def spellings (frame : FrameSpelling) : List Spelling :=
  frame.version :: frame.length :: (frame.body ++ [frame.trailer])

def bodyBytes (frame : FrameSpelling) : List UInt8 := frame.body.flatMap Spelling.bytes

/-- The bytes in front of the trailer. -/
def head (frame : FrameSpelling) : List UInt8 :=
  frame.version.bytes ++ frame.length.bytes ++ frame.bodyBytes

def bytes (frame : FrameSpelling) : List UInt8 := frame.head ++ frame.trailer.bytes

/-- Which frames are messages. -/
structure Valid (frame : FrameSpelling) : Prop where
  wellFormed : ∀ spelling ∈ frame.spellings, spelling.WellFormed
  version_number : frame.version.number = 8
  version_value : [70, 73, 88] <+: frame.version.value
  version_text : frame.version.value.toByteArray.IsValidUTF8
  length_number : frame.length.number = 9
  length_digits : ∀ b ∈ frame.length.value, Numeral.isDigit b = true
  length_value : Numeral.digitsValue frame.length.value = frame.bodyBytes.length
  body_first : (frame.body.map Spelling.number).head? = some 35
  body_distinct : (frame.body.map Spelling.number).Nodup
  body_unframed : ∀ number ∈ frame.body.map Spelling.number,
    number ≠ 8 ∧ number ≠ 9 ∧ number ≠ 10
  body_header : ∀ number ∈ [49, 56, 34, 52], number ∈ frame.body.map Spelling.number
  body_text : ∀ spelling ∈ frame.body, spelling.value.toByteArray.IsValidUTF8
  trailer_number : frame.trailer.number = 10
  trailer_length : frame.trailer.value.length = 3
  trailer_digits : ∀ b ∈ frame.trailer.value, Numeral.isDigit b = true
  trailer_value : Numeral.digitsValue frame.trailer.value = byteSum frame.head % 256

/-- The message a frame carries: its version, the fields of its body in their order, and what the
frame says about its length and its checksum. -/
structure Carries (frame : FrameSpelling) (m : Message) : Prop where
  beginString : Utf8.encode m.beginString = frame.version.value
  fields : List.Forall₂ Spelling.Denotes frame.body m.fields
  wire : m.wire = some ⟨frame.bodyBytes.length, UInt8.ofNat (byteSum frame.head)⟩

/-- Where the trailer starts, counted from the front. -/
theorem length_head (frame : FrameSpelling) :
    frame.head.length =
      frame.version.bytes.length + frame.length.bytes.length + frame.bodyBytes.length := by
  rw [head, List.length_append, List.length_append]

theorem length_bytes (frame : FrameSpelling) :
    frame.bytes.length = frame.head.length + frame.trailer.bytes.length := by
  rw [bytes, List.length_append]

end FrameSpelling

/-! ### The body -/

theorem readText_eq_ok_iff (value : List UInt8) (text : String) :
    readText value = .ok text ↔ Utf8.encode text = value := by
  rw [← Utf8.decode_eq_ok_iff, readText]
  split <;> simp_all

theorem any_tag_iff (fields : List Field) (tag : Tag) :
    (fields.any (·.tag = tag)) = true ↔ tag ∈ fields.map Field.tag := by
  simp [List.any_eq_true]

/-- Fields that can stand in a body behind those already seen. -/
structure Follows (seen fields : List Field) : Prop where
  unframed : ∀ field ∈ fields,
    field.tag ≠ Tag.beginString ∧ field.tag ≠ Tag.bodyLength ∧ field.tag ≠ Tag.checkSum
  distinct : (fields.map Field.tag).Nodup
  fresh : ∀ field ∈ fields, field.tag ∉ seen.map Field.tag
  opened : seen = [] → (fields.map Field.tag).head? = some Tag.msgType

/-- One field more: what it must satisfy itself, and what is left to the others. -/
theorem follows_cons_iff (seen : List Field) (field : Field) (rest : List Field) :
    Follows seen (field :: rest) ↔
      (field.tag ≠ Tag.beginString ∧ field.tag ≠ Tag.bodyLength ∧ field.tag ≠ Tag.checkSum) ∧
        field.tag ∉ seen.map Field.tag ∧ (seen = [] → field.tag = Tag.msgType) ∧
        Follows (seen ++ [field]) rest := by
  constructor
  · rintro ⟨unframed, distinct, fresh, opened⟩
    rw [List.map_cons, List.nodup_cons] at distinct
    refine ⟨unframed field (by simp), fresh field (by simp), by simpa using opened, ?_⟩
    refine ⟨fun later member => unframed later (by simp [member]), distinct.2, ?_, by simp⟩
    intro later member
    rw [List.map_append, List.map_singleton, List.mem_append, List.mem_singleton, not_or]
    refine ⟨fresh later (by simp [member]), ?_⟩
    intro same
    exact distinct.1 (List.mem_map.mpr ⟨later, member, same⟩)
  · rintro ⟨first, new, opens, unframed, distinct, fresh, _⟩
    refine ⟨?_, ?_, ?_, by simpa using opens⟩
    · simp only [List.mem_cons, forall_eq_or_imp]
      exact ⟨first, unframed⟩
    · rw [List.map_cons, List.nodup_cons]
      refine ⟨?_, distinct⟩
      intro again
      obtain ⟨later, member, same⟩ := List.mem_map.mp again
      exact fresh later member (by simp [same])
    · simp only [List.mem_cons, forall_eq_or_imp]
      refine ⟨new, fun later member => ?_⟩
      have absent := fresh later member
      rw [List.map_append, List.mem_append, not_or] at absent
      exact absent.1

/-- What is read as the body of a frame are spellings of fields that follow those seen, up to the
first trailer. -/
theorem readBody_sound {atEnd : DecodeFault} {seen fields : List Field} {offset : Nat}
    {spellings : List Spelling} {trailer : RawField}
    (wellFormed : ∀ spelling ∈ spellings, spelling.WellFormed)
    (read : readBody atEnd seen (placeAll offset spellings) = .ok (fields, trailer)) :
    ∃ body last after texts, spellings = body ++ last :: after ∧ fields = seen ++ texts ∧
      last.number = 10 ∧ trailer = last.placed (offset + (body.flatMap Spelling.bytes).length) ∧
      Follows seen texts ∧ List.Forall₂ Spelling.Denotes body texts := by
  induction spellings generalizing seen offset with
  | nil => cases read
  | cons spelling rest ih =>
    have tag := spelling.toNat_tag_placed offset (wellFormed spelling (by simp))
    simp only [placeAll, readBody] at read
    split at read
    · cases read
    rename_i opens
    split at read
    · -- The trailer ends the body, whatever stands behind it.
      rename_i ten
      cases read
      refine ⟨[], spelling, rest, [], rfl, by simp, by rw [← tag, ten]; rfl, by simp, ?_, .nil⟩
      refine ⟨by simp, by simp, by simp, fun none => ?_⟩
      exact absurd ⟨none, by rw [ten]; decide⟩ opens
    rename_i ten
    split at read
    · cases read
    rename_i other
    split at read
    · cases read
    rename_i text value
    -- A field of the body: it has passed every test that `Follows` makes of it, and the fields
    -- read later have passed them with this one among those seen.
    obtain ⟨body, last, after, texts, rfl, rfl, trailing, same, follows, denotes⟩ :=
      ih (fun later member => wellFormed later (by simp [member])) read
    refine ⟨spelling :: body, last, after, ⟨(spelling.placed offset).tag, text⟩ :: texts, rfl,
      by simp, trailing, ?_, ?_, ?_⟩
    · rw [same, List.flatMap_cons, List.length_append, Nat.add_assoc]
    · rw [any_tag_iff, not_or, not_or] at other
      refine (follows_cons_iff _ _ _).mpr ⟨⟨other.1, other.2.1, ten⟩, other.2.2, ?_, follows⟩
      intro none
      by_contra unopened
      exact opens ⟨none, unopened⟩
    · exact .cons ⟨tag, (readText_eq_ok_iff _ _).mp value⟩ denotes

/-- Spellings of fields that follow those seen are read as such, up to the trailer behind them. -/
theorem readBody_complete {atEnd : DecodeFault} {seen texts : List Field} (offset : Nat)
    {body : List Spelling} {last : Spelling} (wellFormed : ∀ spelling ∈ body, spelling.WellFormed)
    (closed : last.WellFormed) (ten : last.number = 10) (follows : Follows seen texts)
    (denotes : List.Forall₂ Spelling.Denotes body texts) :
    readBody atEnd seen (placeAll offset (body ++ [last])) =
      .ok (seen ++ texts, last.placed (offset + (body.flatMap Spelling.bytes).length)) := by
  induction denotes generalizing seen offset with
  | nil =>
    have tag : (last.placed offset).tag = Tag.checkSum :=
      (last.tag_placed_eq_iff offset _ closed).mpr ten
    -- A body without fields cannot open one, so something has been seen before the trailer.
    have opened : seen ≠ [] := by
      intro none
      cases follows.opened none
    simp [placeAll, readBody, tag, opened]
  | @cons spelling field body texts denotes _ ih =>
    obtain ⟨other, new, opens, follows⟩ := (follows_cons_iff _ _ _).mp follows
    have tag : (spelling.placed offset).tag = field.tag :=
      (spelling.tag_placed_eq_iff offset _ (wellFormed spelling (by simp))).mpr denotes.tag.symm
    have value : readText (spelling.placed offset).value = .ok field.value :=
      (readText_eq_ok_iff _ _).mpr denotes.value
    have rest := ih (offset + spelling.bytes.length)
      (fun later member => wellFormed later (by simp [member])) follows
    simp only [List.cons_append, placeAll, readBody, tag, value]
    rw [if_neg (by rintro ⟨none, unopened⟩; exact unopened (opens none)), if_neg other.2.2,
      if_neg (by rw [any_tag_iff, not_or, not_or]; exact ⟨other.1, other.2.1, new⟩), rest]
    simp [List.flatMap_cons, Nat.add_assoc]

/-! ### The whole frame -/

theorem checkTotals_eq_ok_iff (input : List UInt8) (start declared : Nat) (fields : List Field)
    (trailer : RawField) (sum : UInt8) :
    checkTotals input start declared fields trailer = .ok sum ↔
      trailer.offset - start = declared ∧ readChecksum? trailer.value = some sum ∧
        checksum (input.take trailer.offset) = sum ∧ input.length ≤ trailer.stop ∧
        ∀ tag ∈ Tag.requiredHeader, tag ∈ fields.map Field.tag := by
  unfold checkTotals
  constructor
  -- The checks are made one after the other, and each must have been passed.
  · intro checked
    dsimp only at checked
    split at checked
    · cases checked
    rename_i length
    split at checked
    · cases checked
    rename_i value read
    split at checked
    · cases checked
    rename_i same
    split at checked
    · cases checked
    rename_i all
    split at checked
    · cases checked
    rename_i complete
    cases checked
    refine ⟨not_not.mp length, read, not_not.mp same, by omega, ?_⟩
    intro tag member
    have present := List.find?_eq_none.mp complete tag member
    rw [Bool.not_eq_true, Bool.not_eq_false'] at present
    exact (any_tag_iff _ _).mp present
  · rintro ⟨length, read, same, all, required⟩
    have complete : (Tag.requiredHeader.find? fun tag => !fields.any (·.tag = tag)) = none := by
      rw [List.find?_eq_none]
      intro tag member
      rw [Bool.not_eq_true, Bool.not_eq_false']
      exact (any_tag_iff _ _).mpr (required tag member)
    simp only [length, read, same, complete]
    rw [if_neg (by simp), if_neg (by simp), if_neg (by omega)]

/-- The totals over a frame are right if it says of itself what is the case, and nothing stands
behind it. -/
theorem checkTotals_frame_iff (frame : FrameSpelling) (behind : List UInt8) (declared : Nat)
    (fields : List Field) (sum : UInt8) :
    checkTotals (frame.bytes ++ behind) (frame.version.bytes.length + frame.length.bytes.length)
        declared fields (frame.trailer.placed frame.head.length) = .ok sum ↔
      frame.bodyBytes.length = declared ∧ readChecksum? frame.trailer.value = some sum ∧
        checksum frame.head = sum ∧ behind = [] ∧
        ∀ tag ∈ Tag.requiredHeader, tag ∈ fields.map Field.tag := by
  have offset : (frame.trailer.placed frame.head.length).offset = frame.head.length := rfl
  have value : (frame.trailer.placed frame.head.length).value = frame.trailer.value := rfl
  have actual : frame.head.length - (frame.version.bytes.length + frame.length.bytes.length) =
      frame.bodyBytes.length := by
    rw [frame.length_head, Nat.add_sub_cancel_left]
  have front : (frame.bytes ++ behind).take frame.head.length = frame.head := by
    rw [FrameSpelling.bytes, List.append_assoc, List.take_left]
  have all : (frame.bytes ++ behind).length ≤ (frame.trailer.placed frame.head.length).stop ↔
      behind = [] := by
    rw [Spelling.stop_placed, List.length_append, frame.length_bytes, ← List.length_eq_zero_iff]
    omega
  rw [checkTotals_eq_ok_iff, offset, value, actual, front, all]

theorem opensFrame_iff (field : RawField) :
    field.opensFrame = true ↔ field.tag = Tag.beginString ∧ [70, 73, 88] <+: field.value := by
  rw [RawField.opensFrame, Bool.and_eq_true, beq_iff_eq, beq_iff_eq, List.prefix_iff_eq_take]
  simp [eq_comm]

theorem readBodyLength_eq_ok_iff (value : List UInt8) (length : Nat) :
    readBodyLength value = .ok length ↔
      Numeral.digitsValue? value = some length ∧ length < Numeral.limit64 := by
  unfold readBodyLength
  constructor
  · intro read
    split at read
    · rename_i declared found
      split at read
      · rename_i small
        cases read
        exact ⟨found, small⟩
      · cases read
    · cases read
  · rintro ⟨found, small⟩
    simp only [found, if_pos small]

/-- The steps of an accepting run. -/
theorem decode_eq_ok_iff (input : List UInt8) (m : Message) :
    decode input = .ok m ↔
      ∃ first second rest length trailer sum, (walk 0 input).fields = first :: second :: rest ∧
        first.opensFrame = true ∧ readText first.value = .ok m.beginString ∧
        second.tag = Tag.bodyLength ∧ readBodyLength second.value = .ok length ∧
        readBody ((walk 0 input).fault.getD .noChecksum) [] rest = .ok (m.fields, trailer) ∧
        checkTotals input second.stop length m.fields trailer = .ok sum ∧
        m.wire = some ⟨length, sum⟩ := by
  unfold decode
  constructor
  · intro decoded
    split at decoded
    · cases decoded
    dsimp only at decoded
    split at decoded
    · cases decoded
    rename_i first others fields
    split at decoded
    · cases decoded
    rename_i opens
    rw [bind_eq_ok_iff] at decoded
    obtain ⟨beginString, text, decoded⟩ := decoded
    split at decoded
    · cases decoded
    rename_i second rest
    split at decoded
    · cases decoded
    rename_i nine
    simp only [bind_eq_ok_iff, pure_eq_ok_iff] at decoded
    obtain ⟨length, declared, ⟨texts, trailer⟩, body, sum, totals, rfl⟩ := decoded
    exact ⟨first, second, rest, length, trailer, sum, fields, by simpa using opens, text,
      not_not.mp nine, declared, body, totals, rfl⟩
  · rintro ⟨first, second, rest, length, trailer, sum, fields, opens, text, nine, declared, body,
      totals, wire⟩
    -- The empty input is refused before the walk, but the walk would find no field in it either.
    have nonempty : input ≠ [] := by
      rintro rfl
      rw [walk_nil] at fields
      cases fields
    obtain ⟨beginString, texts, info⟩ := m
    cases wire
    rw [if_neg nonempty]
    simp [fields, opens, text, nine, declared, body, totals, bind, Except.bind, pure, Except.pure]

/-! ### Fields and their spellings -/

/-- The tags of some fields as plain numbers. -/
def numbers (fields : List Field) : List Nat := fields.map fun field => field.tag.toNat

theorem map_number_of_denotes {body : List Spelling} {texts : List Field}
    (denotes : List.Forall₂ Spelling.Denotes body texts) :
    body.map Spelling.number = numbers texts := by
  induction denotes with
  | nil => rfl
  | cons first _ ih => rw [List.map_cons, ih, ← first.tag, numbers, numbers, List.map_cons]

theorem toNat_mem_numbers_iff (fields : List Field) (tag : Tag) :
    tag.toNat ∈ numbers fields ↔ tag ∈ fields.map Field.tag := by
  simp [numbers, UInt32.toNat_inj]

theorem nodup_numbers_iff (fields : List Field) :
    (numbers fields).Nodup ↔ (fields.map Field.tag).Nodup := by
  have map : numbers fields = (fields.map Field.tag).map UInt32.toNat := by
    rw [numbers, List.map_map]
    rfl
  rw [map]
  exact List.nodup_map_iff fun _ _ => UInt32.toNat_inj.mp

/-- Which fields make up a body, said of the numbers of their tags. -/
theorem follows_nil_iff (fields : List Field) :
    Follows [] fields ↔
      (numbers fields).head? = some 35 ∧ (numbers fields).Nodup ∧
        ∀ number ∈ numbers fields, number ≠ 8 ∧ number ≠ 9 ∧ number ≠ 10 := by
  -- Tags are told apart by their numbers, so both sides say the same of the first field and of the
  -- reserved ones.
  have first : (numbers fields).head? = some 35 ↔
      (fields.map Field.tag).head? = some Tag.msgType := by
    cases fields with
    | nil => simp [numbers]
    | cons field rest =>
      simp only [numbers, List.map_cons, List.head?_cons, Option.some.injEq, ← UInt32.toNat_inj]
      rfl
  have framing (field : Field) :
      field.tag ≠ Tag.beginString ∧ field.tag ≠ Tag.bodyLength ∧ field.tag ≠ Tag.checkSum ↔
        field.tag.toNat ≠ 8 ∧ field.tag.toNat ≠ 9 ∧ field.tag.toNat ≠ 10 := by
    simp only [ne_eq, ← UInt32.toNat_inj]
    rfl
  rw [first, nodup_numbers_iff]
  constructor
  · rintro ⟨unframed, distinct, _, opened⟩
    refine ⟨opened rfl, distinct, ?_⟩
    intro number member
    obtain ⟨field, present, rfl⟩ := List.mem_map.mp member
    exact (framing field).mp (unframed field present)
  · rintro ⟨opened, distinct, unframed⟩
    refine ⟨?_, distinct, by simp, fun _ => opened⟩
    intro field present
    exact (framing field).mpr (unframed _ (List.mem_map.mpr ⟨field, present, rfl⟩))

theorem required_iff (fields : List Field) :
    (∀ tag ∈ Tag.requiredHeader, tag ∈ fields.map Field.tag) ↔
      ∀ number ∈ [49, 56, 34, 52], number ∈ numbers fields := by
  have header : [49, 56, 34, 52] = Tag.requiredHeader.map UInt32.toNat := rfl
  simp only [header, List.forall_mem_map, toNat_mem_numbers_iff]

theorem isValidUTF8_of_denotes {body : List Spelling} {texts : List Field}
    (denotes : List.Forall₂ Spelling.Denotes body texts) :
    ∀ spelling ∈ body, spelling.value.toByteArray.IsValidUTF8 := by
  induction denotes with
  | nil => simp
  | cons first _ ih =>
    simp only [List.mem_cons, forall_eq_or_imp]
    exact ⟨(Utf8.isValidUTF8_iff _).mpr ⟨_, first.value⟩, ih⟩

/-- Well-formed spellings of valid text are spellings of fields. -/
theorem exists_denoted {body : List Spelling} (wellFormed : ∀ spelling ∈ body, spelling.WellFormed)
    (valid : ∀ spelling ∈ body, spelling.value.toByteArray.IsValidUTF8) :
    ∃ texts, List.Forall₂ Spelling.Denotes body texts := by
  induction body with
  | nil => exact ⟨[], .nil⟩
  | cons spelling rest ih =>
    simp only [List.mem_cons, forall_eq_or_imp] at wellFormed valid
    obtain ⟨texts, denotes⟩ := ih wellFormed.2 valid.2
    obtain ⟨text, value⟩ := (Utf8.isValidUTF8_iff _).mp valid.1
    have tag := spelling.toNat_tag_placed 0 wellFormed.1
    exact ⟨⟨_, text⟩ :: texts, .cons ⟨tag, value⟩ denotes⟩

/-- A frame is valid if its body spells fields a body can hold and its other fields are read as
what is the case. -/
theorem FrameSpelling.valid_of_denotes {frame : FrameSpelling} {texts : List Field}
    (wellFormed : ∀ spelling ∈ frame.spellings, spelling.WellFormed)
    (denotes : List.Forall₂ Spelling.Denotes frame.body texts) (follows : Follows [] texts)
    (required : ∀ tag ∈ Tag.requiredHeader, tag ∈ texts.map Field.tag)
    (eight : frame.version.number = 8) (fix : [70, 73, 88] <+: frame.version.value)
    (version : ∃ text, Utf8.encode text = frame.version.value) (nine : frame.length.number = 9)
    (length : Numeral.digitsValue? frame.length.value = some frame.bodyBytes.length)
    (ten : frame.trailer.number = 10)
    (sum : readChecksum? frame.trailer.value = some (checksum frame.head)) : frame.Valid := by
  obtain ⟨_, length_digits, length_value⟩ := (Numeral.digitsValue?_eq_some_iff _ _).mp length
  obtain ⟨three, digital, value⟩ := (readChecksum?_eq_some_iff _ _).mp sum
  obtain ⟨first, distinct, unframed⟩ := (follows_nil_iff texts).mp follows
  have tags := map_number_of_denotes denotes
  exact {
    wellFormed := wellFormed
    version_number := eight
    version_value := fix
    version_text := (Utf8.isValidUTF8_iff _).mpr version
    length_number := nine
    length_digits := length_digits
    length_value := length_value
    body_first := by rw [tags]; exact first
    body_distinct := by rw [tags]; exact distinct
    body_unframed := by rw [tags]; exact unframed
    body_header := by rw [tags]; exact (required_iff texts).mp required
    body_text := isValidUTF8_of_denotes denotes
    trailer_number := ten
    trailer_length := three
    trailer_digits := digital
    trailer_value := by rw [← toNat_checksum]; exact value }

/-! ### Soundness and completeness -/

/-- An accepted input is a valid frame, and the message returned is what it carries. -/
theorem decode_sound {input : List UInt8} {m : Message} (decoded : decode input = .ok m) :
    ∃ frame : FrameSpelling, frame.Valid ∧ frame.bytes = input ∧ frame.Carries m := by
  obtain ⟨first, second, rest, declared, trailer, sum, fields, opens, text, nine, length, body,
    totals, wire⟩ := (decode_eq_ok_iff input m).mp decoded
  obtain ⟨spellings, wellFormed, placed, passed⟩ := exists_spellings_walk 0 input
  rw [placed] at fields
  obtain ⟨version, lengthField, others, rfl⟩ : ∃ version lengthField others,
      spellings = version :: lengthField :: others := by
    match spellings with
    | [] => cases fields
    | [_] => cases fields
    | version :: lengthField :: others => exact ⟨version, lengthField, others, rfl⟩
  -- What `decode` has looked at are the spellings the walk has passed, each at its place.
  simp only [placeAll, List.cons.injEq] at fields
  obtain ⟨rfl, rfl, rfl⟩ := fields
  simp only [List.mem_cons, forall_eq_or_imp] at wellFormed
  obtain ⟨versionForm, lengthForm, othersForm⟩ := wellFormed
  obtain ⟨bodyPart, last, after, texts, rfl, same, ten, place, follows, denotes⟩ :=
    readBody_sound othersForm body
  let frame : FrameSpelling := ⟨version, lengthField, bodyPart, last⟩
  have whole : input = frame.bytes ++ (after.flatMap Spelling.bytes ++ (walk 0 input).left) := by
    conv_lhs => rw [passed]
    simp [frame, FrameSpelling.bytes, FrameSpelling.head, FrameSpelling.bodyBytes]
  have offset : 0 + version.bytes.length + lengthField.bytes.length +
      (bodyPart.flatMap Spelling.bytes).length = frame.head.length := by
    rw [frame.length_head, Nat.zero_add]
    rfl
  -- The totals leave no room for fields behind the trailer, nor for bytes the walk has not passed.
  rw [place, offset, whole, Spelling.stop_placed, Nat.zero_add] at totals
  obtain ⟨bodyLength, read, summed, nothing, required⟩ :=
    (checkTotals_frame_iff frame _ _ _ _).mp totals
  rw [nothing, List.append_nil] at whole
  rw [same, List.nil_append] at required
  rw [← summed] at read
  obtain ⟨eight, fix⟩ := (opensFrame_iff _).mp opens
  have version_text := (readText_eq_ok_iff _ _).mp text
  have length_read := ((readBodyLength_eq_ok_iff _ _).mp length).1
  rw [← bodyLength] at length_read
  refine ⟨frame, ?_, whole.symm, ?_⟩
  · refine FrameSpelling.valid_of_denotes ?_ denotes follows required
      ((version.tag_placed_eq_iff _ _ versionForm).mp eight) fix ⟨_, version_text⟩
      ((lengthField.tag_placed_eq_iff _ _ lengthForm).mp nine) length_read ten read
    simp only [frame, FrameSpelling.spellings, List.mem_cons, forall_eq_or_imp]
    refine ⟨versionForm, lengthForm, fun spelling member => othersForm spelling ?_⟩
    rw [List.mem_append, List.mem_singleton] at member
    rw [List.mem_append, List.mem_cons]
    rcases member with inside | same
    · exact Or.inl inside
    · exact Or.inr (Or.inl same)
  · exact {
      beginString := version_text
      fields := by rw [same]; exact denotes
      wire := by rw [wire, bodyLength, ← checksum_eq, summed] }

/-- A valid frame is accepted, with the message it carries, if the length it declares is a 64-bit
number. -/
theorem decode_of_valid {frame : FrameSpelling} {m : Message} (valid : frame.Valid)
    (carries : frame.Carries m) (fits : frame.bodyBytes.length < Numeral.limit64) :
    decode frame.bytes = .ok m := by
  have wellFormed := valid.wellFormed
  have walked : walk 0 frame.bytes = ⟨placeAll 0 frame.spellings, none, []⟩ := by
    rw [← walk_spellings 0 _ wellFormed]
    simp [FrameSpelling.bytes, FrameSpelling.head, FrameSpelling.bodyBytes, FrameSpelling.spellings]
  simp only [FrameSpelling.spellings, List.mem_cons, List.mem_append, forall_eq_or_imp] at wellFormed
  obtain ⟨versionForm, lengthForm, othersForm⟩ := wellFormed
  have trailerForm := othersForm frame.trailer (by simp)
  -- The grammar speaks of the numbers that are spelled, the decoder of the tags it has read.
  have follows : Follows [] m.fields := by
    rw [follows_nil_iff, ← map_number_of_denotes carries.fields]
    exact ⟨valid.body_first, valid.body_distinct, valid.body_unframed⟩
  have required := valid.body_header
  rw [map_number_of_denotes carries.fields, ← required_iff] at required
  refine (decode_eq_ok_iff _ _).mpr ⟨frame.version.placed 0, frame.length.placed _, _,
    frame.bodyBytes.length, _, UInt8.ofNat (byteSum frame.head), by rw [walked]; rfl, ?_, ?_, ?_, ?_,
    readBody_complete _ (fun spelling member => othersForm spelling (Or.inl member)) trailerForm
      valid.trailer_number follows carries.fields, ?_, carries.wire⟩
  · rw [opensFrame_iff]
    exact ⟨(frame.version.tag_placed_eq_iff _ _ versionForm).mpr valid.version_number,
      valid.version_value⟩
  · exact (readText_eq_ok_iff _ _).mpr carries.beginString
  · exact (frame.length.tag_placed_eq_iff _ _ lengthForm).mpr valid.length_number
  · rw [readBodyLength_eq_ok_iff, Numeral.digitsValue?_eq_some_iff]
    exact ⟨⟨lengthForm.value_ne_nil, valid.length_digits, valid.length_value⟩, fits⟩
  · have offset : 0 + frame.version.bytes.length + frame.length.bytes.length +
        (frame.body.flatMap Spelling.bytes).length = frame.head.length := by
      rw [frame.length_head, Nat.zero_add]
      rfl
    have totals := checkTotals_frame_iff frame [] frame.bodyBytes.length m.fields
      (UInt8.ofNat (byteSum frame.head))
    rw [List.append_nil] at totals
    rw [offset, Spelling.stop_placed, Nat.zero_add, totals]
    refine ⟨rfl, ?_, checksum_eq _, rfl, required⟩
    rw [readChecksum?_eq_some_iff, UInt8.toNat_ofNat']
    exact ⟨valid.trailer_length, valid.trailer_digits, valid.trailer_value⟩

/-- Lengths of inputs are 64-bit numbers, so that of the body is one too. -/
theorem decode_complete {frame : FrameSpelling} {m : Message} (valid : frame.Valid)
    (carries : frame.Carries m) (small : frame.bytes.length < Numeral.limit64) :
    decode frame.bytes = .ok m := by
  apply decode_of_valid valid carries
  rw [frame.length_bytes, frame.length_head] at small
  omega

/-- A valid frame carries a message. -/
theorem FrameSpelling.Valid.exists_carries {frame : FrameSpelling} (valid : frame.Valid) :
    ∃ m, frame.Carries m := by
  obtain ⟨beginString, version⟩ := (Utf8.isValidUTF8_iff _).mp valid.version_text
  have wellFormed (spelling : Spelling) (member : spelling ∈ frame.body) : spelling.WellFormed :=
    valid.wellFormed spelling (by simp [FrameSpelling.spellings, member])
  obtain ⟨texts, denotes⟩ := exists_denoted wellFormed valid.body_text
  exact ⟨⟨beginString, texts, _⟩, version, denotes, rfl⟩

/-- **Decoding accepts exactly its grammar.** An input, whose length is a 64-bit number, is
accepted if and only if it is the bytes of a valid frame, and then the message is the one that
frame carries. -/
theorem decode_accepts_grammar (input : List UInt8) (small : input.length < Numeral.limit64) :
    ((∃ m, decode input = .ok m) ↔ ∃ frame : FrameSpelling, frame.Valid ∧ frame.bytes = input) ∧
      ∀ (m : Message) (frame : FrameSpelling), decode input = .ok m → frame.Valid →
        frame.bytes = input → frame.Carries m := by
  refine ⟨⟨?_, ?_⟩, ?_⟩
  · rintro ⟨m, decoded⟩
    obtain ⟨frame, valid, bytes, _⟩ := decode_sound decoded
    exact ⟨frame, valid, bytes⟩
  · rintro ⟨frame, valid, rfl⟩
    obtain ⟨m, carries⟩ := valid.exists_carries
    exact ⟨m, decode_complete valid carries small⟩
  · rintro m frame decoded valid rfl
    obtain ⟨m', carries⟩ := valid.exists_carries
    rw [decode_complete valid carries small] at decoded
    cases decoded
    exact carries

/-- A frame with leading zeros in a tag and in the length, and with an equals sign and a character
of two bytes in a value. -/
def irregularFrame : FrameSpelling where
  version := ⟨[56], [70, 73, 88, 46, 52, 46, 52]⟩
  length := ⟨[57], [48, 51, 52]⟩
  body := [⟨[51, 53], [48]⟩, ⟨[52, 57], [65]⟩, ⟨[53, 54], [66]⟩, ⟨[51, 52], [49]⟩,
    ⟨[53, 50], [84]⟩, ⟨[48, 53, 56], [97, 61, 195, 169]⟩]
  trailer := ⟨[49, 48], [49, 52, 52]⟩

theorem valid_irregularFrame : irregularFrame.Valid where
  wellFormed := by decide
  version_number := by decide
  version_value := by decide
  version_text := (Utf8.isValidUTF8_iff _).mpr ⟨"FIX.4.4", by decide⟩
  length_number := by decide
  length_digits := List.all_eq_true.mp (by decide)
  length_value := by decide
  body_first := by decide
  body_distinct := by decide
  body_unframed := by decide
  body_header := by decide
  body_text := by
    have texts : ∀ spelling ∈ irregularFrame.body,
        ∃ text ∈ ["0", "A", "B", "1", "T", "a=é"], Utf8.encode text = spelling.value := by decide
    intro spelling member
    obtain ⟨text, _, same⟩ := texts spelling member
    exact (Utf8.isValidUTF8_iff _).mpr ⟨text, same⟩
  trailer_number := by decide
  trailer_length := by decide
  trailer_digits := List.all_eq_true.mp (by decide)
  trailer_value := by decide

theorem decode_accepts_grammar_irregular :
    irregularFrame.bytes.length < Numeral.limit64 ∧
      ∃ m, decode irregularFrame.bytes = .ok m ∧ irregularFrame.Carries m := by
  have small : irregularFrame.bytes.length < Numeral.limit64 := by decide
  obtain ⟨accepts, carries⟩ := decode_accepts_grammar irregularFrame.bytes small
  obtain ⟨m, decoded⟩ := accepts.mpr ⟨irregularFrame, valid_irregularFrame, rfl⟩
  exact ⟨small, m, decoded, carries m irregularFrame decoded valid_irregularFrame rfl⟩

end FixBench.Wire
