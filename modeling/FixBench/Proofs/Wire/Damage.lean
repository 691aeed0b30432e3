import Mathlib.Data.List.Induction
import FixBench.Proofs.Wire.Grammar

/-!
# Damaged frames

A frame in which one byte has been replaced is never accepted. The checksum alone does not say so: a
separator that becomes a digit joins the trailer to the field in front of it, a byte that becomes a
separator cuts a field in two, and either could move the place up to which the sum is taken.

The argument looks at the last separator in front of the trailer's own. What stands up to there is
closed by it and what stands behind holds none, so bytes are split this way at one place only
(`eq_of_closed_append`). From this it follows that two frames that differ in one byte start their
trailers at the same place. Then a byte in front of it changes the sum, and the bytes of a trailer
are determined by what it says.
-/
namespace FixBench.Numeral

/-- Digit strings of one length are told apart by their values. -/
theorem eq_of_digitsValue_eq {left right : List UInt8} (length : left.length = right.length)
    (digital : ∀ b ∈ left, isDigit b = true) (digital' : ∀ b ∈ right, isDigit b = true)
    (value : digitsValue left = digitsValue right) : left = right := by
  induction left using List.reverseRecOn generalizing right with
  | nil => exact (List.length_eq_zero_iff.mp length.symm).symm
  | append_singleton front last ih =>
    rcases List.eq_nil_or_concat' right with rfl | ⟨front', last', rfl⟩
    · simp at length
    simp only [List.forall_mem_append, List.forall_mem_singleton, isDigit_iff] at digital digital'
    rw [digitsValue_append_singleton, digitsValue_append_singleton] at value
    have first : front = front' := by
      refine ih (by simpa using length) (fun b member => ?_) (fun b member => ?_) (by omega)
      · exact (isDigit_iff b).mpr (digital.1 b member)
      · exact (isDigit_iff b).mpr (digital'.1 b member)
    subst first
    have same : last = last' := UInt8.toNat_inj.mp (by omega)
    rw [same]

end FixBench.Numeral

namespace FixBench.Wire

/-! ### The last separator -/

/-- Nothing stands behind the last separator. -/
def Closed (bytes : List UInt8) : Prop := ∀ last ∈ bytes.getLast?, last = soh

theorem closed_append_soh (bytes : List UInt8) : Closed (bytes ++ [soh]) := by
  intro last member
  rw [List.getLast?_concat] at member
  exact (Option.some.inj member).symm

theorem closed_of_append_cons {front rest : List UInt8} {b : UInt8}
    (closed : Closed (front ++ b :: rest)) : Closed rest := by
  intro last member
  apply closed last
  rw [← List.singleton_append]
  exact List.mem_getLast?_append_of_mem_getLast? (List.mem_getLast?_append_of_mem_getLast? member)

theorem eq_nil_of_closed_append {front rest : List UInt8} (closed : Closed (front ++ rest))
    (absent : soh ∉ rest) : rest = [] := by
  rcases List.eq_nil_or_concat' rest with rfl | ⟨before, last, rfl⟩
  · rfl
  · have final : last = soh := closed last (by rw [← List.append_assoc, List.getLast?_concat]; rfl)
    simp [final] at absent

/-- Bytes are split behind their last separator at one place only. -/
theorem eq_of_closed_append {front front' rest rest' : List UInt8} (closed : Closed front)
    (closed' : Closed front') (absent : soh ∉ rest) (absent' : soh ∉ rest')
    (same : front ++ rest = front' ++ rest') : front = front' ∧ rest = rest' := by
  rcases List.append_eq_append_iff.mp same with ⟨between, rfl, rfl⟩ | ⟨between, rfl, rfl⟩
  · have none : between = [] :=
      eq_nil_of_closed_append closed' fun member => absent (List.mem_append_left _ member)
    simp [none]
  · have none : between = [] :=
      eq_nil_of_closed_append closed fun member => absent' (List.mem_append_left _ member)
    simp [none]

/-- A byte of two parts stands in one of them. -/
theorem split_of_append_eq {front rest before after : List UInt8} {b : UInt8}
    (same : front ++ rest = before ++ b :: after) :
    (∃ middle, front = before ++ b :: middle ∧ after = middle ++ rest) ∨
      ∃ middle, before = front ++ middle ∧ rest = middle ++ b :: after := by
  rcases List.append_eq_append_iff.mp same with ⟨middle, inFront, inRest⟩ | ⟨middle, inFront, inRest⟩
  · exact Or.inr ⟨middle, inFront, inRest⟩
  · cases middle with
    | nil => exact Or.inr ⟨[], by simpa using inFront.symm, by simpa using inRest.symm⟩
    | cons first middle =>
      obtain ⟨rfl, rfl⟩ := List.cons.inj inRest
      exact Or.inl ⟨middle, inFront, rfl⟩

/-! ### Fields and their separators -/

namespace Spelling

/-- A field without its separator. -/
def content (spelling : Spelling) : List UInt8 := spelling.digits ++ equals :: spelling.value

theorem bytes_eq_content (spelling : Spelling) : spelling.bytes = spelling.content ++ [soh] := by
  simp [bytes, content]

theorem equals_mem_content (spelling : Spelling) : equals ∈ spelling.content := by
  simp [content]

theorem soh_notMem_content {spelling : Spelling} (wellFormed : spelling.WellFormed) :
    soh ∉ spelling.content := by
  have digits : soh ∉ spelling.digits := Numeral.notMem_of_isDigit rfl wellFormed.isDigit_digits
  have value := wellFormed.soh_notMem_value
  have sign : soh ≠ equals := by decide
  simp [content, digits, value, sign]

/-- The only separator of a field is its last byte. -/
theorem soh_notMem_of_bytes_eq {spelling : Spelling} (wellFormed : spelling.WellFormed)
    {before after : List UInt8} {b : UInt8} (bytes : spelling.bytes = before ++ b :: after) :
    soh ∉ before := by
  have absent := soh_notMem_content wellFormed
  rw [bytes_eq_content] at bytes
  rcases split_of_append_eq bytes with ⟨middle, content, -⟩ | ⟨middle, rfl, last⟩
  · rw [content] at absent
    exact fun member => absent (List.mem_append_left _ member)
  · cases middle with
    | nil => rwa [List.append_nil]
    | cons first middle => simp at last

end Spelling

namespace FrameSpelling

theorem wellFormed_trailer {frame : FrameSpelling} (valid : frame.Valid) :
    frame.trailer.WellFormed :=
  valid.wellFormed _ (by simp [spellings])

/-- The bytes in front of the trailer end with a whole field. -/
theorem exists_last_field {frame : FrameSpelling} (valid : frame.Valid) :
    ∃ (front : List UInt8) (last : Spelling), frame.head = front ++ last.content ++ [soh] ∧
      Closed front ∧ last.WellFormed := by
  rcases List.eq_nil_or_concat' frame.body with none | ⟨others, last, body⟩
  · have first := valid.body_first
    rw [none] at first
    cases first
  · have wellFormed : last.WellFormed := valid.wellFormed last (by simp [spellings, body])
    refine ⟨frame.version.bytes ++ frame.length.bytes ++ others.flatMap Spelling.bytes, last, ?_, ?_,
      wellFormed⟩
    · simp [head, bodyBytes, body, Spelling.bytes_eq_content]
    · -- It ends with the field in front, be it one of the body or the length.
      rcases List.eq_nil_or_concat' others with rfl | ⟨others, last, rfl⟩
      · rw [List.flatMap_nil, List.append_nil, Spelling.bytes_eq_content frame.length,
          ← List.append_assoc]
        exact closed_append_soh _
      · rw [List.flatMap_append, List.flatMap_singleton, Spelling.bytes_eq_content last,
          ← List.append_assoc, ← List.append_assoc]
        exact closed_append_soh _

theorem closed_head {frame : FrameSpelling} (valid : frame.Valid) : Closed frame.head := by
  obtain ⟨front, last, same, _⟩ := exists_last_field valid
  rw [same]
  exact closed_append_soh _

/-! ### Two frames that differ in one byte -/

section
variable {frame frame' : FrameSpelling} (valid : frame.Valid) (valid' : frame'.Valid)
  {old new : UInt8}
include valid valid'

/-- No single byte joins a trailer to what stands in front of it. -/
theorem not_joined {middle middle' : List UInt8}
    (head : frame.head = frame'.head ++ middle' ++ old :: middle)
    (trailer : frame'.trailer.bytes = middle' ++ new :: middle ++ frame.trailer.bytes) : False := by
  rw [Spelling.bytes_eq_content, Spelling.bytes_eq_content, ← List.append_assoc,
    List.append_left_inj] at trailer
  have absent := Spelling.soh_notMem_content (wellFormed_trailer valid')
  rw [trailer] at absent
  simp only [List.mem_append, List.mem_cons, not_or] at absent
  obtain ⟨⟨absent', -, absent⟩, -⟩ := absent
  -- All of the joined part would belong to the digits of the tag.
  rw [Spelling.content, Spelling.content, ← List.append_assoc] at trailer
  have digits := (List.append_inj' trailer (by
    rw [List.length_cons, List.length_cons, valid.trailer_length, valid'.trailer_length])).1
  have digital := (wellFormed_trailer valid').isDigit_digits
  rw [digits] at digital
  have unequal : equals ∉ middle' :=
    Numeral.notMem_of_isDigit rfl fun b member => digital b (by simp [member])
  -- The byte replaced was the separator, and the field it closed is part of those digits.
  have closed := closed_head valid
  have nothing : middle = [] := by
    rw [head, ← List.singleton_append, ← List.append_assoc] at closed
    exact eq_nil_of_closed_append closed absent
  subst nothing
  have separator : old = soh := by
    rw [head] at closed
    exact closed old (by rw [List.getLast?_concat]; rfl)
  obtain ⟨front, last, ends, closedFront, wellFormed⟩ := exists_last_field valid
  rw [head, separator, List.append_left_inj] at ends
  have same := (eq_of_closed_append (closed_head valid') closedFront absent'
    (Spelling.soh_notMem_content wellFormed) ends).2
  exact unequal (same ▸ last.equals_mem_content)

/-- A byte in front of the trailer is fixed by the sum. -/
theorem eq_of_head {before middle : List UInt8} (head : frame.head = before ++ old :: middle)
    (head' : frame'.head = before ++ new :: middle)
    (trailer : frame.trailer.content = frame'.trailer.content) : old = new := by
  have value : frame.trailer.value = frame'.trailer.value := by
    have same := List.append_inj_right' trailer (by
      rw [List.length_cons, List.length_cons, valid.trailer_length, valid'.trailer_length])
    exact (List.cons.inj same).2
  -- Both sums are what the one trailer says, and they differ by the one byte.
  have sum := valid.trailer_value
  rw [value, valid'.trailer_value, head, head'] at sum
  simp only [byteSum, List.map_append, List.map_cons, List.sum_append, List.sum_cons] at sum
  have := old.toNat_lt
  have := new.toNat_lt
  exact UInt8.toNat_inj.mp (by omega)

/-- Trailers behind the same bytes are the same if they are of one length. -/
theorem trailer_eq (head : frame.head = frame'.head)
    (length : frame.trailer.content.length = frame'.trailer.content.length) :
    frame.trailer.content = frame'.trailer.content := by
  have three := valid.trailer_length.trans valid'.trailer_length.symm
  simp only [Spelling.content, List.length_append, List.length_cons, three] at length
  have digits := Numeral.eq_of_digitsValue_eq (by omega)
    (wellFormed_trailer valid).isDigit_digits (wellFormed_trailer valid').isDigit_digits
    (valid.trailer_number.trans valid'.trailer_number.symm)
  have value := Numeral.eq_of_digitsValue_eq three valid.trailer_digits valid'.trailer_digits
    (by rw [valid.trailer_value, valid'.trailer_value, head])
  rw [Spelling.content, Spelling.content, digits, value]

/-- Frames that agree in all bytes but one agree in that one. -/
theorem eq_of_bytes {before after : List UInt8} (bytes : frame.bytes = before ++ old :: after)
    (bytes' : frame'.bytes = before ++ new :: after) : old = new := by
  have closed := closed_head valid
  have closed' := closed_head valid'
  have formed := wellFormed_trailer valid
  have formed' := wellFormed_trailer valid'
  rcases split_of_append_eq bytes with ⟨middle, head, tail⟩ | ⟨middle, front, trailer⟩
  · rcases split_of_append_eq bytes' with ⟨middle', head', tail'⟩ | ⟨middle', front', trailer'⟩
    · -- In front of both trailers: what follows the byte is split behind its last separator.
      rw [tail, Spelling.bytes_eq_content, Spelling.bytes_eq_content, ← List.append_assoc,
        ← List.append_assoc, List.append_left_inj] at tail'
      rw [head] at closed
      rw [head'] at closed'
      obtain ⟨rfl, trailers⟩ := eq_of_closed_append (closed_of_append_cons closed)
        (closed_of_append_cons closed') (Spelling.soh_notMem_content formed)
        (Spelling.soh_notMem_content formed') tail'
      exact eq_of_head valid valid' head head' trailers
    · -- In front of one trailer and within the other: the byte would have joined the two.
      rw [front'] at head
      rw [tail, ← List.cons_append, ← List.append_assoc] at trailer'
      exact (not_joined valid valid' head trailer').elim
  · rcases split_of_append_eq bytes' with ⟨middle', head', tail'⟩ | ⟨middle', front', trailer'⟩
    · rw [front] at head'
      rw [tail', ← List.cons_append, ← List.append_assoc] at trailer
      exact (not_joined valid' valid head' trailer).elim
    · -- In both trailers: what stands in front of the byte is split behind its last separator.
      rw [front] at front'
      obtain ⟨heads, rfl⟩ := eq_of_closed_append closed closed'
        (Spelling.soh_notMem_of_bytes_eq formed trailer)
        (Spelling.soh_notMem_of_bytes_eq formed' trailer') front'
      have length : frame.trailer.bytes.length = frame'.trailer.bytes.length := by
        rw [trailer, trailer', List.length_append, List.length_append, List.length_cons,
          List.length_cons]
      rw [Spelling.bytes_eq_content, Spelling.bytes_eq_content, List.length_append,
        List.length_append, Nat.add_right_cancel_iff] at length
      have same := trailer_eq valid valid' heads length
      rw [Spelling.bytes_eq_content, same, ← Spelling.bytes_eq_content, trailer',
        List.append_right_inj] at trailer
      exact (List.cons.inj trailer).1.symm

end

end FrameSpelling

/-! ### Damaged input -/

/-- **A damaged byte is always noticed.** Whatever input is accepted, replacing any one of its bytes
by any other gives an input that is refused. -/
theorem decode_set_refused (input : List UInt8) (m : Message) (decoded : decode input = .ok m)
    (index : Nat) (inside : index < input.length) (byte : UInt8) (other : byte ≠ input[index]) :
    ∃ fault, decode (input.set index byte) = .error fault := by
  cases damaged : decode (input.set index byte) with
  | error fault => exact ⟨fault, rfl⟩
  | ok m' =>
    obtain ⟨frame, valid, bytes, -⟩ := decode_sound decoded
    obtain ⟨frame', valid', bytes', -⟩ := decode_sound damaged
    rw [List.set_eq_take_append_cons_drop, if_pos inside] at bytes'
    have whole : frame.bytes = input.take index ++ input[index] :: input.drop (index + 1) := by
      rw [List.getElem_cons_drop, List.take_append_drop, bytes]
    exact absurd (FrameSpelling.eq_of_bytes valid valid' whole bytes').symm other

/-- The separator in front of the trailer becomes a digit, which could be the first of its tag. -/
theorem decode_set_refused_joined :
    ∃ m, decode irregularFrame.bytes = .ok m ∧ ∃ inside : 49 < irregularFrame.bytes.length,
      irregularFrame.bytes[49] = soh ∧ (48 : UInt8) ≠ irregularFrame.bytes[49] ∧
        ∃ fault, decode (irregularFrame.bytes.set 49 48) = .error fault := by
  obtain ⟨m, carries⟩ := valid_irregularFrame.exists_carries
  have decoded := decode_complete valid_irregularFrame carries (by decide)
  have separator : irregularFrame.bytes[49] = soh := by decide
  have inside : 49 < irregularFrame.bytes.length := by decide
  have other : (48 : UInt8) ≠ irregularFrame.bytes[49] := by
    rw [separator]
    decide
  exact ⟨m, decoded, inside, separator, other, decode_set_refused _ m decoded 49 inside 48 other⟩

end FixBench.Wire
