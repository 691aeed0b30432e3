import Mathlib.Data.List.TakeWhile
import FixBench.Decimal.Arithmetic
import FixBench.Decimal.Text
import FixBench.Proofs.Text.NumberText

/-!
# Decimals in text

The text of a decimal is read back as the same decimal, digits after the point included; only the
sign of a zero is lost (`ofText?_toText`). So a message that carries a decimal can always be read.

A reader that goes through the digits knows the value of those it has seen. All of them together
make up the magnitude, which is in range, so none of the ways to give up digits is ever taken. Only
the digit that fills the scale is read by another branch of the reader, and it is the last.
-/
namespace FixBench.Decimal

/-- What the text of a decimal keeps of it: all but the sign of a zero. -/
def plain (a : Decimal) : Decimal := if a.isZero then { a with negative := false } else a

theorem plain_of_not_isZero {a : Decimal} (nonzero : a.isZero = false) : a.plain = a := by
  simp [plain, nonzero]

@[simp]
theorem isZero_plain (a : Decimal) : a.plain.isZero = a.isZero := by
  unfold plain
  split <;> rfl

@[simp]
theorem plain_plain (a : Decimal) : a.plain.plain = a.plain := by
  cases zero : a.isZero with
  | false => rw [plain_of_not_isZero zero, plain_of_not_isZero zero]
  | true => simp [plain, zero]

/-! ### The sign of a zero -/

theorem mul_plain_left (a b : Decimal) : a.plain.mul b = a.mul b := by
  cases zero : a.isZero with
  | false => rw [plain_of_not_isZero zero]
  | true => simp [mul, zero]

/-! ### Digits -/

theorem isDigit_of_mem_shownDigits (a : Decimal) {c : Char} (member : c ∈ a.shownDigits) :
    c.isDigit = true := by
  rw [shownDigits, List.mem_append] at member
  rcases member with padding | digit
  · rw [(List.mem_replicate.mp padding).2]
    rfl
  · exact Nat.isDigit_of_mem_toDigits (by decide) (Nat.le_refl 10) digit

theorem ofDigitChars_shownDigits (a : Decimal) :
    Nat.ofDigitChars 10 a.shownDigits 0 = a.magnitude := by
  rw [shownDigits, Nat.ofDigitChars_append, Nat.ofDigitChars_replicate_zero, Nat.mul_zero,
    Nat.ofDigitChars_ten_toDigits]

theorem scale_lt_length_shownDigits (a : Decimal) : a.scale < a.shownDigits.length := by
  simp only [shownDigits, List.length_append, List.length_replicate]
  omega

/-! ### Reading digits -/

/-- Digits before the point are read one by one as long as the number is in range. -/
theorem readChars_whole (seen : Bool) (scale : Nat) (rest digits : List Char) (value : Nat)
    (digital : ∀ c ∈ digits, c.isDigit = true)
    (small : Nat.ofDigitChars 10 digits value < capacity) :
    readChars false seen value scale (digits ++ rest) =
      readChars false (seen || !digits.isEmpty) (Nat.ofDigitChars 10 digits value) scale rest := by
  induction digits generalizing seen value with
  | nil => simp
  | cons c digits ih =>
    rw [Nat.ofDigitChars_cons] at small ⊢
    have first := Numeral.digit?_of_isDigit (digital c List.mem_cons_self)
    have inRange := Nat.lt_of_le_of_lt (Numeral.le_ofDigitChars digits _) small
    rw [List.cons_append, readChars, first]
    dsimp only
    rw [if_neg (Nat.not_le.mpr inRange)]
    simp only [Bool.false_and, Bool.false_eq_true, ↓reduceIte]
    rw [ih true _ (fun c member => digital c (List.mem_cons_of_mem _ member)) small]
    simp

theorem digitBehind_nil (long : Bool) : digitBehind long [] = 0 := by
  cases long <;> rfl

/-- Digits behind the point are read up to the end as long as there is room for them. -/
theorem readChars_fraction (digits : List Char) (value scale : Nat)
    (digital : ∀ c ∈ digits, c.isDigit = true)
    (small : Nat.ofDigitChars 10 digits value < capacity)
    (room : scale + digits.length ≤ maxScale) :
    readChars true true value scale digits =
      .ok (Nat.ofDigitChars 10 digits value, scale + digits.length) := by
  induction digits generalizing value scale with
  | nil => rfl
  | cons c digits ih =>
    rw [Nat.ofDigitChars_cons] at small ⊢
    rw [List.length_cons] at room ⊢
    have first := Numeral.digit?_of_isDigit (digital c List.mem_cons_self)
    have inRange := Nat.lt_of_le_of_lt (Numeral.le_ofDigitChars digits _) small
    rw [readChars, first]
    dsimp only
    rw [if_neg (Nat.not_le.mpr inRange)]
    by_cases full : maxScale ≤ scale + 1
    · -- The scale is full with this digit, so it is the last and nothing is left over to round on.
      have last : digits = [] := List.eq_nil_of_length_eq_zero (by omega)
      subst last
      simp only [Bool.true_and, full, decide_true, ↓reduceIte, digitBehind_nil]
      rfl
    · simp only [Bool.true_and, full, decide_false, Bool.false_eq_true, ↓reduceIte]
      rw [ih _ _ (fun c member => digital c (List.mem_cons_of_mem _ member)) small (by omega)]
      congr 2
      omega

/-! ### Reading back -/

/-- The text without its sign. -/
def unsignedChars (a : Decimal) : List Char :=
  a.shownDigits.take (a.shownDigits.length - a.scale) ++
    if a.scale = 0 then [] else '.' :: a.shownDigits.drop (a.shownDigits.length - a.scale)

theorem shownChars_eq (a : Decimal) :
    a.shownChars = (if a.negative then ['-'] else []) ++ a.unsignedChars := by
  simp only [shownChars, unsignedChars, List.append_assoc]

theorem readChars_unsignedChars (a : Decimal) :
    readChars false false 0 0 a.unsignedChars = .ok (a.magnitude, a.scale) := by
  have digital {c : Char} := @isDigit_of_mem_shownDigits a c
  have long := a.scale_lt_length_shownDigits
  have magnitude := a.ofDigitChars_shownDigits
  rw [← List.take_append_drop (a.shownDigits.length - a.scale) a.shownDigits,
    Nat.ofDigitChars_append] at magnitude
  have total : Nat.ofDigitChars 10 (a.shownDigits.drop (a.shownDigits.length - a.scale))
      (Nat.ofDigitChars 10 (a.shownDigits.take (a.shownDigits.length - a.scale)) 0) < capacity :=
    magnitude ▸ a.magnitude_lt
  have front := Nat.lt_of_le_of_lt (Numeral.le_ofDigitChars _ _) total
  have wholeSeen : (a.shownDigits.take (a.shownDigits.length - a.scale)).isEmpty = false := by
    rw [List.isEmpty_eq_false_iff, ← List.length_pos_iff, List.length_take]
    omega
  have fraction : (a.shownDigits.drop (a.shownDigits.length - a.scale)).length = a.scale := by
    rw [List.length_drop]
    omega
  -- The digits in front of the point are read first, and those behind it go on from their number.
  rw [unsignedChars,
    readChars_whole _ _ _ _ _ (fun c member => digital (List.mem_of_mem_take member)) front,
    wholeSeen]
  split
  · rename_i integral
    have none := List.eq_nil_of_length_eq_zero (fraction.trans integral)
    rw [none, Nat.ofDigitChars_nil] at magnitude
    rw [magnitude, integral]
    rfl
  · have point : Numeral.digit? '.' = none := rfl
    rw [readChars, point]
    simp only [Bool.not_false, Bool.or_true, Bool.and_true, decide_true, ↓reduceIte]
    rw [readChars_fraction _ _ _ (fun c member => digital (List.mem_of_mem_drop member)) total
      (by rw [fraction, Nat.zero_add]; exact a.scale_le), magnitude, fraction, Nat.zero_add]

theorem ofSigned_eq (a : Decimal) : ofSigned a.negative (a.magnitude, a.scale) = .ok a.plain := by
  have within : (withSign a.negative a.magnitude).natAbs < Nat.pow 2 96 ∧ a.scale ≤ 28 := by
    refine ⟨?_, a.scale_le⟩
    rw [withSign]
    split <;> simpa using a.magnitude_lt
  simp only [ofSigned, ofParts?, dif_pos within]
  rw [plain, isZero]
  rcases a with ⟨negative, magnitude, scale, magnitude_lt, scale_le⟩
  cases negative <;> by_cases zero : magnitude = 0 <;> simp [withSign, zero]
  omega

theorem ofChars_shownChars (a : Decimal) : ofChars a.shownChars = .ok a.plain := by
  have read := a.readChars_unsignedChars
  have signed := a.ofSigned_eq
  rw [shownChars_eq]
  cases negative : a.negative with
  | true =>
    rw [negative] at signed
    simp only [↓reduceIte, List.cons_append, List.nil_append, ofChars, read]
    exact signed
  | false =>
    rw [negative] at signed
    simp only [Bool.false_eq_true, ↓reduceIte, List.nil_append]
    -- The first character is a digit, so neither of the two signs.
    have first : ∃ c rest, a.unsignedChars = c :: rest ∧ c.isDigit = true := by
      have long := a.scale_lt_length_shownDigits
      have digital {c : Char} := @isDigit_of_mem_shownDigits a c
      rw [unsignedChars]
      cases whole : a.shownDigits.take (a.shownDigits.length - a.scale) with
      | nil =>
        have empty := congrArg List.length whole
        rw [List.length_take, List.length_nil] at empty
        omega
      | cons c rest =>
        refine ⟨c, _, rfl, digital (List.take_subset (a.shownDigits.length - a.scale) _ ?_)⟩
        rw [whole]
        exact List.mem_cons_self
    obtain ⟨c, rest, opens, digit⟩ := first
    rw [opens] at read ⊢
    unfold ofChars
    split
    · rename_i empty
      cases empty
    · rename_i sign
      cases sign
      cases digit
    · rename_i sign
      cases sign
      cases digit
    · rw [read]
      exact signed

theorem isExponentMark_of_mem_shownChars (a : Decimal) {c : Char} (member : c ∈ a.shownChars) :
    isExponentMark c = false := by
  have digits {c : Char} (digit : c.isDigit = true) : isExponentMark c = false := by
    rw [isExponentMark, Bool.or_eq_false_iff, decide_eq_false_iff_not, decide_eq_false_iff_not]
    constructor
    · rintro rfl
      cases digit
    · rintro rfl
      cases digit
  have digital {c : Char} := @isDigit_of_mem_shownDigits a c
  rw [shownChars_eq, unsignedChars, List.mem_append, List.mem_append] at member
  rcases member with sign | whole | fraction
  · split at sign
    · rw [List.mem_singleton.mp sign]
      rfl
    · cases sign
  · exact digits (digital (List.mem_of_mem_take whole))
  · split at fraction
    · cases fraction
    · rcases List.mem_cons.mp fraction with rfl | digit
      · rfl
      · exact digits (digital (List.mem_of_mem_drop digit))

/-- A decimal is read back from its text, but for the sign of a zero. -/
theorem ofText?_toText (a : Decimal) : ofText? a.toText = some a.plain := by
  have plainText : a.toText.toList.dropWhile (!isExponentMark ·) = [] := by
    rw [toText, String.toList_ofList, List.dropWhile_eq_nil_iff]
    intro c member
    rw [isExponentMark_of_mem_shownChars a member]
    rfl
  rw [ofText?, ofText, plainText]
  simp only [toText, String.toList_ofList, ofChars_shownChars]
  rfl

end FixBench.Decimal
