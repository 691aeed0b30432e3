import FixBench.Proofs.Text.Numeral
import FixBench.Proofs.Text.Utf8

/-!
# Numbers as text

The text of a number is made of the digits that stand for it on the wire (`encode_toString`), so all
that is known about those carries over to the values of fields. Conversely the bytes of a text are
digits exactly when its characters are (`digitsValue?_encode_iff`). A reader of 64-bit numbers, which
would also take a sign, agrees on every text of this kind (`unsigned_of_isDigit`).
-/
namespace FixBench.Numeral

/-! ### Bytes -/

theorem encode_digitChar {d : Nat} (small : d < 10) :
    Utf8.encode (String.ofList [Nat.digitChar d]) = [UInt8.ofNat (48 + d)] := by
  interval_cases d <;> rfl

/-- The text of a number and its bytes on the wire are the same digits. -/
theorem encode_toString (n : Nat) : Utf8.encode (toString n) = digits n := by
  induction n using Nat.strong_induction_on with
  | _ n ih =>
    rw [Nat.toString_eq_repr, Nat.repr_eq_ofList_toDigits, Nat.toDigits_eq_if (by omega), digits]
    split
    · rename_i small
      exact encode_digitChar small
    · have front := ih (n / 10) (by omega)
      rw [Nat.toString_eq_repr, Nat.repr_eq_ofList_toDigits] at front
      rw [String.ofList_append, Utf8.encode_append, front,
        encode_digitChar (Nat.mod_lt _ (by omega))]

theorem toString_ne_empty (n : Nat) : toString n ≠ "" := by
  intro empty
  have bytes := encode_toString n
  rw [empty] at bytes
  exact digits_ne_nil n bytes.symm

theorem notMem_encode_toString {b : UInt8} (other : isDigit b = false) (n : Nat) :
    b ∉ Utf8.encode (toString n) := by
  rw [encode_toString]
  exact notMem_of_isDigit other (isDigit_of_mem_digits n)

/-- Padding adds digits only. -/
theorem notMem_encode_padded {b : UInt8} (other : isDigit b = false) (width n : Nat) :
    b ∉ Utf8.encode (padded width n) := by
  have zeros (count : Nat) : b ∉ Utf8.encode (String.ofList (List.replicate count '0')) := by
    induction count with
    | zero => exact List.not_mem_nil
    | succ count ih =>
      have zero : Utf8.encode (String.ofList ['0']) = [48] := rfl
      rw [List.replicate_succ, ← List.singleton_append, String.ofList_append, Utf8.encode_append, zero,
        List.mem_append, not_or, List.mem_singleton]
      refine ⟨?_, ih⟩
      rintro rfl
      cases other
  rw [padded, Utf8.encode_append, List.mem_append, not_or]
  exact ⟨zeros _, notMem_encode_toString other n⟩

theorem isDigit_char_iff (c : Char) : c.isDigit = true ↔ 48 ≤ c.toNat ∧ c.toNat ≤ 57 := by
  rw [Char.isDigit, Bool.and_eq_true, decide_eq_true_eq, decide_eq_true_eq]
  exact Iff.rfl

theorem encode_ofList_cons (c : Char) (rest : List Char) :
    Utf8.encode (String.ofList (c :: rest)) =
      String.utf8EncodeChar c ++ Utf8.encode (String.ofList rest) := by
  have single : Utf8.encode (String.ofList [c]) = String.utf8EncodeChar c := by
    simp [Utf8.encode, List.utf8Encode_singleton]
  rw [← single, ← Utf8.encode_append, ← String.ofList_append, List.singleton_append]

theorem utf8EncodeChar_of_isDigit {c : Char} (digital : c.isDigit = true) :
    String.utf8EncodeChar c = [UInt8.ofNat c.toNat] := by
  rw [isDigit_char_iff] at digital
  have small : c.val.toNat ≤ 127 := Nat.le_trans digital.2 (by decide)
  exact if_pos small

/-- A character of several bytes begins with one that is no digit. -/
theorem isDigit_of_utf8EncodeChar {c : Char}
    (digital : ∀ b ∈ String.utf8EncodeChar c, isDigit b = true) : c.isDigit = true := by
  rw [isDigit_char_iff]
  simp only [isDigit_iff, String.utf8EncodeChar] at digital
  split at digital
  · rename_i small
    have only := digital _ (List.mem_singleton_self _)
    rw [UInt8.toNat_ofNat', Nat.mod_eq_of_lt (Nat.lt_of_le_of_lt small (by decide))] at only
    exact only
  · exfalso
    split at digital
    · have first := digital _ List.mem_cons_self
      rw [UInt8.toNat_ofNat'] at first
      omega
    · split at digital
      all_goals
        have first := digital _ List.mem_cons_self
        rw [UInt8.toNat_ofNat'] at first
        omega

theorem isDigit_encode_iff (text : List Char) :
    (∀ b ∈ Utf8.encode (String.ofList text), isDigit b = true) ↔ ∀ c ∈ text, c.isDigit = true := by
  induction text with
  | nil => simp [Utf8.encode]
  | cons c rest ih =>
    rw [encode_ofList_cons, List.forall_mem_append, ih, List.forall_mem_cons]
    refine and_congr_left fun _ => ⟨isDigit_of_utf8EncodeChar, fun digital => ?_⟩
    have byte := (isDigit_char_iff c).mp digital
    rw [utf8EncodeChar_of_isDigit digital, List.forall_mem_singleton, isDigit_iff,
      UInt8.toNat_ofNat']
    omega

/-- Both sides take in one digit after the other. -/
theorem foldl_encode (text : List Char) (digital : ∀ c ∈ text, c.isDigit = true) (value : Nat) :
    (Utf8.encode (String.ofList text)).foldl (fun value b => 10 * value + (b.toNat - 48)) value =
      Nat.ofDigitChars 10 text value := by
  induction text generalizing value with
  | nil => rfl
  | cons c rest ih =>
    rw [List.forall_mem_cons] at digital
    have byte := (isDigit_char_iff c).mp digital.1
    rw [encode_ofList_cons, utf8EncodeChar_of_isDigit digital.1, List.foldl_append, ih digital.2,
      Nat.ofDigitChars_cons, List.foldl_cons, List.foldl_nil, UInt8.toNat_ofNat',
      Nat.mod_eq_of_lt (by omega)]
    rfl

/-- The bytes of a text are read as a number exactly when its characters are digits, and then as the
number these show. -/
theorem digitsValue?_encode_iff (text : String) (value : Nat) :
    digitsValue? (Utf8.encode text) = some value ↔
      text ≠ "" ∧ (∀ c ∈ text.toList, c.isDigit = true) ∧
        Nat.ofDigitChars 10 text.toList 0 = value := by
  have bytes : Utf8.encode text = Utf8.encode (String.ofList text.toList) := by
    rw [String.ofList_toList]
  rw [digitsValue?_eq_some_iff, Ne, Utf8.encode_eq_nil_iff, bytes, isDigit_encode_iff]
  refine and_congr_right fun _ => and_congr_right fun digital => ?_
  rw [digitsValue, foldl_encode text.toList digital]

/-! ### Padded numbers -/

theorem toList_toString (n : Nat) : (toString n).toList = Nat.toDigits 10 n := by
  rw [Nat.toString_eq_repr, Nat.repr_eq_ofList_toDigits, String.toList_ofList]

/-- Padding does not change the number. -/
theorem ofDigitChars_padded (width n : Nat) :
    Nat.ofDigitChars 10 (padded width n).toList 0 = n := by
  rw [padded, String.toList_append, String.toList_ofList, Nat.ofDigitChars_append,
    Nat.ofDigitChars_replicate_zero, Nat.mul_zero, toList_toString, Nat.ofDigitChars_ten_toDigits]

theorem padded_injective (width : Nat) : Function.Injective (padded width) := by
  intro m n same
  rw [← ofDigitChars_padded width m, same, ofDigitChars_padded]

/-! ### Reading -/

theorem digit?_of_isDigit {c : Char} (digital : c.isDigit = true) :
    digit? c = some (c.toNat - '0'.toNat) := by
  rw [digit?, if_pos]
  simpa [Char.isDigit, Char.le_def] using digital

/-- More digits make no number smaller. -/
theorem le_ofDigitChars (digits : List Char) (value : Nat) :
    value ≤ Nat.ofDigitChars 10 digits value := by
  rw [Nat.ofDigitChars_eq_ofDigitChars_zero]
  exact Nat.le_add_right_of_le (Nat.le_mul_of_pos_left _ (Nat.pow_pos (by decide)))

theorem readDigits_of_isDigit {limit : Nat} (overflow : Fault) {text : List Char}
    (digital : ∀ c ∈ text, c.isDigit = true) {value : Nat}
    (small : Nat.ofDigitChars 10 text value < limit) :
    readDigits limit overflow value text = .ok (Nat.ofDigitChars 10 text value) := by
  induction text generalizing value with
  | nil => rfl
  | cons c rest ih =>
    rw [List.forall_mem_cons] at digital
    rw [Nat.ofDigitChars_cons] at small ⊢
    have inRange := Nat.lt_of_le_of_lt (le_ofDigitChars rest _) small
    rw [readDigits, digit?_of_isDigit digital.1]
    simp only [if_pos inRange]
    exact ih digital.2 small

/-- A number in digits alone is read as long as it is within range. -/
theorem unsigned_of_isDigit {limit : Nat} {text : String} (nonempty : text ≠ "")
    (digital : ∀ c ∈ text.toList, c.isDigit = true)
    (small : Nat.ofDigitChars 10 text.toList 0 < limit) :
    unsigned limit text = .ok (Nat.ofDigitChars 10 text.toList 0) := by
  have read := readDigits_of_isDigit .tooLarge digital small
  unfold unsigned
  -- Neither of the two signs is a digit.
  split
  · rename_i none
    exact absurd (String.toList_eq_nil_iff.mp none) nonempty
  · rename_i sign
    exact absurd (digital '+' (by rw [sign]; exact List.mem_cons_self)) (by decide)
  · rename_i sign
    exact absurd (digital '+' (by rw [sign]; exact List.mem_cons_self)) (by decide)
  · exact read

/-- A number within range is read back. -/
theorem unsigned_toString {limit n : Nat} (small : n < limit) :
    unsigned limit (toString n) = .ok n := by
  have value : Nat.ofDigitChars 10 (toString n).toList 0 = n := by
    rw [toList_toString, Nat.ofDigitChars_ten_toDigits]
  have digital : ∀ c ∈ (toString n).toList, c.isDigit = true := by
    rw [toList_toString]
    exact fun c member => Nat.isDigit_of_mem_toDigits (by omega) (Nat.le_refl 10) member
  have read := unsigned_of_isDigit (toString_ne_empty n) digital (value.trans_lt small)
  rwa [value] at read

end FixBench.Numeral
