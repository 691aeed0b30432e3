import Mathlib.Tactic
import FixBench.Text.Numeral

/-!
# Decimal digits of a natural number

`digits` writes the shortest digit string of a number and `digitsValue` reads any digit string, so
reading undoes writing. The length of what is written is bounded by the size of the number, which
is what lets a written tag pass a reader that counts digits before it looks at their value; and no
spelling of a number is shorter than the one that is written.
-/
namespace FixBench.Numeral

theorem isDigit_iff (b : UInt8) : isDigit b = true ↔ 48 ≤ b.toNat ∧ b.toNat ≤ 57 := by
  simp [isDigit, UInt8.le_iff_toNat_le]

theorem toNat_digit {d : Nat} (small : d < 10) : (UInt8.ofNat (48 + d)).toNat = 48 + d := by
  rw [UInt8.toNat_ofNat']
  omega

theorem notMem_of_isDigit {b : UInt8} {bytes : List UInt8} (other : isDigit b = false)
    (digital : ∀ b ∈ bytes, isDigit b = true) : b ∉ bytes := by
  intro member
  rw [digital b member] at other
  cases other

theorem isDigit_digit {d : Nat} (small : d < 10) : isDigit (UInt8.ofNat (48 + d)) = true := by
  rw [isDigit_iff, toNat_digit small]
  omega

theorem digitsValue_append_singleton (front : List UInt8) (last : UInt8) :
    digitsValue (front ++ [last]) = 10 * digitsValue front + (last.toNat - 48) := by
  simp [digitsValue, List.foldl_append]

theorem digits_ne_nil (n : Nat) : digits n ≠ [] := by
  rw [digits]
  split <;> simp

theorem isDigit_of_mem_digits (n : Nat) : ∀ b ∈ digits n, isDigit b = true := by
  induction n using Nat.strong_induction_on with
  | _ n ih =>
    intro b member
    rw [digits] at member
    split at member
    · rename_i small
      rw [List.mem_singleton] at member
      exact member ▸ isDigit_digit small
    · rw [List.mem_append, List.mem_singleton] at member
      rcases member with front | last
      · exact ih (n / 10) (by omega) b front
      · exact last ▸ isDigit_digit (Nat.mod_lt _ (by omega))

/-- Reading undoes writing. -/
theorem digitsValue_digits (n : Nat) : digitsValue (digits n) = n := by
  induction n using Nat.strong_induction_on with
  | _ n ih =>
    rw [digits]
    split
    · rename_i small
      simp only [digitsValue, List.foldl_cons, List.foldl_nil, toNat_digit small]
      omega
    · have last := toNat_digit (Nat.mod_lt n (show 0 < 10 by omega))
      rw [digitsValue_append_singleton, ih (n / 10) (by omega), last]
      omega

/-- A number below `10 ^ width` is written with at most `width` digits. -/
theorem length_digits_le (width n : Nat) (positive : 0 < width) (small : n < 10 ^ width) :
    (digits n).length ≤ width := by
  induction width generalizing n with
  | zero => omega
  | succ width ih =>
    rw [digits]
    split
    · simp
    · rename_i large
      -- A second digit is written only for a number that does not fit into one.
      have wide : 0 < width := by
        by_contra none
        have : width = 0 := by omega
        subst width
        omega
      have front := ih (n / 10) wide (by rw [pow_succ] at small; omega)
      simp only [List.length_append, List.length_singleton]
      omega

theorem digitsValue_lt_pow {bytes : List UInt8} (digital : ∀ b ∈ bytes, isDigit b = true) :
    digitsValue bytes < 10 ^ bytes.length := by
  induction bytes using List.reverseRecOn with
  | nil => simp [digitsValue]
  | append_singleton front last ih =>
    have small := ih fun b member => digital b (List.mem_append_left _ member)
    have digit := (isDigit_iff last).mp (digital last (by simp))
    rw [digitsValue_append_singleton, List.length_append, List.length_singleton, pow_succ]
    omega

/-- A number up to the one some digits denote is written with as many digits or with fewer. -/
theorem length_digits_le_length {bytes : List UInt8} {n : Nat} (nonempty : bytes ≠ [])
    (digital : ∀ b ∈ bytes, isDigit b = true) (small : n ≤ digitsValue bytes) :
    (digits n).length ≤ bytes.length :=
  length_digits_le _ _ (List.length_pos_iff.mpr nonempty)
    (Nat.lt_of_le_of_lt small (digitsValue_lt_pow digital))

theorem digitsValue?_eq_some_iff (bytes : List UInt8) (value : Nat) :
    digitsValue? bytes = some value ↔
      bytes ≠ [] ∧ (∀ b ∈ bytes, isDigit b = true) ∧ digitsValue bytes = value := by
  unfold digitsValue?
  split
  · rename_i digital
    rw [List.all_eq_true] at digital
    constructor
    · intro found
      exact ⟨digital.1, digital.2, Option.some.inj found⟩
    · rintro ⟨_, _, rfl⟩
      rfl
  · rename_i other
    rw [List.all_eq_true] at other
    constructor
    · intro found
      cases found
    · rintro ⟨nonempty, digital, _⟩
      exact absurd ⟨nonempty, digital⟩ other

theorem digitsValue?_digits (n : Nat) : digitsValue? (digits n) = some n :=
  (digitsValue?_eq_some_iff _ _).mpr ⟨digits_ne_nil n, isDigit_of_mem_digits n, digitsValue_digits n⟩

end FixBench.Numeral
