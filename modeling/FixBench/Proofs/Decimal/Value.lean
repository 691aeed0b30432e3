import Mathlib.Data.Rat.Cast.Order
import Mathlib.Tactic.FieldSimp
import Mathlib.Tactic.Linarith
import Mathlib.Tactic.Positivity
import Mathlib.Tactic.Ring
import FixBench.Proofs.Decimal.Text

/-!
# The value of a decimal

A decimal stands for a rational number, and decimals are compared by their values. A sum may give up
digits, but it gives up none before the point: it fails only if the true sum is out of range. So the
difference of two decimals between zero and the larger one always exists (`exists_sub`), and a sum or
a difference is not negative if the true one is not (`value_add_nonneg`, `value_sub_nonneg`). Nor is a
sum ever rounded to zero: it is positive if both of its parts are (`value_add_pos`).

Whether a result keeps all of its digits is another matter (`addsExactly`, `subtractsExactly`,
`multipliesExactly`, `dividesExactly`).
-/
namespace FixBench.Decimal

def value (a : Decimal) : ℚ := a.coefficient / 10 ^ a.scale

/-! ### Comparison -/

theorem aligned_eq (a b : Decimal) :
    (a.aligned b : ℚ) = a.value * (10 ^ a.scale * 10 ^ b.scale) := by
  have positive : (10 : ℚ) ^ a.scale ≠ 0 := by positivity
  rw [aligned, value, Int.cast_mul, Nat.pow_eq]
  push_cast
  field_simp

theorem le_iff (a b : Decimal) : a ≤ b ↔ a.value ≤ b.value := by
  have positive : (0 : ℚ) < 10 ^ a.scale * 10 ^ b.scale := by positivity
  show a.aligned b ≤ b.aligned a ↔ _
  rw [← Int.cast_le (R := ℚ), aligned_eq, aligned_eq, mul_comm (10 ^ b.scale)]
  exact mul_le_mul_iff_left₀ positive

theorem lt_iff (a b : Decimal) : a < b ↔ a.value < b.value := by
  have positive : (0 : ℚ) < 10 ^ a.scale * 10 ^ b.scale := by positivity
  show a.aligned b < b.aligned a ↔ _
  rw [← Int.cast_lt (R := ℚ), aligned_eq, aligned_eq, mul_comm (10 ^ b.scale)]
  exact mul_lt_mul_iff_left₀ positive

theorem lt_of_not_le {a b : Decimal} (above : ¬ a ≤ b) : b < a := by
  rw [le_iff, not_le] at above
  exact (lt_iff b a).mpr above

theorem le_of_not_lt {a b : Decimal} (above : ¬ a < b) : b ≤ a := by
  rw [lt_iff, not_lt] at above
  exact (le_iff b a).mpr above

theorem le_self (a : Decimal) : a ≤ a := (le_iff a a).mpr le_rfl

theorem sameValue_iff (a b : Decimal) : a.sameValue b = true ↔ a.value = b.value := by
  have both : a.aligned b = b.aligned a ↔ a ≤ b ∧ b ≤ a := le_antisymm_iff
  rw [sameValue, beq_iff_eq, both, le_iff, le_iff, ← le_antisymm_iff]

@[simp]
theorem value_zero : zero.value = 0 := by
  simp [value, coefficient, withSign, zero]

theorem value_of_isZero {a : Decimal} (null : a.isZero = true) : a.value = 0 := by
  rw [isZero, beq_iff_eq] at null
  simp [value, coefficient, withSign, null]

theorem isZero_of_value {a : Decimal} (null : a.value = 0) : a.isZero = true := by
  have scaled : (10 : ℚ) ^ a.scale ≠ 0 := by positivity
  rw [value, div_eq_zero_iff, or_iff_left scaled, Int.cast_eq_zero, coefficient, withSign] at null
  rw [isZero, beq_iff_eq]
  split at null <;> omega

theorem isZero_of_pos {a : Decimal} (positive : 0 < a.value) : a.isZero = false := by
  rw [← Bool.not_eq_true]
  intro zero
  rw [value_of_isZero zero] at positive
  exact lt_irrefl _ positive

theorem value_neg (a : Decimal) : a.neg.value = -a.value := by
  unfold neg
  split
  · rename_i null
    rw [value_of_isZero null, neg_zero]
  · rw [value, value, ← neg_div, ← Int.cast_neg]
    cases negative : a.negative <;> simp [coefficient, withSign, negative]

/-- Text keeps the value of a decimal. -/
theorem value_plain (a : Decimal) : a.plain.value = a.value := by
  cases null : a.isZero with
  | false => rw [plain_of_not_isZero null]
  | true => rw [value_of_isZero null, value_of_isZero ((isZero_plain a).trans null)]

/-! ### Rounding -/

theorem halfEven_le {n d k : Nat} (positive : 0 < d) (small : n ≤ k * d) :
    Rounding.halfEven n d ≤ k := by
  have quotient := Nat.div_add_mod n d
  have below : n / d ≤ k := Nat.div_le_of_le_mul (by rwa [Nat.mul_comm])
  unfold Rounding.halfEven
  dsimp only
  split
  · rename_i up
    -- Rounding up leaves a remainder, so the quotient is not yet at the bound.
    by_contra beyond
    have atBound : n / d = k := by omega
    rw [atBound, Nat.mul_comm] at quotient
    omega
  · exact below

theorem div_le_halfEven (n d : Nat) : n / d ≤ Rounding.halfEven n d := by
  unfold Rounding.halfEven
  dsimp only
  split
  · exact Nat.le_succ _
  · exact Nat.le_refl _

/-- A number gives up digits only behind the point, so it fits as soon as its whole part does. -/
theorem exists_rounded {c : Int} {scale : Nat}
    (small : c.natAbs ≤ (capacity - 1) * Nat.pow 10 scale) : ∃ d, rounded? c scale = some d := by
  unfold rounded?
  cases found : (List.range (scale + 1)).find? fun drop =>
      scale - drop ≤ maxScale && Rounding.halfEven c.natAbs (Nat.pow 10 drop) < capacity with
  | none =>
    -- Not even dropping all digits behind the point would do, but the whole part fits.
    have last := List.find?_eq_none.mp found scale (List.mem_range.mpr (Nat.lt_succ_self _))
    have unit : 0 < Nat.pow 10 scale := Nat.pow_pos (by decide)
    have fits := halfEven_le unit small
    have room : 0 < capacity := by decide
    simp only [Nat.sub_self, Nat.zero_le, decide_true, Bool.true_and, decide_eq_true_eq] at last
    omega
  | some drop =>
    have fits := List.find?_some found
    rw [Bool.and_eq_true, decide_eq_true_eq, decide_eq_true_eq] at fits
    simp only [found]
    rw [ofParts?, dif_pos]
    · exact ⟨_, rfl⟩
    · refine ⟨?_, fits.1⟩
      rw [withSign]
      split
      · rw [Int.natAbs_neg, Int.natAbs_natCast]
        exact fits.2
      · rw [Int.natAbs_natCast]
        exact fits.2

theorem value_ofParts {c : Int} {scale : Nat} {d : Decimal} (made : ofParts? c scale = some d) :
    d.value = c / 10 ^ scale := by
  rw [ofParts?] at made
  split at made
  · cases made
    have coefficient_eq : withSign (c < 0) c.natAbs = c := by
      rw [withSign]
      split
      · rename_i negative
        rw [decide_eq_true_eq] at negative
        omega
      · rename_i positive
        rw [decide_eq_true_eq] at positive
        omega
    rw [value, coefficient, coefficient_eq]
  · cases made

theorem value_rounded_nonneg {c : Int} {scale : Nat} {d : Decimal} (nonneg : 0 ≤ c)
    (rounds : rounded? c scale = some d) : 0 ≤ d.value := by
  unfold rounded? at rounds
  dsimp only at rounds
  split at rounds
  · have sign : ¬ c < 0 := by omega
    rw [value_ofParts rounds, withSign]
    simp only [sign, decide_false, Bool.false_eq_true, ↓reduceIte]
    positivity
  · cases rounds

/-- No more digits are given up than have to be, so what is not zero is not rounded to zero. -/
theorem value_rounded_pos {c : Int} {scale : Nat} {d : Decimal} (positive : 0 < c)
    (bounded : scale ≤ maxScale) (rounds : rounded? c scale = some d) : 0 < d.value := by
  unfold rounded? at rounds
  dsimp only at rounds
  split at rounds
  · rename_i drop found
    rw [List.find?_range_eq_some] at found
    obtain ⟨-, -, least⟩ := found
    have sign : ¬ c < 0 := by omega
    have kept : 0 < Rounding.halfEven c.natAbs (Nat.pow 10 drop) := by
      refine lt_of_lt_of_le ?_ (div_le_halfEven ..)
      refine Nat.div_pos ?_ (Nat.pow_pos (by decide))
      cases drop with
      | zero =>
        show 1 ≤ c.natAbs
        omega
      | succ fewer =>
        -- One digit less did not fit, so there are many digits in front of the last one given up.
        have large := least fewer (Nat.lt_succ_self fewer)
        have scaled : scale - fewer ≤ maxScale := (Nat.sub_le ..).trans bounded
        simp only [scaled, decide_true, Bool.true_and, Bool.not_eq_eq_eq_not, Bool.not_true,
          decide_eq_false_iff_not, not_lt] at large
        by_contra small
        have tenth : c.natAbs ≤ 10 * Nat.pow 10 fewer := by
          have unit : Nat.pow 10 (fewer + 1) = Nat.pow 10 fewer * 10 := rfl
          omega
        have unit : 0 < Nat.pow 10 fewer := Nat.pow_pos (by decide)
        have few : Rounding.halfEven c.natAbs (Nat.pow 10 fewer) ≤ 10 := halfEven_le unit tenth
        have room : 10 < capacity := by decide
        omega
    rw [value_ofParts rounds, withSign]
    simp only [sign, decide_false, Bool.false_eq_true, ↓reduceIte]
    positivity
  · cases rounds

/-! ### Sums -/

/-- The coefficient a sum is rounded from. -/
theorem sum?_eq (a b : Decimal) :
    ∃ c : Int, (c : ℚ) = (a.value + b.value) * 10 ^ max a.scale b.scale ∧
      a.sum? b = rounded? c (max a.scale b.scale) := by
  refine ⟨_, ?_, rfl⟩
  have brought (d : Decimal) {scale : Nat} (below : d.scale ≤ scale) :
      (d.coefficient * (10 : ℚ) ^ (scale - d.scale)) = d.value * 10 ^ scale := by
    rw [value, div_mul_eq_mul_div, eq_div_iff (by positivity), mul_assoc, ← pow_add,
      Nat.sub_add_cancel below]
  rw [add_mul, ← brought a (Nat.le_max_left ..), ← brought b (Nat.le_max_right ..), Int.cast_add,
    Int.cast_mul, Int.cast_mul, Nat.pow_eq, Nat.pow_eq]
  push_cast
  rfl

theorem value_lt_capacity (a : Decimal) : a.value ≤ (capacity - 1 : Nat) := by
  have whole : (a.magnitude : ℚ) ≤ (capacity - 1 : Nat) := by
    have small : a.magnitude < capacity := a.magnitude_lt
    exact_mod_cast Nat.le_sub_one_of_lt small
  have unit : (1 : ℚ) ≤ 10 ^ a.scale := one_le_pow₀ (by norm_num)
  have above : (a.coefficient : ℚ) ≤ a.magnitude := by
    rw [coefficient, withSign]
    split
    · push_cast
      have : (0 : ℚ) ≤ a.magnitude := by positivity
      linarith
    · push_cast
      exact le_refl _
  rw [value, div_le_iff₀ (by positivity)]
  nlinarith [above, whole, unit]

/-- Subtracting from a decimal no more than it has is always possible. -/
theorem exists_sub {a b : Decimal} (nonneg : 0 ≤ b.value) (below : b.value ≤ a.value) :
    ∃ c, a.sub b = .ok c := by
  unfold sub
  split
  · exact ⟨_, rfl⟩
  · split
    · exact ⟨_, rfl⟩
    · obtain ⟨c, represents, rounds⟩ := sum?_eq a b.neg
      rw [value_neg] at represents
      have scaled : (0 : ℚ) < 10 ^ max a.scale b.neg.scale := by positivity
      have nonneg' : (0 : ℚ) ≤ c := by
        rw [represents]
        exact mul_nonneg (by linarith) scaled.le
      -- The difference lies between zero and the minuend, so its whole part fits.
      have small : (c : ℚ) ≤ (capacity - 1 : Nat) * 10 ^ max a.scale b.neg.scale := by
        rw [represents]
        exact mul_le_mul_of_nonneg_right (by linarith [a.value_lt_capacity]) scaled.le
      obtain ⟨d, fits⟩ : ∃ d, rounded? c (max a.scale b.neg.scale) = some d := by
        apply exists_rounded
        rw [← Int.ofNat_le, Int.natAbs_of_nonneg (by exact_mod_cast nonneg')]
        rw [Nat.pow_eq]
        exact_mod_cast small
      rw [rounds, fits]
      exact ⟨d, rfl⟩

theorem exists_sub_zero (a : Decimal) : ∃ c, a.sub zero = .ok c := by
  unfold sub
  split
  · exact ⟨_, rfl⟩
  · exact ⟨a, rfl⟩

theorem value_of_sub_zero {a c : Decimal} (subtracts : a.sub zero = .ok c) : c.value = a.value := by
  unfold sub at subtracts
  split at subtracts
  · rename_i zero
    cases subtracts
    rw [value_neg, value_zero, value_of_isZero zero, neg_zero]
  · cases subtracts
    rfl

theorem value_add_nonneg {a b c : Decimal} (first : 0 ≤ a.value) (second : 0 ≤ b.value)
    (adds : a.add b = .ok c) : 0 ≤ c.value := by
  unfold add at adds
  split at adds
  · cases adds
    exact second
  · split at adds
    · cases adds
      exact first
    · split at adds
      · rename_i d sums
        cases adds
        obtain ⟨n, represents, rounds⟩ := sum?_eq a b
        have nonneg : (0 : ℚ) ≤ n := by
          rw [represents]
          exact mul_nonneg (by linarith) (by positivity)
        exact value_rounded_nonneg (by exact_mod_cast nonneg) (rounds ▸ sums)
      · cases adds

theorem value_add_pos {a b c : Decimal} (first : 0 < a.value) (second : 0 < b.value)
    (adds : a.add b = .ok c) : 0 < c.value := by
  rw [add, isZero_of_pos first, isZero_of_pos second, if_neg Bool.false_ne_true,
    if_neg Bool.false_ne_true] at adds
  split at adds
  · rename_i d sums
    cases adds
    obtain ⟨n, represents, rounds⟩ := sum?_eq a b
    have positive : (0 : ℚ) < n := by
      rw [represents]
      exact mul_pos (by linarith) (by positivity)
    have bounded : max a.scale b.scale ≤ maxScale := max_le a.scale_le b.scale_le
    exact value_rounded_pos (by exact_mod_cast positive) bounded (rounds ▸ sums)
  · cases adds

/-- A difference is not negative if the true one is not. -/
theorem value_sub_nonneg {a b c : Decimal} (below : b.value ≤ a.value)
    (subtracts : a.sub b = .ok c) : 0 ≤ c.value := by
  unfold sub at subtracts
  split at subtracts
  · rename_i null
    cases subtracts
    rw [value_of_isZero null] at below
    rw [value_neg]
    linarith
  · split at subtracts
    · rename_i null
      cases subtracts
      rw [value_of_isZero null] at below
      exact below
    · split at subtracts
      · rename_i d sums
        cases subtracts
        obtain ⟨n, represents, rounds⟩ := sum?_eq a b.neg
        have nonneg : (0 : ℚ) ≤ n := by
          rw [represents, value_neg]
          exact mul_nonneg (by linarith) (by positivity)
        exact value_rounded_nonneg (by exact_mod_cast nonneg) (rounds ▸ sums)
      · cases subtracts

/-! ### Exact results -/

/-- The sum is not rounded, if there is one. -/
def addsExactly (a b : Decimal) : Bool :=
  match a.add b with
  | .ok c => c.value = a.value + b.value
  | .error _ => true

/-- The difference is not rounded, if there is one. -/
def subtractsExactly (a b : Decimal) : Bool :=
  match a.sub b with
  | .ok c => c.value = a.value - b.value
  | .error _ => true

/-- The product is not rounded, if there is one. -/
def multipliesExactly (a b : Decimal) : Bool :=
  match a.mul b with
  | .ok c => c.value = a.value * b.value
  | .error _ => true

/-- The quotient is not rounded, if there is one. -/
def dividesExactly (a b : Decimal) : Bool :=
  match a.div b with
  | .ok c => c.value = a.value / b.value
  | .error _ => true

theorem value_add_of_exactly {a b c : Decimal} (exactly : a.addsExactly b = true)
    (adds : a.add b = .ok c) : c.value = a.value + b.value := by
  rw [addsExactly, adds] at exactly
  exact of_decide_eq_true exactly

theorem value_sub_of_exactly {a b c : Decimal} (exactly : a.subtractsExactly b = true)
    (subtracts : a.sub b = .ok c) : c.value = a.value - b.value := by
  rw [subtractsExactly, subtracts] at exactly
  exact of_decide_eq_true exactly

theorem value_mul_of_exactly {a b c : Decimal} (exactly : a.multipliesExactly b = true)
    (multiplies : a.mul b = .ok c) : c.value = a.value * b.value := by
  rw [multipliesExactly, multiplies] at exactly
  exact of_decide_eq_true exactly

theorem value_div_of_exactly {a b c : Decimal} (exactly : a.dividesExactly b = true)
    (divides : a.div b = .ok c) : c.value = a.value / b.value := by
  rw [dividesExactly, divides] at exactly
  exact of_decide_eq_true exactly

end FixBench.Decimal
