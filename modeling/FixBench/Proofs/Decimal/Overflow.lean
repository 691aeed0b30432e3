import FixBench.Decimal.Arithmetic

/-!
# Why arithmetic fails

Sums, differences and products fail only by leaving the range of decimals. So does a quotient, unless
the divisor is zero: nothing else stops the development of its digits.
-/
namespace FixBench.Decimal

/-- The range of decimals is too small for the result. -/
def ArithmeticError.IsOverflow (fault : ArithmeticError) : Prop := fault ≠ .divisionByZero

variable {a b : Decimal} {fault : ArithmeticError}

theorem add_fault (fails : a.add b = .error fault) : fault.IsOverflow := by
  unfold add at fails
  split at fails
  · cases fails
  · split at fails
    · cases fails
    · split at fails <;> cases fails
      simp [ArithmeticError.IsOverflow]

theorem sub_fault (fails : a.sub b = .error fault) : fault.IsOverflow := by
  unfold sub at fails
  split at fails
  · cases fails
  · split at fails
    · cases fails
    · split at fails <;> cases fails
      simp [ArithmeticError.IsOverflow]

theorem mul_fault (fails : a.mul b = .error fault) : fault.IsOverflow := by
  simp only [mul] at fails
  split at fails
  · cases fails
  · split at fails
    · cases fails
    · split at fails <;> cases fails
      simp [ArithmeticError.IsOverflow]

theorem shorten_fault {digits : Nat} {scale : Int} {rest : Bool}
    (fails : shorten digits scale rest = .error fault) : fault = .division := by
  simp only [shorten] at fails
  split at fails
  · cases fails
    rfl
  · cases fails

theorem roundOff_fault {divisor digits rest : Nat} {scale : Int}
    (fails : roundOff divisor digits rest scale = .error fault) : fault = .division := by
  unfold roundOff at fails
  extract_lets kept at fails
  split at fails
  · cases fails
  · exact shorten_fault fails

theorem develop_fault {divisor digits rest : Nat} {scale : Int} {inexact : Bool}
    (fails : develop divisor digits rest scale inexact = .error fault) : fault = .division := by
  fun_induction develop divisor digits rest scale inexact with
  | case1 => cases fails
  | case2 => cases fails; rfl
  | case3 => exact roundOff_fault fails
  | case4 => cases fails; rfl
  | case5 =>
    rename_i ih
    exact ih fails
  | case6 => exact shorten_fault fails

theorem div_fault (fails : a.div b = .error fault) (nonzero : b.isZero = false) :
    fault.IsOverflow := by
  have overflows : ArithmeticError.division.IsOverflow := by simp [ArithmeticError.IsOverflow]
  unfold div at fails
  rw [nonzero, if_neg Bool.false_ne_true] at fails
  split at fails
  · cases fails
  · split at fails
    · rename_i fault' develops
      cases fails
      exact develop_fault develops ▸ overflows
    · extract_lets parts stripped at fails
      split at fails
      · cases fails
      · cases fails
        exact overflows

end FixBench.Decimal
