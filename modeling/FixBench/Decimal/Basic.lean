/-!
# Decimal numbers

Quantities and prices are decimals: a sign, a magnitude of at most 96 bits and a scale of at most
28, standing for `coefficient / 10 ^ scale`, where the coefficient is the magnitude with its sign.
Sign and scale are part of the value's text: `1.50` and `1.5` are different decimals of the same
value, and so are a zero and a zero with a minus sign. The latter is what a small negative number
is rounded to when it is read; arithmetic makes none of its own.

Comparison is by value: both coefficients are brought to the sum of the two scales.

Where a number has more digits than there is room for, a quotient `n / d` becomes a whole number in
one of three ways: the nearest, where one halfway between two numbers goes to the even one or to the
larger one; and up.
-/
namespace FixBench.Rounding

/-- Nearest whole number to `n / d`; a tie goes to the even neighbour. -/
def halfEven (n d : Nat) : Nat :=
  let q := n / d
  let r := n % d
  if d < 2 * r ∨ (2 * r = d ∧ q % 2 = 1) then q + 1 else q

/-- Nearest whole number to `n / d`; a tie goes up. -/
def halfUp (n d : Nat) : Nat := (2 * n + d) / (2 * d)

theorem halfUp_le (n : Nat) {d : Nat} (positive : 0 < d) : halfUp n d ≤ n := by
  have scaled : n ≤ d * n := Nat.le_mul_of_pos_left n positive
  refine Nat.le_of_lt_succ (Nat.div_lt_of_lt_mul ?_)
  rw [Nat.mul_succ, Nat.mul_assoc]
  omega

def up (n d : Nat) : Nat := (n + d - 1) / d

end FixBench.Rounding

namespace FixBench

structure Decimal where
  negative : Bool
  magnitude : Nat
  scale : Nat
  magnitude_lt : magnitude < Nat.pow 2 96
  scale_le : scale ≤ 28
  deriving DecidableEq, Repr

namespace Decimal

/-- Magnitudes stay below this. -/
def capacity : Nat := Nat.pow 2 96

def maxScale : Nat := 28

def withSign (negative : Bool) (n : Nat) : Int := if negative then -(n : Int) else n

def coefficient (a : Decimal) : Int := withSign a.negative a.magnitude

/-- The decimal with these parts, if they are within range; a zero is given no sign. -/
def ofParts? (coefficient : Int) (scale : Nat) : Option Decimal :=
  if within : coefficient.natAbs < Nat.pow 2 96 ∧ scale ≤ 28 then
    some ⟨coefficient < 0, coefficient.natAbs, scale, within.1, within.2⟩
  else none

def zero : Decimal := ⟨false, 0, 0, by decide, by decide⟩

def hundred : Decimal := ⟨false, 100, 0, by decide, by decide⟩

instance : Inhabited Decimal := ⟨zero⟩

def isZero (a : Decimal) : Bool := a.magnitude == 0

/-- Coefficient of `a` once brought to the sum of both scales. -/
def aligned (a b : Decimal) : Int := a.coefficient * Nat.pow 10 b.scale

/-- Equality of values, whatever the scales. -/
def sameValue (a b : Decimal) : Bool := a.aligned b == b.aligned a

def Le (a b : Decimal) : Prop := a.aligned b ≤ b.aligned a

def Lt (a b : Decimal) : Prop := a.aligned b < b.aligned a

instance : LE Decimal := ⟨Le⟩

instance : LT Decimal := ⟨Lt⟩

instance (a b : Decimal) : Decidable (a ≤ b) :=
  inferInstanceAs (Decidable (a.aligned b ≤ b.aligned a))

instance (a b : Decimal) : Decidable (a < b) :=
  inferInstanceAs (Decidable (a.aligned b < b.aligned a))

def isPositive (a : Decimal) : Bool := 0 < a.coefficient

/-- The other sign, for anything but a zero. -/
def neg (a : Decimal) : Decimal := if a.isZero then a else { a with negative := !a.negative }

end Decimal

end FixBench
