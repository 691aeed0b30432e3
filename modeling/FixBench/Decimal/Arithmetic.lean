import FixBench.Decimal.Basic

/-!
# Decimal arithmetic

Sums take the larger scale, products the sum of the scales. A result whose coefficient or scale is
out of range gives up digits after the point, as few as possible, and is rounded to the nearest with
ties to even; when no digit after the point is left to give up, the operation overflows.

Two conventions fix the scale where the value alone does not. A zero operand of a sum gives the
other operand unchanged, and a zero factor or dividend gives zero at scale zero.

A quotient is developed in steps of up to nine digits until it is exact or full. Zeros at the end of
a quotient that needed such steps are removed in blocks of eight, then at most one block of four, of
two and of one, so a short run of zeros can remain.
-/
namespace FixBench.Decimal

/-- An operation without a representable result. -/
inductive ArithmeticError where
  | addition
  | subtraction
  | multiplication
  | division
  | divisionByZero
  deriving DecidableEq, Repr

def ArithmeticError.message : ArithmeticError → String
  | .addition => "Addition overflowed"
  | .subtraction => "Subtraction overflowed"
  | .multiplication => "Multiplication overflowed"
  | .division => "Division overflowed"
  | .divisionByZero => "Division by zero"

/-- The decimal nearest to `coefficient / 10 ^ scale` that gives up the fewest digits. -/
def rounded? (coefficient : Int) (scale : Nat) : Option Decimal :=
  let kept := fun drop => Rounding.halfEven coefficient.natAbs (Nat.pow 10 drop)
  let fits := fun drop => scale - drop ≤ maxScale && kept drop < capacity
  match (List.range (scale + 1)).find? fits with
  | some drop => ofParts? (withSign (coefficient < 0) (kept drop)) (scale - drop)
  | none => none

/-! ### Sums -/

/-- Sum of two non-zero decimals at the larger scale. -/
def sum? (a b : Decimal) : Option Decimal :=
  let scale := max a.scale b.scale
  let atScale := fun c : Decimal => c.coefficient * Nat.pow 10 (scale - c.scale)
  rounded? (atScale a + atScale b) scale

def add (a b : Decimal) : Except ArithmeticError Decimal :=
  if a.isZero then .ok b
  else if b.isZero then .ok a
  else
    match sum? a b with
    | some c => .ok c
    | none => .error .addition

def sub (a b : Decimal) : Except ArithmeticError Decimal :=
  if a.isZero then .ok b.neg
  else if b.isZero then .ok a
  else
    match sum? a b.neg with
    | some c => .ok c
    | none => .error .subtraction

/-! ### Products -/

/-- Beyond this scale a product of two coefficients of 32 bits rounds to a zero without scale. -/
def smallProductScale : Nat := maxScale + 19

def mul (a b : Decimal) : Except ArithmeticError Decimal :=
  let scale := a.scale + b.scale
  if a.isZero || b.isZero then .ok zero
  else if a.magnitude < Nat.pow 2 32 && b.magnitude < Nat.pow 2 32
      && smallProductScale < scale then .ok zero
  else
    match rounded? (a.coefficient * b.coefficient) scale with
    | some c => .ok c
    | none => .error .multiplication

/-! ### Quotients -/

/-- A quotient under development: digits so far, scale, and whether a remainder was met. -/
structure Quotient where
  digits : Nat
  scale : Int
  inexact : Bool
  deriving DecidableEq, Repr

/-- Digits that can be developed next, nine at most, without leaving the range. -/
def headroom (digits : Nat) (scale : Int) : Nat :=
  let fits := fun p : Nat => digits * Nat.pow 10 p < capacity && scale + p ≤ maxScale
  ([9, 8, 7, 6, 5, 4, 3, 2, 1].find? fits).getD 0

/-- The quotient one digit shorter, rounded; `rest` tells of a remainder behind the last digit. -/
def shorten (digits : Nat) (scale : Int) (rest : Bool) : Except ArithmeticError Quotient :=
  let kept := if rest && digits % 10 = 5 then digits / 10 + 1 else Rounding.halfEven digits 10
  if scale - 1 < 0 then .error .division else .ok ⟨kept, scale - 1, true⟩

/-- Rounds a full quotient on its remainder. -/
def roundOff (divisor digits rest : Nat) (scale : Int) : Except ArithmeticError Quotient :=
  let kept := if divisor < 2 * rest || (2 * rest = divisor && digits % 2 = 1) then digits + 1
    else digits
  if kept < capacity then .ok ⟨kept, scale, true⟩ else shorten kept scale false

/-- Develops a quotient from `digits` with remainder `rest`. A step that the range cuts short of nine
digits is the last with room for digits, so it has to bring the scale to zero or above. -/
def develop (divisor digits rest : Nat) (scale : Int) (inexact : Bool) :
    Except ArithmeticError Quotient :=
  if rest = 0 && 0 ≤ scale then .ok ⟨digits, scale, inexact⟩
  else
    let p := if rest = 0 then min 9 (-scale).toNat else headroom digits scale
    if rest ≠ 0 && p < 9 && scale + p < 0 then .error .division
    else if _full : p = 0 ∨ (maxScale : Int) < scale then roundOff divisor digits rest scale
    else if capacity ≤ digits * Nat.pow 10 p then .error .division
    else
      let inexact := inexact || rest ≠ 0
      let next := digits * Nat.pow 10 p + rest * Nat.pow 10 p / divisor
      let left := rest * Nat.pow 10 p % divisor
      if next < capacity then develop divisor next left (scale + p) inexact
      else shorten next (scale + p) (left ≠ 0)
  termination_by (maxScale + 1 - scale).toNat
  decreasing_by
    simp only [maxScale, not_or] at *
    omega

/-- Removes blocks of eight zeros while the low 32 bits are clear. -/
def stripEights : Nat → Nat → Nat × Nat
  | digits, scale =>
    if block : digits % Nat.pow 2 32 = 0 ∧ 8 ≤ scale ∧ digits % Nat.pow 10 8 = 0 then
      stripEights (digits / Nat.pow 10 8) (scale - 8)
    else (digits, scale)
  termination_by _ scale => scale
  decreasing_by omega

/-- Removes one block of `n` zeros, if there is one. -/
def stripBlock (n : Nat) (parts : Nat × Nat) : Nat × Nat :=
  if n ≤ parts.2 && parts.1 % Nat.pow 10 n = 0 then (parts.1 / Nat.pow 10 n, parts.2 - n) else parts

def stripZeros (digits scale : Nat) : Nat × Nat :=
  stripBlock 1 (stripBlock 2 (stripBlock 4 (stripEights digits scale)))

def div (a b : Decimal) : Except ArithmeticError Decimal :=
  if b.isZero then .error .divisionByZero
  else if a.isZero then .ok zero
  else
    match develop b.magnitude (a.magnitude / b.magnitude) (a.magnitude % b.magnitude)
        ((a.scale : Int) - b.scale) false with
    | .error e => .error e
    | .ok quotient =>
      let parts := (quotient.digits, quotient.scale.toNat)
      let parts := if quotient.inexact then stripZeros parts.1 parts.2 else parts
      match ofParts? (withSign (a.negative != b.negative) parts.1) parts.2 with
      | some c => .ok c
      | none => .error .division

end FixBench.Decimal
