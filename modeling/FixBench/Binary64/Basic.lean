import FixBench.Decimal.Basic

/-!
# Double precision numbers

Rates and summary statistics are IEEE doubles. This module is the way between them and exact
arithmetic: `view` takes a double apart into a sign and a whole multiple of a power of two, and
`ofRatio` is the double nearest to a fraction, ties to even, with the subnormal range and the
overflow to infinity included.
-/
namespace FixBench.Binary64

/-- What a double stands for; a finite one is `mantissa * 2 ^ exponent` with a sign. -/
inductive View where
  | nan
  | infinite (negative : Bool)
  | finite (negative : Bool) (mantissa : Nat) (exponent : Int)
  deriving DecidableEq, Repr

def fractionBits : Nat := 52
def hiddenBit : Nat := Nat.pow 2 fractionBits
def minExponent : Int := -1074
def infinityField : Nat := 2047

def view (x : Float) : View :=
  let bits := x.toBits.toNat
  let negative := decide (Nat.pow 2 63 ≤ bits)
  let field := bits / hiddenBit % Nat.pow 2 11
  let fraction := bits % hiddenBit
  if field = infinityField then if fraction = 0 then .infinite negative else .nan
  else if field = 0 then .finite negative fraction minExponent
  else .finite negative (hiddenBit + fraction) (minExponent + field - 1)

/-- `n / d * 2 ^ (-e)` as a fraction of whole numbers. -/
def scaled (n d : Nat) (e : Int) : Nat × Nat :=
  if 0 ≤ e then (n, d * Nat.pow 2 e.toNat) else (n * Nat.pow 2 (-e).toNat, d)

/-- The double nearest to `n / d`. -/
def ofRatio (n d : Nat) : Float :=
  if n = 0 then 0.0
  else
    let estimate := max minExponent ((n.log2 : Int) - d.log2 - fractionBits)
    let (p, q) := scaled n d estimate
    let e := if p < hiddenBit * q then max minExponent (estimate - 1) else estimate
    let (p, q) := scaled n d e
    let bits := (e - minExponent).toNat * hiddenBit + Rounding.halfEven p q
    Float.ofBits (UInt64.ofNat (min bits (infinityField * hiddenBit)))

def ofNat (n : Nat) : Float := ofRatio n 1

/-- `n * 10 ^ power`. -/
def ofScaled (n : Nat) (power : Int) : Float :=
  if 0 ≤ power then ofRatio (n * Nat.pow 10 power.toNat) 1
  else ofRatio n (Nat.pow 10 (-power).toNat)

def withSign (negative : Bool) (x : Float) : Float := if negative then -x else x

def infinity : Float := Float.ofBits (UInt64.ofNat (infinityField * hiddenBit))

def nan : Float := Float.ofBits (UInt64.ofNat (infinityField * hiddenBit + Nat.pow 2 51))

/-- Finite magnitude as a fraction of whole numbers. -/
def ratio (mantissa : Nat) (exponent : Int) : Nat × Nat := scaled mantissa 1 (-exponent)

def isFinite (x : Float) : Bool :=
  match view x with
  | .finite .. => true
  | _ => false

end FixBench.Binary64
