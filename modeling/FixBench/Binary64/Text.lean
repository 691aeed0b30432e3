import FixBench.Binary64.Basic
import FixBench.Text.Numeral

/-!
# Text of double precision numbers

Four formats. `read?` accepts decimal text with an optional fraction and exponent, and the words
for infinity and not-a-number in any case. `shortest` writes the fewest digits that read back,
always positionally. `fixed` writes a given number of places, rounding the exact value with ties to
even. `bitsText` writes the sixteen hexadecimal digits of the bits, so nothing is lost.
-/
namespace FixBench.Binary64

/-! ### Reading -/

inductive Fault where
  | empty
  | invalid
  deriving DecidableEq, Repr

def Fault.message : Fault → String
  | .empty => "cannot parse float from empty string"
  | .invalid => "invalid float literal"

def isDigit (c : Char) : Bool := '0' ≤ c && c ≤ '9'

def digitsNat (digits : List Char) : Nat :=
  digits.foldl (fun value c => 10 * value + (c.toNat - '0'.toNat)) 0

/-- Beyond these powers a double is infinite or zero, whatever its first twenty digits are. -/
def ofDigits (whole fraction : List Char) (power : Int) : Float :=
  let digits := digitsNat (whole ++ fraction)
  let shift := power - fraction.length
  let size := (Nat.toDigits 10 digits).length
  if digits = 0 then 0.0
  else if 400 < size + shift then infinity
  else if size + shift < -400 then 0.0
  else ofScaled digits shift

def signed (text : List Char) : Bool × List Char :=
  match text with
  | '-' :: rest => (true, rest)
  | '+' :: rest => (false, rest)
  | rest => (false, rest)

/-- Value of the part after an exponent mark. -/
def exponent? (text : List Char) : Option Int :=
  let (negative, digits) := signed text
  if digits ≠ [] ∧ digits.all isDigit then
    let power := min (digitsNat digits) 1000000
    some (if negative then -(power : Int) else power)
  else none

def number? (text : List Char) : Option Float :=
  let whole := text.takeWhile isDigit
  let rest := text.dropWhile isDigit
  let (fraction, rest) :=
    match rest with
    | '.' :: rest => (rest.takeWhile isDigit, rest.dropWhile isDigit)
    | rest => ([], rest)
  if whole = [] ∧ fraction = [] then none
  else
    match rest with
    | [] => some (ofDigits whole fraction 0)
    | mark :: rest =>
      if mark = 'e' || mark = 'E' then (exponent? rest).map (ofDigits whole fraction) else none

def word? (text : List Char) : Option Float :=
  match String.ofList (text.map Char.toLower) with
  | "inf" | "infinity" => some infinity
  | "nan" => some nan
  | _ => none

def read? (text : String) : Except Fault Float :=
  match text.toList with
  | [] => .error .empty
  | chars =>
    let (negative, rest) := signed chars
    match (number? rest).orElse fun _ => word? rest with
    | some x => .ok (withSign negative x)
    | none => .error .invalid

/-! ### Writing -/

/-- The power of ten of the first digit of `n / d`, both positive. -/
def leadingPower (n d : Nat) : Int :=
  if d ≤ n then (Nat.toDigits 10 (n / d)).length - 1
  else -((Nat.toDigits 10 ((d - 1) / n)).length : Int)

/-- The digit string of `count` digits nearest to the value among those that read back as it, the
larger of two equally near. The value is `4 * m * 2 ^ (e - 2)`, and the doubles around it end
`below` and `2` such units away. -/
def digitsOf? (m : Nat) (e : Int) (below : Nat) (count : Nat) : Option (Nat × Int) :=
  let (n, d) := ratio (4 * m) (e - 2)
  let unit := (ratio 1 (e - 2)).1 * d / (ratio 1 (e - 2)).2
  let power := leadingPower n d - count + 1
  let (p, q) := if 0 ≤ power then (1, Nat.pow 10 power.toNat) else (Nat.pow 10 (-power).toNat, 1)
  let low := n * p / (d * q)
  let inside := fun c : Nat =>
    let value := c * q * d
    let lower := (n - below * unit) * p
    let upper := (n + 2 * unit) * p
    if m % 2 = 0 then lower ≤ value && value ≤ upper else lower < value && value < upper
  let near := 2 * (n * p - low * q * d) < q * d
  let (first, second) := if near then (low, low + 1) else (low + 1, low)
  if inside first then some (first, power)
  else if inside second then some (second, power)
  else none

/-- `digits * 10 ^ power`, written without an exponent. -/
def positional (digits : Nat) (power : Int) : String :=
  if 0 ≤ power then toString (digits * Nat.pow 10 power.toNat)
  else
    let places := (-power).toNat
    let chars := Nat.toDigits 10 digits
    let chars := List.replicate (places + 1 - chars.length) '0' ++ chars
    let fraction := ((chars.drop (chars.length - places)).reverse.dropWhile (· = '0')).reverse
    let whole := chars.take (chars.length - places)
    String.ofList (if fraction = [] then whole else whole ++ '.' :: fraction)

def shortestMagnitude (m : Nat) (e : Int) : String :=
  if m = 0 then "0"
  else
    let below := if m = hiddenBit && minExponent < e then 1 else 2
    match (List.range 17).findSome? fun n => digitsOf? m e below (n + 1) with
    | some (digits, power) => positional digits power
    | none => "0"

def signText (negative : Bool) : String := if negative then "-" else ""

def shortest (x : Float) : String :=
  match view x with
  | .nan => "NaN"
  | .infinite negative => signText negative ++ "inf"
  | .finite negative m e => signText negative ++ shortestMagnitude m e

/-- The value with exactly `places` digits after the point, `places` positive. -/
def fixed (places : Nat) (x : Float) : String :=
  match view x with
  | .nan => "NaN"
  | .infinite negative => signText negative ++ "inf"
  | .finite negative m e =>
    let (n, d) := ratio m e
    let units := Rounding.halfEven (n * Nat.pow 10 places) d
    signText negative ++ toString (units / Nat.pow 10 places) ++ "."
      ++ Numeral.padded places (units % Nat.pow 10 places)

/-! ### Bits -/

def bitsText (x : Float) : String :=
  let digits := Nat.toDigits 16 x.toBits.toNat
  String.ofList ('0' :: 'x' :: List.replicate (16 - digits.length) '0' ++ digits)

end FixBench.Binary64
