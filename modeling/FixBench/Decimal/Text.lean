import FixBench.Decimal.Basic
import FixBench.Text.Numeral

/-!
# Decimal text

A decimal is written with exactly `scale` digits after the point and at least one before it.

Reading accepts an optional sign, digits and at most one point; an underscore may follow a digit.
Where the magnitude or the scale has no room for more digits, that is an error before the point.
After it the number is rounded on the first digit left over, upwards from five on, and only digits
and underscores may be left over. Behind a full scale a long magnitude finds that digit past any
underscores, while a short one is not rounded if an underscore comes first. Rounded or not, a zero
read this way has no sign.

A text with an `e` in it is such a number and a power of ten of at most 28 either way. A power that
only moves the point keeps the digits; beyond that, a positive one is multiplied out to scale zero,
and a negative one rounds away digits, half away from zero, and keeps the sign.
-/
namespace FixBench.Decimal

/-! ### Writing -/

/-- Digits of the magnitude, at least one more than the scale. -/
def shownDigits (a : Decimal) : List Char :=
  let digits := Nat.toDigits 10 a.magnitude
  List.replicate (a.scale + 1 - digits.length) '0' ++ digits

def shownChars (a : Decimal) : List Char :=
  let digits := a.shownDigits
  let whole := digits.take (digits.length - a.scale)
  let fraction := digits.drop (digits.length - a.scale)
  let sign := if a.negative then ['-'] else []
  sign ++ whole ++ (if a.scale = 0 then [] else '.' :: fraction)

def toText (a : Decimal) : String := String.ofList a.shownChars

instance : ToString Decimal := ⟨toText⟩

/-! ### Reading -/

/-- Why a text is not a decimal. -/
inductive Fault where
  | empty
  | unknownCharacter
  | twoPoints
  | noDigits
  | leadingSeparator
  | tooManyDigits
  | roundedTooFar
  | exponentFormat
  | exponentTooLarge (power : Nat)
  | tooLarge
  deriving DecidableEq, Repr

def Fault.message : Fault → String
  | .empty => "Invalid decimal: empty"
  | .unknownCharacter => "Invalid decimal: unknown character"
  | .twoPoints => "Invalid decimal: two decimal points"
  | .noDigits => "Invalid decimal: no digits found"
  | .leadingSeparator => "Invalid decimal: must start lead with a number"
  | .tooManyDigits => "Invalid decimal: overflow from too many digits"
  | .roundedTooFar => "Invalid decimal: overflow from mantissa after rounding"
  | .exponentFormat => "Failed to parse"
  | .exponentTooLarge power =>
    s!"Scale exceeds the maximum precision allowed: {power} > {maxScale}"
  | .tooLarge => "Number exceeds maximum value that can be represented."

/-- The fault of a character that cannot stand where it does. -/
def unexpected (c : Char) : Fault :=
  if c = '.' then .twoPoints
  else if c = '_' then .leadingSeparator
  else .unknownCharacter

/-- Magnitude and scale rounded on the digit `d` that there is no room for. -/
def roundOn (d value scale : Nat) : Except Fault (Nat × Nat) :=
  if d < 5 then .ok (value, scale)
  else if value + 1 < capacity then .ok (value + 1, scale)
  else if scale = 0 then .error .roundedTooFar
  else .ok ((value + 5) / 10, scale - 1)

/-- Magnitudes from here on are long: a tenth of the largest 64-bit number, less 255. -/
def longFrom : Nat := 1844674407370954906

/-- The digit behind a full scale, zero if there is none. Underscores in front of it are skipped
only behind a long magnitude. -/
def digitBehind (long : Bool) (chars : List Char) : Nat :=
  let next := if long then chars.dropWhile (· = '_') else chars
  (next.head?.bind Numeral.digit?).getD 0

/-- Rounds on the digit `d`; only digits and underscores may be left over. -/
def roundBefore (leftOver : List Char) (d value scale : Nat) : Except Fault (Nat × Nat) := do
  let rounded ← roundOn d value scale
  match leftOver.find? fun c => (Numeral.digit? c).isNone && c ≠ '_' with
  | some c => throw (unexpected c)
  | none => return rounded

/-- Reads on from `value` at `scale`; `point` and `seen` tell whether the point and a digit have
been read. -/
def readChars (point seen : Bool) (value scale : Nat) : List Char → Except Fault (Nat × Nat)
  | [] => if seen then .ok (value, scale) else .error .noDigits
  | c :: rest =>
    match Numeral.digit? c with
    | some d =>
      if capacity ≤ 10 * value + d then
        if point then roundBefore rest d value scale else .error .tooManyDigits
      else if point && maxScale ≤ scale + 1 then
        roundBefore rest (digitBehind (longFrom ≤ value) rest) (10 * value + d) (scale + 1)
      else readChars point true (10 * value + d) (if point then scale + 1 else scale) rest
    | none =>
      if c = '.' && !point then readChars true seen value scale rest
      else if c = '_' && seen then readChars point seen value scale rest
      else .error (unexpected c)

def ofSigned (negative : Bool) (parts : Nat × Nat) : Except Fault Decimal :=
  match ofParts? (withSign negative parts.1) parts.2 with
  | some a => .ok a
  | none => .error .roundedTooFar

def ofChars : List Char → Except Fault Decimal
  | [] => .error .empty
  | '-' :: rest => readChars false false 0 0 rest >>= ofSigned true
  | '+' :: rest => readChars false false 0 0 rest >>= ofSigned false
  | rest => readChars false false 0 0 rest >>= ofSigned false

/-! ### Powers of ten -/

def isExponentMark (c : Char) : Bool := c = 'e' || c = 'E'

/-- A power of ten: digits with an optional plus sign. -/
def readPower (chars : List Char) : Except Fault Nat :=
  match Numeral.unsigned Numeral.limit32 (String.ofList chars) with
  | .error _ => .error .exponentFormat
  | .ok power => if maxScale < power then .error (.exponentTooLarge power) else .ok power

/-- `a` times a power of ten. -/
def scaledUp (a : Decimal) (power : Nat) : Except Fault Decimal :=
  let result :=
    if power ≤ a.scale then ofParts? a.coefficient (a.scale - power)
    else ofParts? (a.coefficient * Nat.pow 10 (power - a.scale)) 0
  match result with
  | some a => .ok a
  | none => .error .tooLarge

/-- `a` divided by a power of ten, rounded to the largest scale there is. -/
def scaledDown (a : Decimal) (power : Nat) : Decimal :=
  let scale := min maxScale (a.scale + power)
  let unit := Nat.pow 10 (a.scale + power - scale)
  have smaller : Rounding.halfUp a.magnitude unit ≤ a.magnitude :=
    Rounding.halfUp_le _ (Nat.pow_pos (by decide))
  { negative := a.negative
    magnitude := Rounding.halfUp a.magnitude unit
    scale
    magnitude_lt := Nat.lt_of_le_of_lt smaller a.magnitude_lt
    scale_le := Nat.min_le_left .. }

/-- Text with an exponent mark. -/
def ofScientific (number power : List Char) : Except Fault Decimal := do
  let a ← ofChars number
  match power with
  | '-' :: digits => return a.scaledDown (← readPower digits)
  | digits => a.scaledUp (← readPower digits)

/-- Decimal text, with or without an exponent. -/
def ofText (text : String) : Except Fault Decimal :=
  match text.toList.dropWhile (!isExponentMark ·) with
  | [] => ofChars text.toList
  | _ :: power => ofScientific (text.toList.takeWhile (!isExponentMark ·)) power

def ofText? (text : String) : Option Decimal := (ofText text).toOption

end FixBench.Decimal
