/-!
# Whole numbers in text

Field values and settings carry whole numbers as decimal digits with an optional sign. Reading is
a single left-to-right pass: the first character that is not a digit, or the first digit that takes
the value out of range, decides which fault is reported. Leading zeros are accepted.

On the wire a number is a list of ASCII digits without a sign; `digits` writes the shortest one and
`digitsValue?` reads any.
-/
namespace FixBench.Numeral

/-- Why a text is not a number of the wanted range. -/
inductive Fault where
  | empty
  | invalidDigit
  | tooLarge
  | tooSmall
  deriving DecidableEq, Repr

def Fault.message : Fault → String
  | .empty => "cannot parse integer from empty string"
  | .invalidDigit => "invalid digit found in string"
  | .tooLarge => "number too large to fit in target type"
  | .tooSmall => "number too small to fit in target type"

def digit? (c : Char) : Option Nat :=
  if '0' ≤ c ∧ c ≤ '9' then some (c.toNat - '0'.toNat) else none

/-- Continues a number whose value so far is `value`; every value stays below `limit`. -/
def readDigits (limit : Nat) (overflow : Fault) (value : Nat) : List Char → Except Fault Nat
  | [] => .ok value
  | c :: rest =>
    match digit? c with
    | none => .error .invalidDigit
    | some d =>
      if 10 * value + d < limit then readDigits limit overflow (10 * value + d) rest
      else .error overflow

/-- A number below `limit`, with an optional plus sign. -/
def unsigned (limit : Nat) (text : String) : Except Fault Nat :=
  match text.toList with
  | [] => .error .empty
  | ['+'] => .error .invalidDigit
  | '+' :: digits => readDigits limit .tooLarge 0 digits
  | digits => readDigits limit .tooLarge 0 digits

/-- A number from `-limit` up to, but not including, `limit`, with an optional sign. -/
def signed (limit : Nat) (text : String) : Except Fault Int :=
  match text.toList with
  | [] => .error .empty
  | ['+'] | ['-'] => .error .invalidDigit
  | '-' :: digits => (readDigits (limit + 1) .tooSmall 0 digits).map fun value => -(value : Int)
  | '+' :: digits => (readDigits limit .tooLarge 0 digits).map Int.ofNat
  | digits => (readDigits limit .tooLarge 0 digits).map Int.ofNat

def limit16 : Nat := Nat.pow 2 16
def limit32 : Nat := Nat.pow 2 32
def limit63 : Nat := Nat.pow 2 63
def limit64 : Nat := Nat.pow 2 64

/-- Decimal digits of a number as bytes, without leading zeros. -/
def digits (n : Nat) : List UInt8 :=
  if n < 10 then [UInt8.ofNat (48 + n)] else digits (n / 10) ++ [UInt8.ofNat (48 + n % 10)]

def isDigit (b : UInt8) : Bool := 48 ≤ b && b ≤ 57

/-- Value of a list of digits, whatever the length. -/
def digitsValue (bytes : List UInt8) : Nat :=
  bytes.foldl (fun value b => 10 * value + (b.toNat - 48)) 0

/-- Value of a non-empty list of digits. -/
def digitsValue? (bytes : List UInt8) : Option Nat :=
  if bytes ≠ [] ∧ bytes.all isDigit then some (digitsValue bytes) else none

/-- Digits of a number, padded with zeros on the left to at least `width` characters. -/
def padded (width : Nat) (n : Nat) : String :=
  let text := toString n
  String.ofList (List.replicate (width - text.length) '0') ++ text

end FixBench.Numeral
