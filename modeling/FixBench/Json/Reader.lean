import FixBench.Json.Basic

/-!
# Reading JSON

A text is one value between blanks. Blanks are space, tab, line feed and carriage return; control
characters may not stand in strings; numbers have no superfluous zeros in front and a digit after
every point and exponent mark.

Each reader takes the characters it needs off the front and returns the rest. Nesting is bounded by
the length of the text, which serves as the measure of the recursion.
-/
namespace FixBench.Json

abbrev Chars := List Char

def isBlank (c : Char) : Bool := c = ' ' || c = '\t' || c = '\n' || c = '\r'

def skipBlanks (text : Chars) : Chars := text.dropWhile isBlank

def isDigit (c : Char) : Bool := '0' ≤ c && c ≤ '9'

/-! ### Numbers -/

/-- At least one digit. -/
def readDigits? (text : Chars) : Option (Chars × Chars) :=
  let digits := text.takeWhile isDigit
  if digits = [] then none else some (digits, text.dropWhile isDigit)

/-- Digits without superfluous zeros in front. -/
def readWhole? (text : Chars) : Option (Chars × Chars) :=
  match readDigits? text with
  | some ('0' :: _ :: _, _) => none
  | result => result

def readFraction? : Chars → Option (Option Chars × Chars)
  | '.' :: rest => (readDigits? rest).map fun (digits, rest) => (some digits, rest)
  | text => some (none, text)

def readExponent? (text : Chars) : Option (Option (Bool × Chars) × Chars) :=
  match text with
  | [] => some (none, text)
  | mark :: rest =>
    if mark = 'e' || mark = 'E' then
      match rest with
      | '-' :: rest => (readDigits? rest).map fun (digits, rest) => (some (true, digits), rest)
      | '+' :: rest => (readDigits? rest).map fun (digits, rest) => (some (false, digits), rest)
      | rest => (readDigits? rest).map fun (digits, rest) => (some (false, digits), rest)
    else some (none, text)

def readNumber? (text : Chars) : Option (NumberText × Chars) := do
  let (negative, text) :=
    match text with
    | '-' :: rest => (true, rest)
    | text => (false, text)
  let (whole, text) ← readWhole? text
  let (fraction, text) ← readFraction? text
  let (exponent, text) ← readExponent? text
  return (⟨negative, whole, fraction, exponent⟩, text)

/-! ### Strings -/

def hexDigit? (c : Char) : Option Nat :=
  if isDigit c then some (c.toNat - '0'.toNat)
  else if 'a' ≤ c && c ≤ 'f' then some (c.toNat - 'a'.toNat + 10)
  else if 'A' ≤ c && c ≤ 'F' then some (c.toNat - 'A'.toNat + 10)
  else none

/-- Four hexadecimal digits. -/
def readUnit? : Chars → Option (Nat × Chars)
  | a :: b :: c :: d :: rest => do
    let a ← hexDigit? a
    let b ← hexDigit? b
    let c ← hexDigit? c
    let d ← hexDigit? d
    return (((a * 16 + b) * 16 + c) * 16 + d, rest)
  | _ => none

def isHighSurrogate (unit : Nat) : Bool := 0xD800 ≤ unit && unit < 0xDC00

def isLowSurrogate (unit : Nat) : Bool := 0xDC00 ≤ unit && unit < 0xE000

/-- The low half that has to follow a high one. -/
def readLowHalf? : Chars → Option (Nat × Chars)
  | '\\' :: 'u' :: rest =>
    match readUnit? rest with
    | some (unit, rest) => if isLowSurrogate unit then some (unit, rest) else none
    | none => none
  | _ => none

/-- A character written as code units: absent if it is half of a pair. -/
def readEscapedUnits? (text : Chars) : Option (Option Char × Chars) :=
  match readUnit? text with
  | none => none
  | some (unit, rest) =>
    if isHighSurrogate unit then
      match readLowHalf? rest with
      | some (low, rest) =>
        some (some (Char.ofNat (0x10000 + (unit - 0xD800) * 0x400 + (low - 0xDC00))), rest)
      | none => some (none, rest)
    else if isLowSurrogate unit then some (none, rest)
    else some (some (Char.ofNat unit), rest)

/-- What follows a backslash. -/
def readEscape? : Chars → Option (Option Char × Chars)
  | '"' :: rest => some (some '"', rest)
  | '\\' :: rest => some (some '\\', rest)
  | '/' :: rest => some (some '/', rest)
  | 'b' :: rest => some (some '\x08', rest)
  | 'f' :: rest => some (some '\x0c', rest)
  | 'n' :: rest => some (some '\n', rest)
  | 'r' :: rest => some (some '\r', rest)
  | 't' :: rest => some (some '\t', rest)
  | 'u' :: rest => readEscapedUnits? rest
  | _ => none

/-- Characters up to the closing quote; `read` holds those read so far, last first, unless one of
them was half of a pair. -/
def readString? (read : Option Chars) (text : Chars) : (fuel : Nat) →
    Option (Option String × Chars)
  | 0 => none
  | fuel + 1 =>
    match text with
    | [] => none
    | '"' :: rest => some (read.map fun chars => String.ofList chars.reverse, rest)
    | '\\' :: rest =>
      match readEscape? rest with
      | none => none
      | some (c, rest) =>
        readString? (read.bind fun chars => c.map (· :: chars)) rest fuel
    | c :: rest =>
      if c.toNat < 0x20 then none else readString? (read.map (c :: ·)) rest fuel

/-! ### Values -/

/-- The rest after a fixed word. -/
def readWord? (word : Chars) (text : Chars) : Option Chars :=
  if word.isPrefixOf text then some (text.drop word.length) else none

mutual

def readValue? (text : Chars) : (fuel : Nat) → Option (Json × Chars)
  | 0 => none
  | fuel + 1 =>
    match skipBlanks text with
    | [] => none
    | '"' :: rest =>
      (readString? (some []) rest fuel).map fun (s, rest) => (Json.string s, rest)
    | '[' :: rest =>
      match skipBlanks rest with
      | ']' :: rest => some (Json.array [], rest)
      | rest => (readItems? [] rest fuel).map fun (items, rest) => (Json.array items, rest)
    | '\x7b' :: rest =>
      match skipBlanks rest with
      | '\x7d' :: rest => some (Json.object [], rest)
      | rest => (readMembers? [] rest fuel).map fun (members, rest) => (Json.object members, rest)
    | 'n' :: rest => (readWord? ['u', 'l', 'l'] rest).map fun rest => (Json.null, rest)
    | 't' :: rest => (readWord? ['r', 'u', 'e'] rest).map fun rest => (Json.bool true, rest)
    | 'f' :: rest => (readWord? ['a', 'l', 's', 'e'] rest).map fun rest => (Json.bool false, rest)
    | rest => (readNumber? rest).map fun (n, rest) => (Json.number n, rest)

/-- Items of an array behind those already read, which are held last first. -/
def readItems? (items : List Json) (text : Chars) : (fuel : Nat) → Option (List Json × Chars)
  | 0 => none
  | fuel + 1 =>
    match readValue? text fuel with
    | none => none
    | some (item, rest) =>
      match skipBlanks rest with
      | ',' :: rest => readItems? (item :: items) rest fuel
      | ']' :: rest => some ((item :: items).reverse, rest)
      | _ => none

/-- Members of an object behind those already read, which are held last first. -/
def readMembers? (members : List (Option String × Json)) (text : Chars) : (fuel : Nat) →
    Option (List (Option String × Json) × Chars)
  | 0 => none
  | fuel + 1 =>
    match skipBlanks text with
    | '"' :: rest =>
      match readString? (some []) rest fuel with
      | none => none
      | some (key, rest) =>
        match skipBlanks rest with
        | ':' :: rest =>
          match readValue? rest fuel with
          | none => none
          | some (value, rest) =>
            match skipBlanks rest with
            | ',' :: rest => readMembers? ((key, value) :: members) rest fuel
            | '\x7d' :: rest => some (((key, value) :: members).reverse, rest)
            | _ => none
        | _ => none
    | _ => none

end

/-- The value a text holds. -/
def ofText? (text : String) : Option Json :=
  let chars := text.toList
  match readValue? chars (2 * chars.length + 2) with
  | some (value, rest) => if skipBlanks rest = [] then some value else none
  | none => none

end FixBench.Json
