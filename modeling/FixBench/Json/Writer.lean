import FixBench.Json.Basic

/-!
# Writing JSON values

A value is written on one line without blanks, its numbers as they stand and its members in their
order. In a text, a quote and a backslash are escaped, and so are control characters; all other
characters stand for themselves. A text that is absent is written as `null`.
-/
namespace FixBench.Json

/-- Digits and signs of a number, as they were read. -/
def NumberText.chars (t : NumberText) : List Char :=
  let fraction :=
    match t.fraction with
    | some digits => '.' :: digits
    | none => []
  let exponent :=
    match t.exponent with
    | some (down, digits) => 'e' :: (if down then '-' :: digits else digits)
    | none => []
  (if t.negative then ['-'] else []) ++ t.whole ++ fraction ++ exponent

def escapedChar (c : Char) : List Char :=
  if c = '"' then ['\\', '"']
  else if c = '\\' then ['\\', '\\']
  else if c.toNat < 0x20 then
    ['\\', 'u', '0', '0', Nat.digitChar (c.toNat / 16), Nat.digitChar (c.toNat % 16)]
  else [c]

/-- A text between quotes, in front of `rest`. -/
def writeText (text : String) (rest : List Char) : List Char :=
  '"' :: (text.toList.flatMap escapedChar ++ '"' :: rest)

def writeKey (key : Option String) (rest : List Char) : List Char :=
  writeText (key.getD "") (':' :: rest)

mutual

/-- A value in front of `rest`. -/
def write : Json → List Char → List Char
  | .null, rest => "null".toList ++ rest
  | .bool b, rest => (if b then "true".toList else "false".toList) ++ rest
  | .number text, rest => text.chars ++ rest
  | .string none, rest => "null".toList ++ rest
  | .string (some text), rest => writeText text rest
  | .array items, rest => '[' :: writeItems items (']' :: rest)
  | .object members, rest => '\x7b' :: writeMembers members ('\x7d' :: rest)

/-- Values with commas between them. -/
def writeItems : List Json → List Char → List Char
  | [], rest => rest
  | [item], rest => write item rest
  | item :: more, rest => write item (',' :: writeItems more rest)

def writeMembers : List (Option String × Json) → List Char → List Char
  | [], rest => rest
  | [(key, value)], rest => writeKey key (write value rest)
  | (key, value) :: more, rest => writeKey key (write value (',' :: writeMembers more rest))

end

def toText (j : Json) : String := String.ofList (j.write [])

end FixBench.Json
