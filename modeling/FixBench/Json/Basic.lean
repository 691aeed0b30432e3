import FixBench.Binary64.Basic
import FixBench.Text.Numeral

/-!
# JSON values

A value keeps its numbers as they are written, since their range only matters once somebody asks for
a number. A text that holds half of a surrogate pair is no text; it is kept as absent, for the same
reason.

A number is an integer when it has neither fraction nor exponent and fits 64 bits. Any other number
is a double computed from as many leading digits as fit 64 bits, scaled by one power of ten; it is
close to the number written but not always the nearest double.
-/
namespace FixBench

namespace Json

/-- The parts of a number as written: digits throughout. -/
structure NumberText where
  negative : Bool
  whole : List Char
  fraction : Option (List Char)
  /-- Sign and digits of the exponent. -/
  exponent : Option (Bool × List Char)
  deriving DecidableEq, Repr

inductive Number where
  | natural (n : Nat)
  /-- The number `-n`, which is not zero. -/
  | negative (n : Nat)
  | double (x : Float)

/-! ### Doubles -/

/-- Leading digits of a number and the power of ten they are scaled by. -/
structure Scaled where
  significand : Nat
  power : Int
  deriving DecidableEq, Repr

/-- Takes digits for as long as the significand fits 64 bits; gives those that are left over. -/
def takeDigits (significand : Nat) : List Char → Nat × List Char
  | [] => (significand, [])
  | c :: rest =>
    let next := 10 * significand + (c.toNat - '0'.toNat)
    if next < Numeral.limit64 then takeDigits next rest else (significand, c :: rest)

/-- Every digit left over before the point makes the number ten times larger; digits left over
after it are dropped. -/
def NumberText.scaled (t : NumberText) : Scaled :=
  let (significand, spare) := takeDigits 0 t.whole
  match t.fraction with
  | none => ⟨significand, spare.length⟩
  | some digits =>
    let (significand, dropped) := takeDigits significand digits
    ⟨significand, spare.length - ((digits.length - dropped.length : Nat) : Int)⟩

/-- Largest power of ten applied in one step. -/
def powerStep : Nat := 308

/-- Scales `x` by a power of ten; none if the result is too large. -/
def scale? (x : Float) (power : Int) : (steps : Nat) → Option Float
  | 0 => none
  | steps + 1 =>
    if power.natAbs ≤ powerStep then
      let factor := Binary64.ofNat (Nat.pow 10 power.natAbs)
      if 0 ≤ power then
        let y := x * factor
        if Binary64.isFinite y then some y else none
      else some (x / factor)
    else if x == 0.0 then some x
    else if 0 ≤ power then none
    else scale? (x / 1e308) (power + powerStep) steps

/-- Exponents are below this. -/
def exponentLimit : Nat := Nat.pow 2 31

/-- Steps after which any double has become zero. -/
def scaleSteps : Nat := 8

/-- A number with digits `s` and an exponent; a very large exponent decides alone. -/
def magnitude? (s : Scaled) (exponent : Option (Bool × List Char)) : Option Float :=
  let (down, digits) := exponent.getD (false, [])
  let size := digits.foldl (fun n c => 10 * n + (c.toNat - '0'.toNat)) 0
  if exponentLimit ≤ size then
    if s.significand ≠ 0 && !down then none else some 0.0
  else
    let power := if down then s.power - size else s.power + size
    scale? (Binary64.ofNat s.significand) power scaleSteps

def NumberText.double? (t : NumberText) : Option Float :=
  (magnitude? t.scaled t.exponent).map (Binary64.withSign t.negative)

def NumberText.value? (t : NumberText) : Option Number :=
  if t.fraction.isNone && t.exponent.isNone then
    let (n, spare) := takeDigits 0 t.whole
    if spare ≠ [] then t.double?.map .double
    else if !t.negative then some (.natural n)
    else if n = 0 || Numeral.limit63 < n then t.double?.map .double
    else some (.negative n)
  else t.double?.map .double

end Json

inductive Json where
  | null
  | bool (b : Bool)
  | number (text : Json.NumberText)
  | string (text : Option String)
  | array (items : List Json)
  | object (members : List (Option String × Json))

namespace Json

/-! ### Reading values -/

def bool? : Json → Option Bool
  | bool b => some b
  | _ => none

def string? : Json → Option String
  | string text => text
  | _ => none

/-- An integer from zero up to, but not including, `limit`. -/
def nat? (limit : Nat) : Json → Option Nat
  | number text =>
    match text.value? with
    | some (.natural n) => if n < limit then some n else none
    | _ => none
  | _ => none

def int? : Json → Option Int
  | number text =>
    match text.value? with
    | some (.natural n) => some n
    | some (.negative n) => some (-n)
    | _ => none
  | _ => none

/-- Any number as a double. -/
def double? : Json → Option Float
  | number text =>
    match text.value? with
    | some (.natural n) => some (Binary64.ofNat n)
    | some (.negative n) => some (-Binary64.ofNat n)
    | some (.double x) => some x
    | none => none
  | _ => none

/-- `null` stands for an absent value. -/
def optional? {α : Type} (read : Json → Option α) : Json → Option (Option α)
  | null => some none
  | j => (read j).map some

/-- A name, alone or as the only key of an object whose value is `null`. -/
def name? : Json → Option String
  | string text => text
  | object [(key, null)] => key
  | _ => none

/-! ### Records -/

/-- Values of the members called `name`. -/
def valuesOf (name : String) (members : List (Option String × Json)) : List Json :=
  members.filterMap fun (key, value) => if key = some name then some value else none

/-- The values of a record's fields, each absent if it is not given. An object gives them by name,
at most once, among others that do not matter; an array gives them in order. -/
def fields? (names : List String) : Json → Option (List (Option Json))
  | array items =>
    if items.length ≤ names.length then
      some (items.map some ++ List.replicate (names.length - items.length) none)
    else none
  | object members =>
    if members.all fun (key, _) => key.isSome then
      names.mapM fun name =>
        match valuesOf name members with
        | [] => some none
        | [value] => some (some value)
        | _ => none
    else none
  | _ => none

/-- Reads a field, or takes `fallback` if it is absent. -/
def fieldOr {α : Type} (fallback : α) (read : Json → Option α) : Option Json → Option α
  | none => some fallback
  | some j => read j

/-- First value of a member of an object; `null` counts as absent. -/
def get? (j : Json) (name : String) : Option Json :=
  match j with
  | object members =>
    match valuesOf name members with
    | null :: _ => none
    | value :: _ => some value
    | [] => none
  | _ => none

end Json

end FixBench
