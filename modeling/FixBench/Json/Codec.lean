import FixBench.Binary64.Text
import FixBench.Decimal.Text
import FixBench.Json.Basic

/-!
# Values with a JSON form

A natural number is read if it fits 64 bits. A decimal is a text, so that its scale is kept; a
double is written by its bits, so that nothing of it is lost.

A record is an object of named members. A member that is missing counts as `null`, and `null` is
read as an absent value.
-/
namespace FixBench

class ToJson (α : Type) where
  toJson : α → Json

class FromJson (α : Type) where
  fromJson? : Json → Option α

export ToJson (toJson)
export FromJson (fromJson?)

/-- Values are written as members of a record without further ado. -/
instance {α : Type} [ToJson α] : CoeHead α Json := ⟨toJson⟩

/-! ### Writing -/

namespace Json

def ofNat (n : Nat) : Json := .number ⟨false, Nat.toDigits 10 n, none, none⟩

def ofInt (n : Int) : Json := .number ⟨n < 0, Nat.toDigits 10 n.natAbs, none, none⟩

def ofText (text : String) : Json := .string (some text)

def record (members : List (String × Json)) : Json :=
  .object (members.map fun (name, value) => (some name, value))

end Json

instance : ToJson Json := ⟨id⟩
instance : ToJson Bool := ⟨.bool⟩
instance : ToJson Nat := ⟨.ofNat⟩
instance : ToJson Int := ⟨.ofInt⟩
instance : ToJson UInt8 := ⟨fun n => .ofNat n.toNat⟩
instance : ToJson UInt32 := ⟨fun n => .ofNat n.toNat⟩
instance : ToJson String := ⟨.ofText⟩
instance : ToJson Char := ⟨fun c => .ofText (String.singleton c)⟩
instance : ToJson Float := ⟨fun x => .ofText (Binary64.bitsText x)⟩
instance : ToJson Decimal := ⟨fun a => .ofText a.toText⟩
instance {α : Type} [ToJson α] : ToJson (List α) := ⟨fun items => .array (items.map toJson)⟩

instance {α : Type} [ToJson α] : ToJson (Option α) where
  toJson
    | some value => toJson value
    | none => .null

/-! ### Reading -/

instance : FromJson Json := ⟨some⟩
instance : FromJson Bool := ⟨Json.bool?⟩
instance : FromJson Nat := ⟨Json.nat? Numeral.limit64⟩
instance : FromJson Int := ⟨Json.int?⟩
instance : FromJson UInt8 := ⟨fun j => (j.nat? 256).map UInt8.ofNat⟩
instance : FromJson UInt32 := ⟨fun j => (j.nat? Numeral.limit32).map UInt32.ofNat⟩
instance : FromJson String := ⟨Json.string?⟩
instance : FromJson Float := ⟨Json.double?⟩
instance : FromJson Decimal := ⟨fun j => j.string?.bind Decimal.ofText?⟩

instance {α : Type} [FromJson α] : FromJson (List α) where
  fromJson?
    | .array items => items.mapM fromJson?
    | _ => none

instance {α : Type} [FromJson α] : FromJson (Option α) := ⟨Json.optional? fromJson?⟩

namespace Json

/-- Value of a member of a record. -/
def member? {α : Type} [FromJson α] (j : Json) (name : String) : Option α :=
  fromJson? ((j.get? name).getD .null)

/-- Value of a member that may be missing. -/
def memberOr {α : Type} [FromJson α] (fallback : α) (j : Json) (name : String) : Option α :=
  (j.member? name : Option (Option α)).map fun value => value.getD fallback

end Json

end FixBench
