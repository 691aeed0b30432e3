import FixBench.Decimal.Text
import FixBench.Protocol.Code
import FixBench.Protocol.Tag
import FixBench.Text.Utf8

/-!
# Fields

A field is a tag with a text. What the text means depends on the tag, so typed values are read on
demand through a `ValueFormat`, which knows the name of the type to complain with.

`DecodeFault` lists everything that can be wrong with received bytes and with the values in them.
-/
namespace FixBench

structure Field where
  tag : Tag
  value : String
  deriving DecidableEq, Repr

def Field.toText (field : Field) : String := s!"{field.tag}={field.value}"

/-- Why bytes are not a message, or a field's text not a value. -/
inductive DecodeFault where
  | empty
  | fieldStructure (offset : Nat) (reason : String)
  | tagFormat (text : String)
  | beginString
  | noBodyLength
  | bodyLength
  | bodyLengthMismatch (declared actual : Nat)
  | noMsgType
  | noChecksum
  | checksumFormat (text : String)
  | checksumMismatch (calculated declared : UInt8)
  | trailingData (count : Nat)
  | missingField (tag : Tag)
  | fieldValue (tag : Tag) (reason : String)
  | notUtf8 (fault : Utf8.Fault)
  deriving DecidableEq, Repr

def DecodeFault.message : DecodeFault → String
  | .empty => "empty message"
  | .fieldStructure offset reason => s!"invalid field structure at offset {offset}: {reason}"
  | .tagFormat text => s!"invalid tag format: {text}"
  | .beginString => "invalid begin string: expected 8=FIX.x.y as first field"
  | .noBodyLength => "missing body length field (tag 9)"
  | .bodyLength => "invalid body length value"
  | .bodyLengthMismatch declared actual =>
    s!"body length mismatch: declared {declared}, actual {actual}"
  | .noMsgType => "missing msg type field (tag 35)"
  | .noChecksum => "missing checksum field (tag 10)"
  | .checksumFormat text => s!"invalid checksum format: {Text.quoted text}"
  | .checksumMismatch calculated declared =>
    s!"checksum mismatch: calculated {calculated}, declared {declared}"
  | .trailingData count => s!"{count} trailing bytes after checksum"
  | .missingField tag => s!"missing required field: tag {tag}"
  | .fieldValue tag reason => s!"invalid field value for tag {tag}: {reason}"
  | .notUtf8 fault => s!"invalid utf-8 in field: {fault.message}"

/-- Short name of the cause. -/
def DecodeFault.name : DecodeFault → String
  | .empty => "Empty"
  | .fieldStructure .. => "InvalidFieldStructure"
  | .tagFormat _ => "InvalidTag"
  | .beginString => "InvalidBeginString"
  | .noBodyLength => "MissingBodyLength"
  | .bodyLength => "InvalidBodyLength"
  | .bodyLengthMismatch .. => "BodyLengthMismatch"
  | .noMsgType => "MissingMsgType"
  | .noChecksum => "MissingChecksum"
  | .checksumFormat _ => "InvalidChecksum"
  | .checksumMismatch .. => "ChecksumMismatch"
  | .trailingData _ => "TrailingData"
  | .missingField _ => "MissingRequiredField"
  | .fieldValue .. => "InvalidFieldValue"
  | .notUtf8 _ => "InvalidUtf8"

/-- A way to read the text of a field; `name` is the type's name in complaints. -/
structure ValueFormat (α : Type) where
  name : String
  read? : String → Option α

namespace ValueFormat

def u64 : ValueFormat Nat := ⟨"u64", fun text => (Numeral.unsigned Numeral.limit64 text).toOption⟩

def u32 : ValueFormat Nat := ⟨"u32", fun text => (Numeral.unsigned Numeral.limit32 text).toOption⟩

def i64 : ValueFormat Int := ⟨"i64", fun text => (Numeral.signed Numeral.limit63 text).toOption⟩

def bool : ValueFormat Bool where
  name := "bool"
  read?
    | "true" => some true
    | "false" => some false
    | _ => none

def char : ValueFormat Char where
  name := "char"
  read? text :=
    match text.toList with
    | [c] => some c
    | _ => none

def string : ValueFormat String := ⟨"alloc::string::String", some⟩

def decimal : ValueFormat Decimal := ⟨"rust_decimal::decimal::Decimal", Decimal.ofText?⟩

def code (α : Type) [CodeSet α] : ValueFormat α :=
  ⟨"fixprobe_core::types::" ++ CodeSet.kind α, CodeSet.ofText?⟩

def compId : ValueFormat CompId := ⟨"fixprobe_core::types::CompId", CompId.ofText?⟩

def read {α : Type} (format : ValueFormat α) (tag : Tag) (text : String) : Except DecodeFault α :=
  match format.read? text with
  | some value => .ok value
  | none => .error (.fieldValue tag s!"failed to parse '{text}' as {format.name}")

end ValueFormat

namespace Field

def as {α : Type} (field : Field) (format : ValueFormat α) : Except DecodeFault α :=
  format.read field.tag field.value

/-- The value as a character, if it is one byte long. -/
def asChar (field : Field) : Except DecodeFault Char :=
  match field.value.toList with
  | [c] =>
    if c.toNat < 128 then .ok c
    else .error (.fieldValue field.tag "expected single ASCII character")
  | _ => .error (.fieldValue field.tag "expected single ASCII character")

end Field

end FixBench
