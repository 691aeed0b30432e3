import FixBench.Protocol.Field
import FixBench.Protocol.MsgType

/-!
# Messages

A message is a version text and a list of fields. Building keeps one field per tag: `set` replaces
the value where the tag stands and appends it otherwise, so a field keeps the place of its first
insertion. Received messages are given as a list, which may repeat a tag; every look-up then finds
the first.

Two messages are equal when they have the same version and as many fields, and every field of the
left one is what the right one finds under its tag. What was observed on the wire has no part in it.
-/
namespace FixBench

/-- Length of the body and checksum of a frame a message was read from. -/
structure WireInfo where
  bodyLength : Nat
  checksum : UInt8
  deriving DecidableEq, Repr

structure Message where
  beginString : String
  fields : List Field
  wire : Option WireInfo
  deriving DecidableEq, Repr

/-- Why a message is not fit to be sent, or not of the wanted type. -/
inductive BuildFault where
  | missingField (msgType : String) (tag : Tag)
  | wrongType (expected actual : String)
  | fieldValue (tag : Tag) (reason : String)
  deriving DecidableEq, Repr

def BuildFault.message : BuildFault → String
  | .missingField msgType tag => s!"missing required field for msg type {msgType}: tag {tag}"
  | .wrongType expected actual => s!"wrong msg type: expected {expected}, found {actual}"
  | .fieldValue tag reason => s!"invalid field value for tag {tag}: {reason}"

/-- Short name of the cause. -/
def BuildFault.name : BuildFault → String
  | .missingField .. => "MissingRequiredField"
  | .wrongType .. => "WrongMsgType"
  | .fieldValue .. => "InvalidFieldValue"

namespace Message

/-! ### Fields -/

/-- First value under `tag`. -/
def lookup (tag : Tag) : List Field → Option String
  | [] => none
  | field :: rest => if field.tag = tag then some field.value else lookup tag rest

/-- Replaces the first value under `tag`, or appends one. -/
def put (tag : Tag) (value : String) : List Field → List Field
  | [] => [⟨tag, value⟩]
  | field :: rest =>
    if field.tag = tag then ⟨tag, value⟩ :: rest else field :: put tag value rest

/-- Takes the first field under `tag` out: its value, and the fields that are left. -/
def takeOut (tag : Tag) : List Field → Option String × List Field
  | [] => (none, [])
  | field :: rest =>
    if field.tag = tag then (some field.value, rest)
    else
      let (value, left) := takeOut tag rest
      (value, field :: left)

def get (m : Message) (tag : Tag) : Option String := lookup tag m.fields

def contains (m : Message) (tag : Tag) : Bool := m.fields.any (·.tag = tag)

def set (m : Message) (tag : Tag) (value : String) : Message :=
  { m with fields := put tag value m.fields }

def setIfSome (m : Message) (tag : Tag) : Option String → Message
  | none => m
  | some value => m.set tag value

/-- Takes the first field under `tag` out, and gives its value. -/
def remove (m : Message) (tag : Tag) : Option String × Message :=
  let (value, fields) := takeOut tag m.fields
  (value, { m with fields })

def ofType (beginString : String) (type : MsgType) : Message :=
  { beginString, fields := [⟨Tag.msgType, type.text⟩], wire := none }

/-! ### Typed values -/

def getAs {α : Type} (m : Message) (format : ValueFormat α) (tag : Tag) : Except DecodeFault α :=
  match m.get tag with
  | none => .error (.missingField tag)
  | some text => format.read tag text

/-- Absence is no fault here. -/
def getOptional {α : Type} (m : Message) (format : ValueFormat α) (tag : Tag) :
    Except DecodeFault (Option α) :=
  match m.get tag with
  | none => .ok none
  | some text => (format.read tag text).map some

/-! ### Header -/

def msgTypeText (m : Message) : String := (m.get Tag.msgType).getD ""

def msgType (m : Message) : MsgType := MsgType.ofText m.msgTypeText

def hasType (m : Message) (type : MsgType) : Bool := m.get Tag.msgType == some type.text

def seqNum? (m : Message) : Option Nat := (m.get Tag.msgSeqNum).bind ValueFormat.u64.read?

/-! ### Equality and text -/

def sameAs (a b : Message) : Bool :=
  a.beginString == b.beginString && a.fields.length == b.fields.length
    && a.fields.all fun field => b.get field.tag == some field.value

def toText (m : Message) : String :=
  "8=" ++ m.beginString ++ String.join (m.fields.map fun field => "|" ++ field.toText)

end Message

end FixBench
