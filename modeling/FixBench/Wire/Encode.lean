import FixBench.Protocol.Message

/-!
# Writing messages

A message goes out as one frame: header fields first and in a fixed order, then the others in the
order of the message. The body length and the checksum are always computed; a message's own fields
under those tags are left out. A message whose values cannot be told apart on the wire is refused
before anything is written.
-/
namespace FixBench.Wire

/-- The separator after every field. -/
abbrev soh : UInt8 := 1

/-- The separator between a tag and its value. -/
abbrev equals : UInt8 := 61

/-! ### Values fit for the wire -/

def checkValue (tag : Tag) (value : String) : Except BuildFault Unit :=
  if tag = 0 then .error (.fieldValue tag "tag must be positive")
  else if value = "" then .error (.fieldValue tag "empty value")
  else if (Utf8.encode value).contains soh then .error (.fieldValue tag "value contains SOH")
  else .ok ()

def checkFields : List Field → Except BuildFault Unit
  | [] => .ok ()
  | field :: rest => do
    checkValue field.tag field.value
    checkFields rest

/-- Fields that are written: all but those the frame computes. -/
def written (fields : List Field) : List Field :=
  fields.filter fun field => field.tag ≠ Tag.bodyLength && field.tag ≠ Tag.checkSum

/-- First value, the version's included, that cannot be written. -/
def checkValues (m : Message) : Except BuildFault Unit := do
  checkValue Tag.beginString m.beginString
  checkFields (written m.fields)

/-! ### Frames -/

/-- Sum of the bytes modulo 256. -/
def checksum (bytes : List UInt8) : UInt8 := bytes.foldl (· + ·) 0

/-- The three digits a checksum is written with. -/
def checksumDigits (sum : UInt8) : List UInt8 := [48 + sum / 100, 48 + sum / 10 % 10, 48 + sum % 10]

def fieldBytes (tag : Tag) (value : List UInt8) : List UInt8 :=
  Numeral.digits tag.toNat ++ equals :: value ++ [soh]

/-- The part of a frame its checksum covers. -/
def frameHead (beginString : String) (body : List UInt8) : List UInt8 :=
  fieldBytes Tag.beginString (Utf8.encode beginString)
    ++ fieldBytes Tag.bodyLength (Numeral.digits body.length) ++ body

def frame (beginString : String) (body : List UInt8) : List UInt8 :=
  let head := frameHead beginString body
  head ++ fieldBytes Tag.checkSum (checksumDigits (checksum head))

/-- Header fields of a message in the order of the header. -/
def headerFields (m : Message) : List Field :=
  Tag.headerOrder.filterMap fun tag => (m.get tag).map (Field.mk tag)

/-- Fields of the body in the order they are written. -/
def bodyFields (m : Message) : List Field :=
  headerFields m
    ++ m.fields.filter fun field => !Tag.isHeader field.tag && field.tag ≠ Tag.checkSum

def bodyBytes (fields : List Field) : List UInt8 :=
  fields.flatMap fun field => fieldBytes field.tag (Utf8.encode field.value)

def encode (m : Message) : Except BuildFault (List UInt8) := do
  checkValues m
  return frame m.beginString (bodyBytes (bodyFields m))

/-! ### Writing field by field -/

/-- A frame whose body grows by one field at a time, without any check of the values. -/
structure FrameWriter where
  beginString : String
  body : List UInt8
  deriving DecidableEq, Repr

namespace FrameWriter

def start (beginString : String) : FrameWriter := ⟨beginString, []⟩

def putBytes (w : FrameWriter) (tag : Tag) (value : List UInt8) : FrameWriter :=
  { w with body := w.body ++ fieldBytes tag value }

def putText (w : FrameWriter) (tag : Tag) (value : String) : FrameWriter :=
  w.putBytes tag (Utf8.encode value)

def putNat (w : FrameWriter) (tag : Tag) (value : Nat) : FrameWriter :=
  w.putBytes tag (Numeral.digits value)

def putChar (w : FrameWriter) (tag : Tag) (value : Char) : FrameWriter :=
  w.putText tag (String.singleton value)

def putDecimal (w : FrameWriter) (tag : Tag) (value : Decimal) : FrameWriter :=
  w.putText tag value.toText

def finish (w : FrameWriter) : List UInt8 := frame w.beginString w.body

end FrameWriter

end FixBench.Wire
