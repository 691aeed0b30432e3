import FixBench.Wire.FieldWalk

/-!
# Reading messages

A frame is `8=FIX…`, `9=` and the length of the body, the body, and `10=` with the checksum. The
body starts with the message type; its tags are distinct and include the required header. Decoding
accepts exactly one frame and repairs nothing: the first thing wrong, in the order of the bytes,
then of the totals over them, is the fault reported.
-/
namespace FixBench.Wire

/-- Declared length of the body. -/
def readBodyLength (value : List UInt8) : Except DecodeFault Nat :=
  match Numeral.digitsValue? value with
  | some length => if length < Numeral.limit64 then .ok length else .error .bodyLength
  | none => .error .bodyLength

/-- Exactly three digits of a number below 256. -/
def readChecksum? (bytes : List UInt8) : Option UInt8 :=
  if bytes.length = 3 then
    match Numeral.digitsValue? bytes with
    | some value => if value < 256 then some (UInt8.ofNat value) else none
    | none => none
  else none

def readText (value : List UInt8) : Except DecodeFault String :=
  match Utf8.decode value with
  | .ok text => .ok text
  | .error fault => .error (.notUtf8 fault)

/-- Fields in front of the trailer, and the trailer. `seen` holds the fields read so far; `atEnd` is
the fault if there is no trailer. -/
def readBody (atEnd : DecodeFault) (seen : List Field) :
    List RawField → Except DecodeFault (List Field × RawField)
  | [] => .error atEnd
  | raw :: rest =>
    if seen = [] ∧ raw.tag ≠ Tag.msgType then .error .noMsgType
    else if raw.tag = Tag.checkSum then .ok (seen, raw)
    else if raw.tag = Tag.beginString ∨ raw.tag = Tag.bodyLength ∨ seen.any (·.tag = raw.tag) then
      .error (.fieldStructure raw.offset "duplicate tag")
    else
      match readText raw.value with
      | .error fault => .error fault
      | .ok text => readBody atEnd (seen ++ [⟨raw.tag, text⟩]) rest

/-- Checks the totals over a frame whose body holds `fields` and ends at `trailer`. -/
def checkTotals (input : List UInt8) (bodyStart declaredLength : Nat) (fields : List Field)
    (trailer : RawField) : Except DecodeFault UInt8 :=
  let actualLength := trailer.offset - bodyStart
  if actualLength ≠ declaredLength then .error (.bodyLengthMismatch declaredLength actualLength)
  else
    match readChecksum? trailer.value with
    | none => .error (.checksumFormat (Utf8.lossy trailer.value))
    | some declared =>
      let calculated := checksum (input.take trailer.offset)
      if calculated ≠ declared then .error (.checksumMismatch calculated declared)
      else if trailer.stop < input.length then
        .error (.trailingData (input.length - trailer.stop))
      else
        match Tag.requiredHeader.find? fun tag => !fields.any (·.tag = tag) with
        | some tag => .error (.missingField tag)
        | none => .ok declared

/-- Whether a field opens a frame: tag 8 with a value that starts with `FIX`. -/
def RawField.opensFrame (field : RawField) : Bool :=
  field.tag == Tag.beginString && field.value.take 3 == [70, 73, 88]

def decode (input : List UInt8) : Except DecodeFault Message :=
  if input = [] then .error .empty
  else
    let walked := walk 0 input
    match walked.fields with
    | [] => .error (walked.fault.getD .beginString)
    | first :: rest =>
      if !first.opensFrame then .error .beginString
      else do
        let beginString ← readText first.value
        match rest with
        | [] => .error (walked.fault.getD .noBodyLength)
        | second :: rest =>
          if second.tag ≠ Tag.bodyLength then .error .noBodyLength
          else do
            let bodyLength ← readBodyLength second.value
            let (fields, trailer) ← readBody (walked.fault.getD .noChecksum) [] rest
            let checksum ← checkTotals input second.stop bodyLength fields trailer
            return { beginString, fields, wire := some { bodyLength, checksum } }

end FixBench.Wire
