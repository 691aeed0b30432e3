import FixBench.Failure
import FixBench.Protocol.Record

/-!
# Failures from records

A fault is read from the short name of its cause and a record of its particulars. Particulars that
are not given are empty or zero.
-/
namespace FixBench

namespace DecodeFault

/-- The fault of bytes that are not text, if these are not. -/
def ofBytes? (chars : String) : Option DecodeFault :=
  match Utf8.decode (chars.toList.map fun c => UInt8.ofNat c.toNat) with
  | .error fault => some (.notUtf8 fault)
  | .ok _ => none

def ofRecord? (name : String) (j : Json) : Option DecodeFault := do
  let value : String ← j.memberOr "" "value"
  let reason : String ← j.memberOr "" "reason"
  match name with
  | "Empty" => return .empty
  | "InvalidFieldStructure" => return .fieldStructure (← j.memberOr 0 "offset") reason
  | "InvalidTag" => return .tagFormat value
  | "InvalidBeginString" => return .beginString
  | "MissingBodyLength" => return .noBodyLength
  | "InvalidBodyLength" => return .bodyLength
  | "BodyLengthMismatch" =>
    return .bodyLengthMismatch (← j.memberOr 0 "declared") (← j.memberOr 0 "actual")
  | "MissingMsgType" => return .noMsgType
  | "MissingChecksum" => return .noChecksum
  | "InvalidChecksum" => return .checksumFormat value
  | "ChecksumMismatch" =>
    return .checksumMismatch (← j.memberOr 0 "calculated") (← j.memberOr 0 "declared")
  | "TrailingData" => return .trailingData (← j.memberOr 0 "count")
  | "MissingRequiredField" => return .missingField (← j.memberOr 0 "tag")
  | "InvalidFieldValue" => return .fieldValue (← j.memberOr 0 "tag") reason
  | "InvalidUtf8" => ofBytes? (← j.memberOr value "bytes")
  | _ => none

end DecodeFault

def BuildFault.ofRecord? (name : String) (j : Json) : Option BuildFault := do
  let tag : Tag ← j.memberOr 0 "tag"
  match name with
  | "MissingRequiredField" => return .missingField (← j.memberOr "" "msg_type") tag
  | "WrongMsgType" => return .wrongType (← j.memberOr "" "expected") (← j.memberOr "" "actual")
  | "InvalidFieldValue" => return .fieldValue tag (← j.memberOr "" "reason")
  | _ => none

def SessionFault.ofRecord? (name : String) (j : Json) : Option SessionFault := do
  let value : String ← j.memberOr "" "value"
  let reason : String ← j.memberOr value "reason"
  let millis : Nat ← j.memberOr 0 "ms"
  let tag : Tag ← j.memberOr 0 "tag"
  match name with
  | "InvalidState" => return .invalidState (← j.memberOr "" "expected") (← j.memberOr "" "current")
  | "SequenceGap" => return .sequenceGap (← j.memberOr 0 "expected") (← j.memberOr 0 "received")
  | "SequenceTooLow" =>
    return .sequenceTooLow (← j.memberOr 0 "expected") (← j.memberOr 0 "received")
  | "InvalidSeqNum" => return .invalidSeqNum (← j.member? "value")
  | "CompIdMismatch" =>
    return .compIdMismatch tag (← j.memberOr "" "expected") (← j.memberOr "" "received")
  | "InvalidHeartBtInt" => return .invalidHeartBtInt value
  | "LogonRejected" => return .logonRejected reason
  | "HeartbeatTimeout" => return .heartbeatTimeout millis
  | "LogonTimeout" => return .logonTimeout millis
  | "AckTimeout" => return .ackTimeout value millis
  | "Unencodable" => return .unencodable (.fieldValue tag reason)
  | "Connection" => return .connection (← j.memberOr value "text")
  | "Disconnected" => return .disconnected
  | _ => none

def OrderFault.ofRecord? (name : String) (j : Json) : Option OrderFault := do
  match name with
  | "InvalidTransition" => return .transition (← j.memberOr "" "action") (← j.memberOr "" "state")
  | "VerificationFailed" =>
    return .verification (← j.memberOr "" "field") (← j.memberOr "" "expected")
      (← j.memberOr "" "actual")
  | "UnusableReport" => return .unusableReport (← j.memberOr "" "value")
  | _ => none

def ConfigFault.ofRecord? (name : String) (j : Json) : Option ConfigFault := do
  let value : String ← j.memberOr "" "value"
  let field : String ← j.memberOr value "field"
  match name with
  | "Missing" => return .missing field
  | "Invalid" => return .invalid field (← j.memberOr "" "reason")
  | _ => none

end FixBench
