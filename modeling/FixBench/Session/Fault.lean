import FixBench.Duration
import FixBench.Protocol.Message

/-!
# What can go wrong with a session

A session fault is a violation of the protocol, the end of a bounded wait, a message that cannot be
sent, or the loss of the connection. A configuration fault is a setting that is missing or out of
range.
-/
namespace FixBench

inductive SessionFault where
  | invalidState (expected current : String)
  | sequenceGap (expected received : Nat)
  | sequenceTooLow (expected received : Nat)
  | invalidSeqNum (value : Option String)
  | compIdMismatch (tag : Tag) (expected received : String)
  | invalidHeartBtInt (value : String)
  | logonRejected (reason : String)
  | heartbeatTimeout (elapsedMillis : Nat)
  | logonTimeout (millis : Nat)
  | ackTimeout (clOrdId : String) (millis : Nat)
  | unencodable (fault : BuildFault)
  | connection (text : String)
  | disconnected
  deriving DecidableEq, Repr

namespace SessionFault

def message : SessionFault → String
  | invalidState expected current =>
    s!"invalid session state: expected {expected}, current {current}"
  | sequenceGap expected received =>
    s!"sequence gap detected: expected {expected}, received {received}"
  | sequenceTooLow expected received =>
    s!"sequence too low: expected {expected}, received {received}"
  | invalidSeqNum value => s!"invalid msg seq num: {Text.quotedOption value}"
  | compIdMismatch tag expected received =>
    s!"comp id mismatch on tag {tag}: expected {expected}, received {received}"
  | invalidHeartBtInt value => s!"invalid heartbeat interval: {Text.quoted value}"
  | logonRejected reason => s!"logon rejected: {reason}"
  | heartbeatTimeout millis => s!"heartbeat timeout after {millis} milliseconds"
  | logonTimeout millis => s!"logon timeout after {millis} milliseconds"
  | ackTimeout clOrdId millis => s!"ack timeout for ClOrdID {clOrdId} after {millis} milliseconds"
  | unencodable fault => s!"unencodable message: {fault.message}"
  | connection text => s!"connection error: {text}"
  | disconnected => "session disconnected"

/-- Short name of the cause. -/
def name : SessionFault → String
  | invalidState .. => "InvalidState"
  | sequenceGap .. => "SequenceGap"
  | sequenceTooLow .. => "SequenceTooLow"
  | invalidSeqNum _ => "InvalidSeqNum"
  | compIdMismatch .. => "CompIdMismatch"
  | invalidHeartBtInt _ => "InvalidHeartBtInt"
  | logonRejected _ => "LogonRejected"
  | heartbeatTimeout _ => "HeartbeatTimeout"
  | logonTimeout _ => "LogonTimeout"
  | ackTimeout .. => "AckTimeout"
  | unencodable _ => "Unencodable"
  | connection _ => "Connection"
  | disconnected => "Disconnected"

/-- The other side broke a rule of the protocol. -/
def isProtocolViolation : SessionFault → Bool
  | invalidState .. | sequenceGap .. | sequenceTooLow .. | invalidSeqNum .. | compIdMismatch ..
  | invalidHeartBtInt .. | logonRejected .. | heartbeatTimeout .. => true
  | _ => false

/-- A bounded wait came to its end. -/
def isTimeout : SessionFault → Bool
  | logonTimeout .. | ackTimeout .. => true
  | _ => false

/-- The connection is gone. -/
def isConnectionLoss : SessionFault → Bool
  | connection .. | disconnected => true
  | _ => false

end SessionFault

inductive ConfigFault where
  | missing (field : String)
  | invalid (field reason : String)
  deriving DecidableEq, Repr

def ConfigFault.message : ConfigFault → String
  | .missing field => s!"missing configuration value: {field}"
  | .invalid field reason => s!"invalid configuration value for {field}: {reason}"

/-- Short name of the cause. -/
def ConfigFault.name : ConfigFault → String
  | .missing _ => "Missing"
  | .invalid .. => "Invalid"

end FixBench
