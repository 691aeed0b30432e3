import FixBench.Link.Acceptor
import FixBench.Link.Router
import FixBench.Protocol.Record

/-!
# Sessions, acceptors and report matches as JSON records

A time is read from milliseconds or, failing that, from seconds. A session's configuration shows it
both ways, the milliseconds modulo 2^64.
-/
namespace FixBench

/-! ### Sessions -/

/-- A time given under one of two names. -/
def Duration.ofRecord? (millis seconds : String) (j : Json) : Option (Option Duration) := do
  let millis : Option Nat ← j.member? millis
  let seconds : Option Nat ← j.member? seconds
  return (millis.map ofMillis).or (seconds.map ofSeconds)

namespace SessionSettings

def ofRecord? (j : Json) : Option SessionSettings := do
  return {
    sender := ← j.member? "sender"
    target := ← j.member? "target"
    version := ← j.member? "begin"
    heartbeatInterval := ← Duration.ofRecord? "heartbeat_ms" "heartbeat_secs" j
    logonTimeout := ← Duration.ofRecord? "logon_ms" "logon_secs" j
    senderSubId := ← j.member? "sender_sub"
    targetSubId := ← j.member? "target_sub" }

instance : FromJson SessionSettings := ⟨ofRecord?⟩

end SessionSettings

namespace SessionConfig

def toRecord (c : SessionConfig) : Json :=
  .record
    [("sender", c.sender), ("target", c.target), ("begin", c.version),
     ("heartbeat_ms", c.heartbeatInterval.millis % Numeral.limit64),
     ("heartbeat_secs", c.heartbeatInterval.seconds),
     ("logon_ms", c.logonTimeout.millis % Numeral.limit64),
     ("max_message_size", c.maxMessageSize), ("sender_sub", c.senderSubId),
     ("target_sub", c.targetSubId), ("label", c.label), ("id", (SessionId.ofConfig c).toText)]

instance : ToJson SessionConfig := ⟨toRecord⟩

/-- The values given in a record in place of the configuration's own. -/
def amend? (c : SessionConfig) (j : Json) : Option SessionConfig := do
  let s ← SessionSettings.ofRecord? j
  return { c with
    heartbeatInterval := s.heartbeatInterval.getD c.heartbeatInterval
    logonTimeout := s.logonTimeout.getD c.logonTimeout
    maxMessageSize := ← j.memberOr c.maxMessageSize "max_message_size"
    senderSubId := s.senderSubId
    targetSubId := s.targetSubId }

end SessionConfig

instance : ToJson SessionState := ⟨fun state => .ofText state.text⟩

instance : FromJson SessionState where
  fromJson? j := j.string?.bind fun text => SessionState.all.find? (·.text == text)

/-- Where a session stands; intervals are in whole seconds. -/
def Session.toRecord (s : Session) : Json :=
  .record
    [("id", s.config.label), ("state", s.state), ("next_out", s.sequences.nextOut),
     ("next_in", s.sequences.nextIn), ("interval_secs", s.liveness.interval.seconds),
     ("config_secs", s.config.heartbeatInterval.seconds)]

instance : ToJson Session := ⟨Session.toRecord⟩

/-! ### Acceptors and report matches -/

namespace AcceptorConfig

/-- The values given in a record in place of the configuration's own. -/
def amend? (c : AcceptorConfig) (j : Json) : Option AcceptorConfig := do
  let heartbeat ← Duration.ofRecord? "heartbeat_ms" "heartbeat_secs" j
  let logon ← Duration.ofRecord? "logon_ms" "logon_secs" j
  return { c with
    compId := ← j.memberOr c.compId "comp_id"
    expectedClient := ← j.member? "expected_client"
    heartbeatInterval := heartbeat.getD c.heartbeatInterval
    logonTimeout := logon.getD c.logonTimeout
    maxMessageSize := ← j.memberOr c.maxMessageSize "max_message_size" }

/-- Members of a record; times are in whole seconds. -/
def members (c : AcceptorConfig) : List (String × Json) :=
  [("bind_addr", c.address), ("comp_id", c.compId), ("expected_client", c.expectedClient),
   ("heartbeat_secs", c.heartbeatInterval.seconds), ("logon_secs", c.logonTimeout.seconds),
   ("max_message_size", c.maxMessageSize)]

end AcceptorConfig

instance : ToJson RejectReason where
  toJson r := .record [("code", r.code), ("text", r.text), ("ref_tag", r.refTag)]

instance : FromJson ReportMatch where
  fromJson? j := do return ⟨← j.member? "cl_ord_id", ← j.member? "status"⟩

end FixBench
