import FixBench.Session.Config
import FixBench.Session.Sequence
import FixBench.Session.State
import FixBench.View.Admin

/-!
# Sessions

A session decides what may be sent, numbers it, checks what arrives, and says what to do about it.
It does no input or output: every operation takes a session and gives one back, together with its
answer. Operations that can fail change the session on failure too, so both are always returned.

An incoming message has to carry the number that is due and the two identifiers the other way
round. While the logon is pending only a logon or a logout passes; afterwards a second logon does
not. Every fault of an incoming message ends the session.
-/
namespace FixBench

/-- What to do about an accepted message. -/
inductive Inbound where
  /-- The session has become active; `heartBtInt` is the interval asked for, zero if none. -/
  | logonAccepted (heartBtInt : Nat)
  /-- The session's own business; `reply` is to be sent. -/
  | admin (reply : Option Message)
  | logout
  /-- For the application. -/
  | deliver
  deriving DecidableEq, Repr

structure Session where
  config : SessionConfig
  state : SessionState
  sequences : SequenceNumbers
  liveness : Liveness
  counterpartySubId : Option String
  deriving DecidableEq, Repr

namespace Session

def create (config : SessionConfig) (now : Moment) : Session where
  config
  state := .disconnected
  sequences := .initial
  liveness := .start config.heartbeatInterval now
  counterpartySubId := none

/-! ### Connecting -/

def moveTo (s : Session) (next : SessionState) : Except SessionFault Session :=
  (s.state.moveTo next).map fun state => { s with state }

def connecting (s : Session) : Except SessionFault Session := s.moveTo .connecting

def connected (s : Session) (now : Moment) : Except SessionFault Session :=
  (s.moveTo .logonPending).map fun s => { s with liveness := .start s.liveness.interval now }

def disconnect (s : Session) : Session := { s with state := .disconnected }

/-! ### Sending -/

/-- Whether a message of this type may be sent now. -/
def maySend (s : Session) (type : MsgType) : Bool :=
  match s.state with
  | .active => true
  | .logonPending => type == .logon || type == .logout
  | .disconnected | .connecting => false

/-- Header of an outgoing message under the number `seq`. -/
def addHeader (s : Session) (m : Message) (seq : Nat) (now : Moment) : Message :=
  ((((((m.set Tag.senderCompId s.config.sender.text)
    |>.set Tag.targetCompId s.config.target.text)
    |>.set Tag.msgSeqNum (toString seq))
    |>.set Tag.sendingTime now.timestamp.toText)
    |>.setIfSome Tag.senderSubId s.config.senderSubId)
    |>.setIfSome Tag.targetSubId (s.config.targetSubId.or s.counterpartySubId))

/-- Gives an outgoing message the next number and its header. -/
def stamp (s : Session) (m : Message) (now : Moment) : Except SessionFault (Message × Session) :=
  if s.maySend m.msgType then
    let (seq, sequences) := s.sequences.allocate
    .ok (s.addHeader m seq now, { s with sequences, liveness := s.liveness.noteSent now })
  else .error (.invalidState SessionState.active.text s.state.text)

/-! ### Receiving -/

/-- The two identifiers of an incoming message have changed places. -/
def checkCompId (m : Message) (tag : Tag) (expected : CompId) : Except SessionFault Unit :=
  let received := (m.get tag).getD ""
  if received = expected.text then .ok ()
  else .error (.compIdMismatch tag expected.text received)

def checkCompIds (s : Session) (m : Message) : Except SessionFault Unit := do
  checkCompId m Tag.senderCompId s.config.target
  checkCompId m Tag.targetCompId s.config.sender

/-- The heartbeat interval a logon asks for, in seconds; zero if it does not ask. -/
def negotiatedInterval : Option String → Except SessionFault Nat
  | none => .ok 0
  | some raw =>
    match ValueFormat.u64.read? raw with
    | some seconds =>
      if seconds ≤ Liveness.maxInterval.seconds then .ok seconds
      else .error (.invalidHeartBtInt raw)
    | none => .error (.invalidHeartBtInt raw)

/-- Makes the session active on the terms of a logon. -/
def acceptLogon (s : Session) (m : Message) : Except SessionFault (Inbound × Session) := do
  let seconds ← negotiatedInterval (m.get Tag.heartBtInt)
  let interval := if 0 < seconds then Duration.ofSeconds seconds else s.liveness.interval
  let s := { s with
    liveness := { s.liveness with interval }
    counterpartySubId := m.get Tag.senderSubId }
  let s ← s.moveTo .active
  return (.logonAccepted seconds, s)

/-- The heartbeat that answers a test request. -/
def heartbeatReply (s : Session) (m : Message) : Message :=
  (Message.ofType s.config.version .heartbeat).setIfSome Tag.testReqId (m.get Tag.testReqId)

/-- What a message with a correct header means in the session's state. -/
def dispatch (s : Session) (m : Message) : Except SessionFault (Inbound × Session) :=
  match s.state, m.msgType with
  | _, .logout => .ok (.logout, s)
  | .logonPending, .logon => s.acceptLogon m
  | .logonPending, other =>
    .error (.invalidState SessionState.active.text
      s!"{s.state.text} (received MsgType {other.text})")
  | _, .logon => .error (.invalidState SessionState.logonPending.text s.state.text)
  | _, .heartbeat => .ok (.admin none, s)
  | _, .testRequest => .ok (.admin (some (s.heartbeatReply m)), s)
  | _, _ => .ok (.deliver, s)

/-- Handles a message that arrived while connected. The session returned with a fault has taken
notice of the message as far as it was in order. -/
def receive (s : Session) (m : Message) (now : Moment) : Except SessionFault Inbound × Session :=
  match s.sequences.accept (m.get Tag.msgSeqNum) with
  | .error fault => (.error fault, s)
  | .ok (_, sequences) =>
    let s := { s with sequences }
    match s.checkCompIds m with
    | .error fault => (.error fault, s)
    | .ok () =>
      let isHeartbeat := m.msgType == .heartbeat
      let s := { s with
        liveness := s.liveness.noteReceived now isHeartbeat (m.get Tag.testReqId) }
      match s.dispatch m with
      | .error fault => (.error fault, s)
      | .ok (inbound, s) => (.ok inbound, s)

/-- Handles an incoming message; a fault of the message ends the session. -/
def inbound (s : Session) (m : Message) (now : Moment) : Except SessionFault Inbound × Session :=
  if s.state.isConnected then
    match s.receive m now with
    | (.ok inbound, s) => (.ok inbound, s)
    | (.error fault, s) => (.error fault, s.disconnect)
  else (.error (.invalidState SessionState.active.text s.state.text), s)

/-! ### Liveness -/

/-- What the passing of time asks for; a session that timed out is disconnected. -/
def poll (s : Session) (now : Moment) : Option LivenessAction × Session :=
  if s.state.isActive then
    let (action, liveness) := s.liveness.poll now
    let s := { s with liveness }
    match action with
    | some (.timedOut silence) => (some (.timedOut silence), s.disconnect)
    | action => (action, s)
  else (none, s)

/-! ### Messages of the session's own -/

def livenessMessage (s : Session) : LivenessAction → Option Message
  | .sendHeartbeat => some (.ofType s.config.version .heartbeat)
  | .sendTestRequest id =>
    some ((Message.ofType s.config.version .testRequest).set Tag.testReqId id)
  | .timedOut _ => none

def logonMessage (s : Session) : Message :=
  ((Message.ofType s.config.version .logon).set Tag.encryptMethod "0").set Tag.heartBtInt
    (toString s.liveness.interval.seconds)

def logoutMessage (s : Session) (text : Option String) : Message :=
  (Message.ofType s.config.version .logout).setIfSome Tag.text text

end Session

end FixBench
