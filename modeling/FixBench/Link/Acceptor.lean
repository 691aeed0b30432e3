import FixBench.Failure
import FixBench.Link.Endpoint

/-!
# Acceptors

An acceptor waits for a logon, which must be the first message and be addressed to it. From then on
its session answers heartbeats and logouts, and the application behind it answers everything else,
with messages or with a refusal. A message of a type nobody knows is refused without asking.
-/
namespace FixBench

/-- Why an application refuses a message; becomes a session reject. -/
structure RejectReason where
  code : Nat
  text : String
  refTag : Option Tag
  deriving DecidableEq, Repr

/-- What answers the messages of the application layer, with a state of type `σ`. -/
structure Application (σ : Type) where
  onLogon : Connection → σ → σ
  onLogout : Connection → σ → σ
  onMessage : Message → Connection → σ → Except RejectReason (List Message) × σ

/-- An application that takes everything and answers nothing. -/
def Application.silent : Application Unit where
  onLogon _ s := s
  onLogout _ s := s
  onMessage _ _ s := (.ok [], s)

structure AcceptorConfig where
  address : String
  compId : CompId
  /-- When given, the only client that may log on. -/
  expectedClient : Option CompId
  /-- Heartbeat interval until a client asks for its own. -/
  heartbeatInterval : Duration
  logonTimeout : Duration
  maxMessageSize : Nat
  deriving DecidableEq, Repr

def AcceptorConfig.default (address : String) (compId : CompId) : AcceptorConfig where
  address
  compId
  expectedClient := none
  heartbeatInterval := .ofSeconds 30
  logonTimeout := .ofSeconds 10
  maxMessageSize := Wire.defaultLimit

namespace Acceptor

/-! ### Logon -/

/-- The client a first message logs on, if it is a logon addressed to this acceptor. -/
def checkLogon (config : AcceptorConfig) (m : Message) : Except SessionFault CompId := do
  let type := m.msgType
  if type ≠ .logon then
    throw (.invalidState "Logon as first message" s!"received MsgType {type.text}")
  let target := (m.get Tag.targetCompId).getD ""
  if target ≠ config.compId.text then
    throw (.compIdMismatch Tag.targetCompId config.compId.text target)
  let sender := (m.get Tag.senderCompId).getD ""
  match config.expectedClient with
  | some expected =>
    if sender ≠ expected.text then
      throw (.compIdMismatch Tag.senderCompId expected.text sender)
  | none => pure ()
  match CompId.ofText? sender with
  | some client => return client
  | none => throw (.compIdMismatch Tag.senderCompId "a CompID of 1 to 32 characters" sender)

/-- The acceptor's configuration of the session a logon asks for. -/
def sessionConfig (config : AcceptorConfig) (client : CompId) (m : Message) : SessionConfig :=
  { SessionConfig.default config.compId client m.beginString with
    heartbeatInterval := config.heartbeatInterval
    logonTimeout := config.logonTimeout
    maxMessageSize := config.maxMessageSize
    targetSubId := m.get Tag.senderSubId }

/-- A connection on which the logon has yet to be processed. -/
def openConnection (config : AcceptorConfig) (id : Nat) (m : Message) (now : Moment) :
    Except SessionFault Connection := do
  let client ← checkLogon config m
  let session ← (Session.create (sessionConfig config client m) now).connecting
  let session ← session.connected now
  return .create id session

/-! ### Answers -/

/-- The session reject that answers a refused message. -/
def rejectFor (m : Message) (reason : RejectReason) : Message :=
  ((((Message.ofType m.beginString .reject).set Tag.refSeqNum (toString (m.seqNum?.getD 0))
    |>.set Tag.refMsgType m.msgTypeText)
    |>.set Tag.sessionRejectReason (toString reason.code))
    |>.setIfSome Tag.text (if reason.text = "" then none else some reason.text))
    |>.setIfSome Tag.refTagId (reason.refTag.map fun tag => toString tag.toNat)

def unsupported (code : String) : RejectReason where
  code := Reject.invalidMsgType
  text := s!"unsupported MsgType {code}"
  refTag := some Tag.msgType

/-- The logon that accepts a client on its own terms. -/
def logonReply (c : Connection) (heartBtInt : Nat) : Message :=
  ((Message.ofType c.sessionId.version .logon).set Tag.encryptMethod "0").set Tag.heartBtInt
    (toString heartBtInt)

/-- What the application says to a message, which it only sees if the type is known. -/
def consult {σ : Type} (app : Application σ) (m : Message) (c : Connection) (s : σ) :
    Except RejectReason (List Message) × σ :=
  match m.msgType with
  | .custom code => (.error (unsupported code), s)
  | _ => app.onMessage m c s

/-- State of the acceptor's role on one connection. -/
structure Desk (σ : Type) where
  application : σ
  loggedOn : Bool

def handle {σ : Type} (app : Application σ) (now : Moment) (event : SessionEvent) (d : Desk σ)
    (c : Connection) : Except SessionFault Unit × Desk σ × Connection :=
  match event with
  | .logonAccepted heartBtInt =>
    match c.send (logonReply c heartBtInt) now with
    | (.error fault, c) => (.error fault, d, c)
    | (.ok _, c) => (.ok (), ⟨app.onLogon c d.application, true⟩, c)
  | .deliver m =>
    let (answer, application) := consult app m c d.application
    let responses :=
      match answer with
      | .ok responses => responses
      | .error reason => [rejectFor m reason]
    let (result, c) := c.sendAll now responses
    (result, { d with application }, c)
  | .logout _ =>
    match c.send (c.session.logoutMessage none) now with
    | (.error fault, c) => (.error fault, d, c)
    | (.ok _, c) => (.ok (), d, c.close)

def closed {σ : Type} (app : Application σ) (c : Connection) (d : Desk σ) : Desk σ :=
  if d.loggedOn then { d with application := app.onLogout c d.application } else d

def role {σ : Type} (app : Application σ) : Role (Desk σ) where
  handle := handle app
  closed := closed app

/-! ### One accepted connection -/

inductive Phase where
  | awaitingLogon (buffer : List UInt8)
  | live (endpoint : Endpoint) (loggedOn : Bool)
  /-- Ended before a session was opened. -/
  | dropped (failure : Failure)
  deriving DecidableEq, Repr

/-- Runs the endpoint of a live connection on the application's state. -/
def onEndpoint {σ : Type} (s : σ) (endpoint : Endpoint) (loggedOn : Bool)
    (f : Desk σ → Endpoint → Desk σ × Endpoint) : σ × Phase :=
  let (d, endpoint) := f ⟨s, loggedOn⟩ endpoint
  (d.application, .live endpoint d.loggedOn)

/-- Opens a session on a first message; what was read behind it is taken in as well. -/
def begin {σ : Type} (config : AcceptorConfig) (app : Application σ) (id : Nat) (now : Moment)
    (first : Message) (rest : List UInt8) (s : σ) : σ × Phase :=
  match openConnection config id first now with
  | .error fault => (s, .dropped (.session fault))
  | .ok connection =>
    onEndpoint s (.create connection) false fun d e =>
      let (d, e) := e.takeMessage (role app) now first d
      e.receive (role app) now rest d

def receive {σ : Type} (config : AcceptorConfig) (app : Application σ) (id : Nat) (now : Moment)
    (chunk : List UInt8) (s : σ) : Phase → σ × Phase
  | .awaitingLogon buffer =>
    let bytes := buffer ++ chunk
    match Wire.frameLength config.maxMessageSize bytes with
    | .error fault => (s, .dropped (.session (.connection fault.message)))
    | .ok none => (s, .awaitingLogon bytes)
    | .ok (some length) =>
      match Wire.decode (bytes.take length) with
      | .error fault => (s, .dropped (.malformed fault))
      | .ok first => begin config app id now first (bytes.drop length) s
  | .live endpoint loggedOn =>
    onEndpoint s endpoint loggedOn fun d e => e.receive (role app) now chunk d
  | .dropped failure => (s, .dropped failure)

def receiveEnd {σ : Type} (app : Application σ) (s : σ) : Phase → σ × Phase
  | .awaitingLogon [] => (s, .dropped (.session .disconnected))
  | .awaitingLogon _ =>
    let fault := Wire.FrameFault.stream "bytes remaining on stream"
    (s, .dropped (.session (.connection fault.message)))
  | .live endpoint loggedOn =>
    onEndpoint s endpoint loggedOn fun d e => e.receiveEnd (role app) d
  | .dropped failure => (s, .dropped failure)

/-- Lets time pass on a connection accepted at `accepted`. -/
def tick {σ : Type} (config : AcceptorConfig) (app : Application σ) (accepted now : Moment)
    (s : σ) : Phase → σ × Phase
  | .awaitingLogon buffer =>
    if config.logonTimeout ≤ now.steady.since accepted.steady then
      (s, .dropped (.session (.logonTimeout config.logonTimeout.millis64)))
    else (s, .awaitingLogon buffer)
  | .live endpoint loggedOn =>
    onEndpoint s endpoint loggedOn fun d e =>
      { e with connection := e.connection.tick now }.settle (role app) d
  | .dropped failure => (s, .dropped failure)

/-- Closes a live connection from outside. -/
def shutdown {σ : Type} (app : Application σ) (s : σ) : Phase → σ × Phase
  | .live endpoint loggedOn =>
    onEndpoint s endpoint loggedOn fun d e =>
      { e with connection := e.connection.close }.settle (role app) d
  | phase => (s, phase)

/-- What becomes of a connection on which `bytes` arrive at once, followed by silence for a while or
by the end. -/
def answer {σ : Type} (config : AcceptorConfig) (app : Application σ) (s : σ) (bytes : List UInt8)
    (start : Moment) (silence : Option Moment) : σ × Phase :=
  let (s, phase) := receive config app 0 start bytes s (.awaitingLogon [])
  match silence with
  | some later => tick config app start later s phase
  | none => receiveEnd app s phase

def Phase.connection? : Phase → Option Connection
  | .live endpoint _ => some endpoint.connection
  | _ => none

/-- Whether the acceptor has closed its end. -/
def Phase.hasEnded : Phase → Bool
  | .awaitingLogon _ => false
  | .live endpoint _ => endpoint.ended
  | .dropped _ => true

end Acceptor

end FixBench
