import FixBench.Link.Acceptor
import FixBench.Link.Line

/-!
# Loopback

A line whose far end is an acceptor with an application behind it.
-/
namespace FixBench

/-- One accepted connection, together with the application it is for. -/
structure AcceptorEnd (σ : Type) where
  state : σ
  phase : Acceptor.Phase
  /-- Number of the connection. -/
  id : Nat
  accepted : Moment

namespace AcceptorEnd

variable {σ : Type}

def onPhase (e : AcceptorEnd σ) (f : σ → Acceptor.Phase → σ × Acceptor.Phase) : AcceptorEnd σ :=
  let (state, phase) := f e.state e.phase
  { e with state, phase }

/-- Frames written so far. -/
def sent (e : AcceptorEnd σ) : List Sent :=
  match e.phase.connection? with
  | some c => c.sent
  | none => []

def peer (config : AcceptorConfig) (app : Application σ) : Peer (AcceptorEnd σ) where
  receive now chunk e := e.onPhase (Acceptor.receive config app e.id now chunk)
  receiveEnd e := e.onPhase (Acceptor.receiveEnd app)
  tick now e := e.onPhase (Acceptor.tick config app e.accepted now)
  written e := e.sent.map Sent.bytes
  hasEnded e := e.phase.hasEnded

/-- A connection that has just been accepted. -/
def fresh (state : σ) (id : Nat) (now : Moment) : AcceptorEnd σ :=
  ⟨state, .awaitingLogon [], id, now⟩

end AcceptorEnd

abbrev Loopback (σ : Type) := Line (AcceptorEnd σ)

namespace Loopback

variable {σ : Type}

/-- A client whose connection has just been accepted. -/
def start (config : AcceptorConfig) (app : Application σ) (state : σ) (client : Client) (id : Nat)
    (now : Moment) : Loopback σ :=
  Line.start (AcceptorEnd.peer config app) (.fresh state id now) client now

/-- Connects a client to an acceptor and logs it on. -/
def logOn (network : Network) (session : SessionConfig) (config : AcceptorConfig)
    (app : Application σ) (state : σ) (id : Nat) (now : Moment) (timeout : Duration) :
    Except Failure (Loopback σ) := do
  let client ← Client.connect network session id now
  match Line.logon (start config app state client id now) timeout with
  | (.ok (), line) => return line
  | (.error fault, _) => throw (.session fault)

/-- State of the application. -/
def state (l : Loopback σ) : σ := l.far.state

def withState (l : Loopback σ) (state : σ) : Loopback σ := { l with far := { l.far with state } }

/-- Closes the acceptor's end from outside. -/
def shut (app : Application σ) (l : Loopback σ) : Loopback σ :=
  { l with far := l.far.onPhase (Acceptor.shutdown app) }.settled

/-- Sends a message from the acceptor on its own account. -/
def push (l : Loopback σ) (m : Message) : Except SessionFault Nat × Loopback σ :=
  match l.far.phase with
  | .live endpoint loggedOn =>
    let (result, connection) := endpoint.connection.send m l.now
    let phase := .live { endpoint with connection } loggedOn
    (result, { l with far := { l.far with phase } }.settled)
  | _ => (.error .disconnected, l)

end Loopback

end FixBench
