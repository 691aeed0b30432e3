import FixBench.Link.Connection
import FixBench.Wire.Decode

/-!
# Endpoints

An endpoint is a connection with its reading side: bytes come in, frames are cut off and decoded,
and the session says what each message means. What the session leaves open is up to the role the
endpoint plays, initiator or acceptor. A frame that does not decode is skipped; a stream that cannot
be cut into frames, a fault of the session and the end of the stream end the endpoint.
-/
namespace FixBench

/-- What the session leaves to the role. -/
inductive SessionEvent where
  | logonAccepted (heartBtInt : Nat)
  | deliver (m : Message)
  | logout (m : Message)
  deriving DecidableEq, Repr

/-- A role keeps a state of type `σ`; a fault of its reaction ends the endpoint. -/
structure Role (σ : Type) where
  handle : Moment → SessionEvent → σ → Connection → Except SessionFault Unit × σ × Connection
  /-- Called once, when the endpoint has ended. -/
  closed : Connection → σ → σ

structure Endpoint where
  connection : Connection
  /-- Bytes of a frame that is not complete yet. -/
  buffer : List UInt8
  /-- Nothing more is read. -/
  ended : Bool
  deriving DecidableEq, Repr

namespace Endpoint

variable {σ : Type}

def create (connection : Connection) : Endpoint := ⟨connection, [], false⟩

/-- Longest frame the endpoint reads. -/
def limit (e : Endpoint) : Nat := e.connection.session.config.maxMessageSize

def finish (role : Role σ) (fault : Option SessionFault) (s : σ) (e : Endpoint) : σ × Endpoint :=
  let connection :=
    match fault with
    | some fault => e.connection.fail fault
    | none => e.connection.close
  (role.closed connection s, { e with connection, ended := true })

/-- Lets the role react to an event. -/
def react (role : Role σ) (now : Moment) (event : SessionEvent) (s : σ) (e : Endpoint) :
    σ × Endpoint :=
  let (result, s, connection) := role.handle now event s e.connection
  let e := { e with connection }
  match result with
  | .error fault => e.finish role (some fault) s
  | .ok () => if connection.closed then e.finish role none s else (s, e)

/-- Handles one message. -/
def takeMessage (role : Role σ) (now : Moment) (m : Message) (s : σ) (e : Endpoint) :
    σ × Endpoint :=
  let (answer, session) := e.connection.session.inbound m now
  let e := { e with connection := { e.connection with session } }
  match answer with
  | .error fault => e.finish role (some fault) s
  | .ok (.admin none) => (s, e)
  | .ok (.admin (some reply)) =>
    match e.connection.send reply now with
    | (.error fault, connection) => { e with connection }.finish role (some fault) s
    | (.ok _, connection) => (s, { e with connection })
  | .ok (.logonAccepted heartBtInt) => e.react role now (.logonAccepted heartBtInt) s
  | .ok .logout => e.react role now (.logout m) s
  | .ok .deliver => e.react role now (.deliver m) s

/-- Handles frames in order, for as long as the endpoint goes on. -/
def takeFrames (role : Role σ) (now : Moment) (s : σ) (e : Endpoint) :
    List (List UInt8) → σ × Endpoint
  | [] => (s, e)
  | frame :: rest =>
    if e.ended then (s, e)
    else
      match Wire.decode frame with
      | .error _ => takeFrames role now s e rest
      | .ok m =>
        let (s, e) := e.takeMessage role now m s
        takeFrames role now s e rest

/-- Takes in bytes as they arrive. -/
def receive (role : Role σ) (now : Moment) (chunk : List UInt8) (s : σ) (e : Endpoint) :
    σ × Endpoint :=
  if e.ended then (s, e)
  else
    let pass := Wire.drain e.limit (e.buffer ++ chunk)
    let (s, e) := takeFrames role now s { e with buffer := pass.left } pass.frames
    match pass.fault with
    | some fault =>
      if e.ended then (s, e) else e.finish role (some (.connection fault.message)) s
    | none => (s, e)

/-- The other side has closed its end. -/
def receiveEnd (role : Role σ) (s : σ) (e : Endpoint) : σ × Endpoint :=
  if e.ended then (s, e)
  else
    match (Wire.drainEnd e.limit e.buffer).fault with
    | some fault => e.finish role (some (.connection fault.message)) s
    | none => e.finish role (some (.connection "connection closed by peer")) s

/-- Ends the endpoint if its connection has been closed elsewhere. -/
def settle (role : Role σ) (s : σ) (e : Endpoint) : σ × Endpoint :=
  if e.connection.closed && !e.ended then e.finish role none s else (s, e)

end Endpoint

end FixBench
