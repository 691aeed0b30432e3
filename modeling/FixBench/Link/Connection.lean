import FixBench.Session.Basic
import FixBench.Wire.Framing

/-!
# Connections

A connection joins a session to the frames it has written. Sending is done in steps: a message is
admitted if the connection is open and its values can be written, is then given its header under the
writer's lock, and is written before the lock is released. Frames therefore leave in the order of
their numbers, however many senders there are.

A connection is closed once and for all. A fault that closed it is kept as the reason; without one
the reason is an orderly end.
-/
namespace FixBench

/-- A message on the wire. -/
structure Sent where
  message : Message
  bytes : List UInt8
  deriving DecidableEq, Repr

structure Connection where
  /-- Tells the connections of one program apart. -/
  id : Nat
  session : Session
  /-- Everything written, oldest first. -/
  sent : List Sent
  closed : Bool
  closeReason : Option SessionFault
  deriving DecidableEq, Repr

namespace Connection

def create (id : Nat) (session : Session) : Connection where
  id
  session
  sent := []
  closed := false
  closeReason := none

def sessionId (c : Connection) : SessionId := .ofConfig c.session.config

def state (c : Connection) : SessionState := c.session.state

def reason (c : Connection) : SessionFault := c.closeReason.getD .disconnected

/-- Closes without recording a fault. -/
def close (c : Connection) : Connection :=
  { c with session := c.session.disconnect, closed := true }

/-- Closes for a fault; the first one is kept. -/
def fail (c : Connection) (fault : SessionFault) : Connection :=
  { c with closeReason := c.closeReason.or (some fault) }.close

/-! ### Sending -/

/-- Refuses a message before anything is spent on it. -/
def checkSendable (c : Connection) (m : Message) : Except SessionFault Unit :=
  if c.closed then .error c.reason
  else
    match Wire.checkValues m with
    | .error fault => .error (.unencodable fault)
    | .ok () => .ok ()

/-- Gives a message its header. -/
def stamp (c : Connection) (m : Message) (now : Moment) :
    Except SessionFault (Message × Connection) :=
  match c.session.stamp m now with
  | .error fault => .error fault
  | .ok (stamped, session) => .ok (stamped, { c with session })

/-- Puts a message that has its header on the wire, and gives its number. -/
def put (c : Connection) (stamped : Message) : Except SessionFault (Nat × Connection) :=
  match Wire.encode stamped with
  | .ok bytes => .ok (stamped.seqNum?.getD 0, { c with sent := c.sent ++ [⟨stamped, bytes⟩] })
  | .error fault => .error (.connection (Wire.FrameFault.unencodable fault).message)

/-- Puts a message on the wire; a failure closes the connection. -/
def write (c : Connection) (stamped : Message) : Except SessionFault Nat × Connection :=
  match c.put stamped with
  | .ok (seq, c) => (.ok seq, c)
  | .error fault => (.error fault, c.fail fault)

/-- Sends a message with nobody else at work. -/
def send (c : Connection) (m : Message) (now : Moment) : Except SessionFault Nat × Connection :=
  match c.checkSendable m with
  | .error fault => (.error fault, c)
  | .ok () =>
    match c.stamp m now with
    | .error fault => (.error fault, c)
    | .ok (stamped, c) => c.write stamped

/-- Sends messages one after the other up to the first that fails. -/
def sendAll (c : Connection) (now : Moment) : List Message → Except SessionFault Unit × Connection
  | [] => (.ok (), c)
  | m :: rest =>
    match c.send m now with
    | (.error fault, c) => (.error fault, c)
    | (.ok _, c) => c.sendAll now rest

/-! ### Liveness -/

/-- Longest pause between two looks at the clock, and shortest. -/
def longestPause : Duration := .ofSeconds 1
def shortestPause : Duration := .ofMillis 10

/-- Pause before the next look at the clock: a quarter of the interval, within bounds. -/
def pause (c : Connection) : Duration :=
  let quarter := c.session.liveness.interval.nanos / 4
  ⟨max shortestPause.nanos (min longestPause.nanos quarter)⟩

/-- Looks at the clock: sends what liveness asks for, or gives the other side up. -/
def tick (c : Connection) (now : Moment) : Connection :=
  if c.closed then c
  else
    let (action, session) := c.session.poll now
    let c := { c with session }
    match action with
    | none => c
    | some (.timedOut silence) => c.fail (.heartbeatTimeout silence.millis64)
    | some action =>
      match session.livenessMessage action with
      | some m => (c.send m now).2
      | none => c

end Connection

end FixBench
