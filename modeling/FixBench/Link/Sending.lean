import Mathlib.Control.Monad.Basic
import FixBench.Link.Connection
import FixBench.Wire.Decode

/-!
# Concurrent sending

Any number of calls may be sending on one connection. Each call goes through the same stages, one
step at a time, and steps of different calls interleave freely; the writer's lock lets only one call
at a time be between taking it and releasing it. A call whose write has failed releases the lock
first and closes the connection afterwards, so another call may slip in between.

Frames that arrive, looks at the clock and closing may come in anywhere. Closing has parts that are
not one step either: the reason is recorded, the session is disconnected, and callers are told.

`Traffic` is a connection with its calls under way, and `Traffic.step` one step of any of them.
-/
namespace FixBench

/-- How far a call to send a message has come. -/
inductive SendStage where
  | called (m : Message)
  | admitted (m : Message)
  /-- Holds the lock. -/
  | locked (m : Message)
  /-- Holds the lock; the message has its header. -/
  | stamped (m : Message)
  /-- Holds the lock; nothing is left to do. -/
  | finishing (result : Except SessionFault Nat)
  /-- The write has failed and the lock is free again; the connection is yet to be closed. -/
  | failing (fault : SessionFault)
  | returned (result : Except SessionFault Nat)
  /-- Has returned after a write that failed. -/
  | failed (fault : SessionFault)
  deriving DecidableEq

namespace SendStage

def holdsLock : SendStage → Bool
  | locked _ | stamped _ | finishing _ => true
  | _ => false

/-- What the caller has been told, once the call has returned. -/
def result? : SendStage → Option (Except SessionFault Nat)
  | returned result => some result
  | failed fault => some (.error fault)
  | _ => none

/-- One step of a call that is free to go on. -/
def advance (c : Connection) (now : Moment) : SendStage → SendStage × Connection
  | called m =>
    match c.checkSendable m with
    | .error fault => (returned (.error fault), c)
    | .ok () => (admitted m, c)
  | admitted m => (locked m, c)
  | locked m =>
    match c.stamp m now with
    | .error fault => (finishing (.error fault), c)
    | .ok (stampedMessage, c) => (stamped stampedMessage, c)
  | stamped m =>
    match c.put m with
    | .error fault => (failing fault, c)
    | .ok (seq, c) => (finishing (.ok seq), c)
  | finishing result => (returned result, c)
  | failing fault => (failed fault, c.fail fault)
  | returned result => (returned result, c)
  | failed fault => (failed fault, c)

end SendStage

structure Traffic where
  connection : Connection
  calls : List SendStage

/-- What may happen next on a connection. -/
inductive TrafficEvent where
  | call (m : Message)
  /-- The call at this place takes a step, if the lock lets it. -/
  | advance (index : Nat)
  /-- A frame arrives; one that is not a message is left out. -/
  | inbound (frame : List UInt8)
  | poll
  /-- The first reason for closing is kept. -/
  | record (fault : SessionFault)
  | disconnect
  | cancel
  deriving DecidableEq, Repr

namespace Traffic

def start (connection : Connection) : Traffic := ⟨connection, []⟩

def isLocked (t : Traffic) : Bool := t.calls.any SendStage.holdsLock

/-- A call that still has to take the lock waits while another holds it. -/
def mayAdvance (t : Traffic) : SendStage → Bool
  | .admitted _ => !t.isLocked
  | _ => true

def step (t : Traffic) (now : Moment) : TrafficEvent → Traffic
  | .call m => { t with calls := t.calls ++ [.called m] }
  | .advance index =>
    match t.calls[index]? with
    | none => t
    | some stage =>
      if t.mayAdvance stage then
        let (stage, connection) := stage.advance t.connection now
        { connection, calls := t.calls.set index stage }
      else t
  | .inbound frame =>
    match Wire.decode frame with
    | .error _ => t
    | .ok m => { t with connection.session := (t.connection.session.inbound m now).2 }
  | .poll => { t with connection.session := (t.connection.session.poll now).2 }
  | .record fault =>
    { t with connection.closeReason := t.connection.closeReason.or (some fault) }
  | .disconnect => { t with connection.session := t.connection.session.disconnect }
  | .cancel => { t with connection.closed := true }

def run (t : Traffic) : List (Moment × TrafficEvent) → Traffic
  | [] => t
  | (now, event) :: rest => (t.step now event).run rest

end Traffic

end FixBench
