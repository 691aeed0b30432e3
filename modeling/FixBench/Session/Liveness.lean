import FixBench.Duration
import FixBench.Protocol.Timestamp

/-!
# Liveness

A side that has sent nothing for one interval owes a heartbeat. A side that has received nothing for
two intervals asks for a sign of life with a test request, and gives the other up when no heartbeat
answers it within one interval more.

Time is passed in: a `Moment` is read off a steady clock and off the wall clock at once, and the
identifier of a test request is made from the latter.
-/
namespace FixBench

structure Moment where
  /-- Steady time since an arbitrary origin. -/
  steady : Duration
  /-- Nanoseconds since the start of 1970, UTC. -/
  wall : Nat
  deriving DecidableEq, Repr

namespace Moment

def timestamp (now : Moment) : Timestamp := .ofUnixNanos now.wall

def testReqId (now : Moment) : String := s!"TEST{now.wall}"

end Moment

inductive LivenessAction where
  | sendHeartbeat
  | sendTestRequest (id : String)
  | timedOut (silence : Duration)
  deriving DecidableEq, Repr

/-- A test request that no heartbeat has answered yet. -/
structure PendingTest where
  id : String
  sentAt : Duration
  deriving DecidableEq, Repr

structure Liveness where
  interval : Duration
  lastSent : Duration
  lastReceived : Duration
  pending : Option PendingTest
  deriving DecidableEq, Repr

namespace Liveness

/-- The longest interval a session may work with: one day. -/
def maxInterval : Duration := .ofSeconds (24 * 60 * 60)

def start (interval : Duration) (now : Moment) : Liveness :=
  { interval, lastSent := now.steady, lastReceived := now.steady, pending := none }

def noteSent (l : Liveness) (now : Moment) : Liveness := { l with lastSent := now.steady }

/-- Whether a heartbeat with this identifier answers the pending test request. -/
def answers (l : Liveness) (testReqId : Option String) : Bool :=
  match l.pending with
  | some test => testReqId == some test.id
  | none => false

def noteReceived (l : Liveness) (now : Moment) (isHeartbeat : Bool)
    (testReqId : Option String) : Liveness :=
  { l with
    lastReceived := now.steady
    pending := if isHeartbeat && l.answers testReqId then none else l.pending }

/-- A heartbeat, if one is due. -/
def heartbeatDue (l : Liveness) (now : Moment) : Option LivenessAction :=
  if l.interval ≤ now.steady.since l.lastSent then some .sendHeartbeat else none

def poll (l : Liveness) (now : Moment) : Option LivenessAction × Liveness :=
  let silence := now.steady.since l.lastReceived
  match l.pending with
  | some test =>
    if l.interval ≤ now.steady.since test.sentAt then (some (.timedOut silence), l)
    else (l.heartbeatDue now, l)
  | none =>
    if l.interval.double ≤ silence then
      let id := now.testReqId
      (some (.sendTestRequest id),
        { l with lastSent := now.steady, pending := some ⟨id, now.steady⟩ })
    else (l.heartbeatDue now, l)

end Liveness

end FixBench
