import FixBench.Protocol.Message
import FixBench.Session.Fault

/-!
# Report routing

Messages for the application are handed to whoever waits for them. A waiter names the order it is
interested in, and perhaps a status; a message goes to the oldest waiter it suits, and into the
backlog if it suits none. A new waiter first looks through the backlog.

A message handed to a waiter lies in a slot of its own until the waiter takes it. A waiter is
registered until it has been handed a message, gives up, or the router is closed. Closing keeps the
backlog, and its first reason is the one everybody is told.
-/
namespace FixBench

/-- Which report a waiter is interested in. -/
structure ReportMatch where
  clOrdId : String
  status : Option OrdStatus
  deriving DecidableEq, Repr

namespace ReportMatch

/-- Status of a report: the code its field begins with. -/
def statusOf (m : Message) : Option OrdStatus :=
  match (m.get Tag.ordStatus).map String.toList with
  | some (c :: _) => CodeSet.ofChar? c
  | _ => none

/-- A report suits by its own identifier or by the one it replaces. -/
def suits (c : ReportMatch) (m : Message) : Bool :=
  (m.msgType == .executionReport || m.msgType == .orderCancelReject)
    && (m.get Tag.clOrdId == some c.clOrdId || m.get Tag.origClOrdId == some c.clOrdId)
    && (c.status.isNone || statusOf m == c.status)

end ReportMatch

structure Waiter where
  id : Nat
  criteria : ReportMatch
  deriving DecidableEq, Repr

/-- A message handed to a waiter that has not taken it yet. -/
structure Slot where
  waiterId : Nat
  message : Message
  deriving DecidableEq, Repr

structure Router where
  waiters : List Waiter
  slots : List Slot
  backlog : List Message
  closed : Option SessionFault
  nextWaiterId : Nat
  deriving DecidableEq, Repr

namespace Router

def empty : Router where
  waiters := []
  slots := []
  backlog := []
  closed := none
  nextWaiterId := 0

/-- Drops the first element that satisfies `p`, and gives it. -/
def takeFirst {α : Type} (p : α → Bool) : List α → Option (α × List α)
  | [] => none
  | a :: rest =>
    if p a then some (a, rest)
    else (takeFirst p rest).map fun (found, others) => (found, a :: others)

/-- Hands a message to the oldest waiter it suits, or queues it. -/
def dispatch (r : Router) (m : Message) : Router :=
  match takeFirst (fun w => w.criteria.suits m) r.waiters with
  | some (waiter, others) =>
    { r with waiters := others, slots := r.slots ++ [⟨waiter.id, m⟩] }
  | none => { r with backlog := r.backlog ++ [m] }

/-- Registers interest in a report. A message of the backlog that suits is handed over at once;
otherwise a closed router registers nobody. -/
def expect (r : Router) (criteria : ReportMatch) : Waiter × Router :=
  let waiter : Waiter := ⟨r.nextWaiterId, criteria⟩
  let r := { r with nextWaiterId := r.nextWaiterId + 1 }
  match takeFirst criteria.suits r.backlog with
  | some (m, others) =>
    (waiter, { r with backlog := others, slots := r.slots ++ [⟨waiter.id, m⟩] })
  | none =>
    if r.closed.isSome then (waiter, r)
    else (waiter, { r with waiters := r.waiters ++ [waiter] })

/-- Withdraws a waiter, together with a message it holds unread. -/
def withdraw (r : Router) (waiter : Waiter) : Router :=
  { r with
    waiters := r.waiters.filter (·.id ≠ waiter.id)
    slots := r.slots.filter (·.waiterId ≠ waiter.id) }

/-- The message a waiter holds unread. -/
def held? (r : Router) (waiter : Waiter) : Option Message :=
  (r.slots.find? (·.waiterId == waiter.id)).map Slot.message

def isWaiting (r : Router) (waiter : Waiter) : Bool := r.waiters.any (·.id == waiter.id)

def closeReason (r : Router) : SessionFault := r.closed.getD .disconnected

/-- Whether a wait has come to its end before its time is up. -/
def isSettled (r : Router) (waiter : Waiter) : Bool :=
  (r.held? waiter).isSome || !r.isWaiting waiter

/-- Ends a wait: with the message handed over, with the reason the router was closed for, or, if
neither has happened in `timeout`, in vain. -/
def finishWait (r : Router) (waiter : Waiter) (timeout : Duration) :
    Except SessionFault Message × Router :=
  let answer :=
    match r.held? waiter with
    | some m => .ok m
    | none =>
      if r.isWaiting waiter then .error (.ackTimeout waiter.criteria.clOrdId timeout.millis64)
      else .error r.closeReason
  (answer, r.withdraw waiter)

/-- Takes the next queued message; `none` means it has to be waited for. -/
def next (r : Router) : Option (Except SessionFault Message) × Router :=
  match r.backlog with
  | m :: rest => (some (.ok m), { r with backlog := rest })
  | [] => (r.closed.map .error, r)

/-- Ends the hopes of everybody who still waits. -/
def close (r : Router) (reason : SessionFault) : Router :=
  { r with closed := r.closed.or (some reason), waiters := [] }

end Router

end FixBench
