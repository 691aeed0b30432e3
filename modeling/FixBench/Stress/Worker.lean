import FixBench.Protocol.Message
import FixBench.Stress.Report

/-!
# Counting in a worker

A worker attempts to send a message after the other, and meanwhile hears of reports: of those nobody
waited for, and of the ends of the waits for sampled messages. Every successful sampled send starts
one wait; every wait ends in at most one event. When the worker gives up, the waits still under way
count as errors.
-/
namespace FixBench.Stress

/-- How a report answers a new order. -/
inductive ReportKind where
  | ack
  | reject
  | other
  deriving DecidableEq, Repr

/-- What a message says about a new order; only execution reports say anything. -/
def ReportKind.of? (m : Message) : Option ReportKind :=
  if m.hasType .executionReport then
    match m.value? (.code ExecType) Tag.execType with
    | some .new => some .ack
    | some .rejected => some .reject
    | _ => some .other
  else none

inductive WorkerEvent where
  /-- A report nobody waited for. -/
  | report (kind : ReportKind)
  /-- A wait ended with a report. -/
  | sampled (kind : ReportKind) (latency : Duration)
  /-- A wait ended without one. -/
  | sampleFailed
  deriving DecidableEq, Repr

/-- What became of one attempt to send. -/
inductive Attempt where
  | notBuilt
  | sendFailed
  | sent (sampled : Bool)
  deriving DecidableEq, Repr

structure Progress where
  result : WorkerResult
  samplesInFlight : Nat
  deriving DecidableEq, Repr

namespace Progress

def start (worker : Nat) : Progress := ⟨.fresh worker, 0⟩

def addError (p : Progress) (count : Nat) : Progress :=
  { p with result := { p.result with errors := p.result.errors + count } }

def attempt (p : Progress) : Attempt → Progress
  | .notBuilt | .sendFailed => p.addError 1
  | .sent sampled =>
    { result := { p.result with sent := p.result.sent + 1 }
      samplesInFlight := p.samplesInFlight + (if sampled then 1 else 0) }

def tally (r : WorkerResult) : ReportKind → WorkerResult
  | .ack => { r with acks := r.acks + 1 }
  | .reject => { r with rejects := r.rejects + 1 }
  | .other => r

def apply (p : Progress) : WorkerEvent → Progress
  | .report kind => { p with result := tally p.result kind }
  | .sampled kind latency =>
    let result := tally p.result kind
    { result := if kind = .ack then result.recordLatency latency else result
      samplesInFlight := p.samplesInFlight - 1 }
  | .sampleFailed => { p with samplesInFlight := p.samplesInFlight - 1 }.addError 1

/-- Every message has been answered and every wait has ended. -/
def isSettled (p : Progress) : Bool := p.samplesInFlight == 0 && p.result.unanswered == 0

/-- Gives up on the waits still under way. -/
def giveUp (p : Progress) : Progress := p.addError p.samplesInFlight

end Progress

/-- One thing that a worker counts. -/
inductive WorkerStep where
  | attempt (a : Attempt)
  | event (e : WorkerEvent)
  deriving DecidableEq, Repr

end FixBench.Stress
