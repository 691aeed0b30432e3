import FixBench.Stress.Config
import FixBench.Stress.Worker

/-!
# The loop of a worker

A worker paces itself, attempts its messages one after the other, and lingers in the end for what is
still owing. Only the loop counts. Everybody else writes into a channel, at any time and in any order:
the reports nobody waited for go there as they arrive, and so does the end of each wait for a sampled
message. The loop hears one event of the channel at a time, and not while it is attempting a message.

`SendLoop.step` is one thing that happens to a worker. What cannot happen at the moment, such as the end
of a wait when none is under way, changes nothing.
-/
namespace FixBench.Stress

/-- Where a worker is in its loop. -/
inductive LoopStage where
  /-- Waits until the next message is due. -/
  | pacing
  | attempting
  /-- Sends no more, and waits for the answers still owing. -/
  | lingering
  | finished
  deriving DecidableEq, Repr

/-- How an attempt to send a message ends. -/
inductive SendOutcome where
  | notBuilt
  | sendFailed
  | sent
  deriving DecidableEq, Repr

def SendOutcome.attempt (sampled : Bool) : SendOutcome → Attempt
  | notBuilt => .notBuilt
  | sendFailed => .sendFailed
  | sent => .sent sampled

/-- The event a wait ends in: with a report and the time it took, or without one. -/
def WorkerEvent.ofAnswer : Option (ReportKind × Duration) → WorkerEvent
  | some (kind, latency) => sampled kind latency
  | none => sampleFailed

/-- What may happen to a worker in its loop. -/
inductive LoopEvent where
  /-- A report nobody waited for arrives. -/
  | report (kind : ReportKind)
  | waitEnds (answer : Option (ReportKind × Duration))
  | cancel
  /-- The grace period is over. -/
  | graceEnds
  /-- The loop hears the oldest event of the channel. -/
  | hear
  /-- The next message is due. -/
  | due
  | attempted (outcome : SendOutcome)
  /-- The loop turns from sending to lingering. -/
  | leave
  | finish
  deriving DecidableEq, Repr

structure SendLoop where
  stage : LoopStage
  /-- How many messages have been attempted; also the number of the next one. -/
  attempts : Nat
  progress : Progress
  /-- Events not heard yet, the oldest first. -/
  channel : List WorkerEvent
  /-- Waits for sampled messages that have not ended. -/
  openWaits : Nat
  cancelled : Bool
  graceOver : Bool
  deriving DecidableEq, Repr

namespace SendLoop

def start (worker : Nat) : SendLoop where
  stage := .pacing
  attempts := 0
  progress := .start worker
  channel := []
  openWaits := 0
  cancelled := false
  graceOver := false

/-- Whether another message is to be sent once it is due. -/
def isSending (s : SendLoop) (config : Config) : Bool :=
  s.stage == .pacing && !s.cancelled && s.attempts < config.messagesPerWorker

/-- The loop listens while it has something to wait for. -/
def listens (s : SendLoop) (config : Config) : Bool :=
  match s.stage with
  | .pacing => s.isSending config
  | .lingering => !s.progress.isSettled
  | .attempting | .finished => false

/-- The event the loop hears next. -/
def next? (s : SendLoop) (config : Config) : Option WorkerEvent :=
  if s.listens config then s.channel.head? else none

/-- What the attempt under way comes to. -/
def attempt (s : SendLoop) (config : Config) (outcome : SendOutcome) : Attempt :=
  outcome.attempt (config.isSampled s.attempts)

/-- Nothing more is owing, or the time for it is over. -/
def mayFinish (s : SendLoop) : Bool := s.progress.isSettled || s.graceOver

def post (s : SendLoop) (event : WorkerEvent) : SendLoop :=
  { s with channel := s.channel ++ [event] }

/-- A message may fall due while there still are events in the channel: the loop looks there first, but
an event can arrive between the two looks. -/
def step (s : SendLoop) (config : Config) : LoopEvent → SendLoop
  | .report kind => if s.stage = .finished then s else s.post (.report kind)
  | .waitEnds answer =>
    if s.stage ≠ .finished ∧ 0 < s.openWaits then
      { s.post (.ofAnswer answer) with openWaits := s.openWaits - 1 }
    else s
  | .cancel => { s with cancelled := true }
  | .graceEnds => if s.stage = .lingering then { s with graceOver := true } else s
  | .hear =>
    match s.next? config with
    | some event => { s with progress := s.progress.apply event, channel := s.channel.tail }
    | none => s
  | .due => if s.isSending config then { s with stage := .attempting } else s
  | .attempted outcome =>
    if s.stage = .attempting then
      { s with
        stage := .pacing
        attempts := s.attempts + 1
        progress := s.progress.attempt (s.attempt config outcome)
        openWaits := s.openWaits + (if s.attempt config outcome = .sent true then 1 else 0) }
    else s
  | .leave =>
    if s.stage = .pacing ∧ s.isSending config = false then { s with stage := .lingering } else s
  | .finish =>
    if s.stage = .lingering ∧ s.mayFinish then
      { s with stage := .finished, progress := s.progress.giveUp }
    else s

def run (s : SendLoop) (config : Config) (events : List LoopEvent) : SendLoop :=
  events.foldl (fun s event => s.step config event) s

/-- What the loop counts when something happens. -/
def counted? (s : SendLoop) (config : Config) : LoopEvent → Option WorkerStep
  | .hear => (s.next? config).map .event
  | .attempted outcome =>
    if s.stage = .attempting then some (.attempt (s.attempt config outcome)) else none
  | _ => none

/-- All that the loop counts in a run, in order. -/
def ledger (s : SendLoop) (config : Config) : List LoopEvent → List WorkerStep
  | [] => []
  | event :: rest => (s.counted? config event).toList ++ (s.step config event).ledger config rest

end SendLoop

end FixBench.Stress
