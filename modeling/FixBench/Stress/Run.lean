import FixBench.Link.Loopback
import FixBench.Stress.SendLoop

/-!
# Running workers

A worker opens a session, sends its orders at their times, and then waits for the answers still
owing, for the grace period at most. A worker that cannot log on does nothing else. Here every
worker runs against an acceptor on the other end of a loopback; the application behind the acceptors
is one for all of them. The loop is told what happens as it happens, and hears it at once.

A paced worker sends message number `i` no earlier than `i / rate` seconds after it started. A rate
that is zero, negative or no number means no pacing. A time too far off is put at thirty years.
-/
namespace FixBench.Stress

/-! ### Pacing -/

/-- Thirty years without leap days. -/
def never : Duration := .ofSeconds (86400 * 365 * 30)

def offset (seconds : Float) : Duration :=
  match Duration.ofFloat seconds with
  | .ok d => if d ≤ never then d else never
  | .error _ => never

/-- When a message is due, counted from the start; `none` for at once. -/
def deadline (rate : Float) (index : Nat) : Option Duration :=
  if Binary64.isFinite rate && 0.0 < rate then some (offset (Binary64.ofNat index / rate))
  else none

/-! ### Sites and runs -/

/-- Where workers find an exchange. -/
structure Site (σ : Type) where
  network : Network
  acceptor : AcceptorConfig
  application : Application σ
  /-- The stop signal has been given before the run. -/
  cancelled : Bool

/-- A wait for the answer to a sampled message. -/
structure SampleWait where
  waiter : Waiter
  sentAt : Duration

structure WorkerRun (σ : Type) where
  line : Loopback σ
  loop : SendLoop
  waits : List SampleWait

namespace WorkerRun

variable {σ : Type}

def tell (r : WorkerRun σ) (config : Config) (event : LoopEvent) : WorkerRun σ :=
  { r with loop := r.loop.step config event }

/-- What a wait ends with once its answer is there, or its time is up. -/
def finishSample (r : WorkerRun σ) (config : Config) (wait : SampleWait) : WorkerRun σ :=
  let (reply, line) := r.line.act fun c => c.finishWait wait.waiter config.ackTimeout
  let answer :=
    match reply with
    | .error _ => none
    | .ok m => (ReportKind.of? m).map fun kind => (kind, line.now.steady.since wait.sentAt)
  (({ r with line }).tell config (.waitEnds answer)).tell config .hear

def isOver (r : WorkerRun σ) (timeout : Duration) (wait : SampleWait) : Bool :=
  r.line.client.isSettled wait.waiter || timeout ≤ r.line.now.steady.since wait.sentAt

/-- Ends every wait that is over. -/
def collectSamples (r : WorkerRun σ) (config : Config) : WorkerRun σ :=
  let finished := r.waits.filter (r.isOver config.ackTimeout)
  let r := { r with waits := r.waits.filter fun wait => !r.isOver config.ackTimeout wait }
  finished.foldl (fun r wait => r.finishSample config wait) r

/-- Turns the messages nobody waits for into events, up to a number of them. -/
def collectReports (r : WorkerRun σ) (config : Config) : (limit : Nat) → WorkerRun σ
  | 0 => r
  | limit + 1 =>
    match r.line.act Client.receive with
    | (some (.ok m), line) =>
      let r := { r with line }
      let r :=
        match ReportKind.of? m with
        | some kind => (r.tell config (.report kind)).tell config .hear
        | none => r
      r.collectReports config limit
    | _ => r

def collect (r : WorkerRun σ) (config : Config) : WorkerRun σ :=
  (r.collectSamples config).collectReports config r.line.client.inbox.router.backlog.length

/-- Attempts to send the next message. -/
def attempt (r : WorkerRun σ) (config : Config) (worker : Nat) : WorkerRun σ :=
  let index := r.loop.attempts
  let clOrdId := config.clOrdId worker index (Numeral.padded 8 (index % Nat.pow 10 8))
  match config.newOrder r.line.client.version clOrdId with
  | .error _ => r.tell config (.attempted .notBuilt)
  | .ok m =>
    let sampled := config.isSampled index
    let (waiter, line) := r.line.act fun c => c.expect ⟨clOrdId, none⟩
    let expecting := if sampled then line else r.line
    match expecting.send m with
    | (.error _, line) =>
      let (_, line) := line.act fun c => ((), { c with
        inbox := { c.inbox with router := c.inbox.router.withdraw waiter } })
      ({ r with line }).tell config (.attempted .sendFailed)
    | (.ok _, line) =>
      let waits := if sampled then r.waits ++ [⟨waiter, line.now.steady⟩] else r.waits
      ({ r with line, waits }).tell config (.attempted .sent)

/-- Waits until the next message is due. -/
def pace (r : WorkerRun σ) (config : Config) (started : Duration) : WorkerRun σ :=
  match deadline config.ratePerWorker r.loop.attempts with
  | none => r.collect config
  | some due =>
    let left := (started + due).since r.line.now.steady
    { r with line := r.line.waitUntil (fun _ => false) left }.collect config

/-- Sends message after message, up to a number of them. -/
def sendAll (r : WorkerRun σ) (config : Config) (worker : Nat) (started : Duration) :
    (left : Nat) → WorkerRun σ
  | 0 => r
  | left + 1 =>
    if r.loop.isSending config then
      (((r.pace config started).tell config .due).attempt config worker).sendAll config worker
        started left
    else r

/-- Waits for what is still owing until the grace period is over; looks as often as a millisecond
apart. -/
def linger (r : WorkerRun σ) (config : Config) : (millisLeft : Nat) → WorkerRun σ
  | 0 => (r.collect config).tell config .graceEnds
  | millisLeft + 1 =>
    let r := r.collect config
    if r.loop.progress.isSettled then r
    else
      { r with line := r.line.waitUntil (fun _ => false) (.ofMillis 1) }.linger config millisLeft

/-- A worker with a fresh session; it may have been told to stop before. -/
def start (line : Loopback σ) (config : Config) (worker : Nat) (cancelled : Bool) : WorkerRun σ :=
  let r : WorkerRun σ := ⟨line, .start worker, []⟩
  if cancelled then r.tell config .cancel else r

/-- From a fresh session to the end of the loop. -/
def complete (r : WorkerRun σ) (config : Config) (worker : Nat) : WorkerRun σ :=
  let r := r.sendAll config worker r.line.now.steady config.messagesPerWorker
  ((r.tell config .leave).linger config config.gracePeriodMillis).tell config .finish

end WorkerRun

/-- Logs a worker on. -/
def openSession {σ : Type} (config : Config) (site : Site σ) (state : σ) (worker : Nat)
    (now : Moment) : Except Failure (Loopback σ) := do
  let session ← (config.sessionConfig worker).mapError Failure.config
  Loopback.logOn site.network session site.acceptor site.application state worker now
    config.logonTimeout

/-- Runs one worker to its end, and gives its result with the application's state after it. -/
def runWorker {σ : Type} (config : Config) (site : Site σ) (state : σ) (worker : Nat)
    (now : Moment) : WorkerResult × σ :=
  match openSession config site state worker now with
  | .error _ => ({ WorkerResult.fresh worker with logonFailed := true }, state)
  | .ok line =>
    let run := (WorkerRun.start line config worker site.cancelled).complete config worker
    let elapsed := run.line.now.steady.since line.now.steady
    let line := if site.cancelled then run.line.disconnect else run.line.logout.2
    ({ run.loop.progress.result with elapsed }, Loopback.state line)

/-- Runs the workers of a configuration that has been validated. -/
def runWorkers {σ : Type} (config : Config) (site : Site σ) (state : σ) (now : Moment) :
    Report :=
  let (results, _) := (List.range config.workers).foldl
    (fun (results, state) worker =>
      let (result, state) := runWorker config site state worker now
      (results ++ [result], state))
    ([], state)
  let elapsed := (results.map fun r => r.elapsed.nanos).foldl max 0
  Report.aggregate config results ⟨elapsed⟩

/-- Runs a configuration, unless it is no good. -/
def run {σ : Type} (config : Config) (site : Site σ) (state : σ) (now : Moment) :
    Except ConfigFault Report := do
  config.validate
  return runWorkers config site state now

end FixBench.Stress
