import FixBench.Stress.SendLoop

/-!
# What a worker's counters say

Every counter of a worker is a count over what its loop has attempted and heard
(`counters_account_for_every_send`). That the counter of samples in flight never goes below zero is not a
matter of the loop alone: it holds because every wait ends in one event. So the balance that a step keeps
(`Balanced`) covers the waits under way and the events in the channel as well: a sample in flight is either
still waited for, or its end has not been heard.

`Move` says all that a step can do to this balance.
-/
namespace FixBench.Stress

namespace WorkerEvent

/-- The event is the end of a wait. -/
def endsWait : WorkerEvent → Bool
  | report _ => false
  | sampled _ _ | sampleFailed => true

/-- The event carries a report of this kind. -/
def brings (kind : ReportKind) : WorkerEvent → Bool
  | report found | sampled found _ => found == kind
  | sampleFailed => false

/-- How long a sampled message took that has been acknowledged. -/
def ackLatency? : WorkerEvent → Option Duration
  | sampled .ack latency => some latency
  | _ => none

@[simp] theorem ackLatency?_report (kind : ReportKind) : (report kind).ackLatency? = none := rfl

@[simp] theorem ackLatency?_sampleFailed : sampleFailed.ackLatency? = none := rfl

@[simp] theorem endsWait_ofAnswer (answer : Option (ReportKind × Duration)) :
    (ofAnswer answer).endsWait = true := by
  cases answer <;> rfl

end WorkerEvent

/-! ### Attempts and events of a ledger -/

namespace WorkerStep

def attempt? : WorkerStep → Option Attempt
  | attempt a => some a
  | event _ => none

def event? : WorkerStep → Option WorkerEvent
  | attempt _ => none
  | event e => some e

end WorkerStep

def attemptsIn (ledger : List WorkerStep) : List Attempt := ledger.filterMap WorkerStep.attempt?

def eventsIn (ledger : List WorkerStep) : List WorkerEvent := ledger.filterMap WorkerStep.event?

section
variable (ledger : List WorkerStep) (a : Attempt) (event : WorkerEvent)

@[simp] theorem attemptsIn_attempt :
    attemptsIn (ledger ++ [.attempt a]) = attemptsIn ledger ++ [a] := by
  simp [attemptsIn, WorkerStep.attempt?]

@[simp] theorem eventsIn_attempt : eventsIn (ledger ++ [.attempt a]) = eventsIn ledger := by
  simp [eventsIn, WorkerStep.event?]

@[simp] theorem attemptsIn_event : attemptsIn (ledger ++ [.event event]) = attemptsIn ledger := by
  simp [attemptsIn, WorkerStep.attempt?]

@[simp] theorem eventsIn_event :
    eventsIn (ledger ++ [.event event]) = eventsIn ledger ++ [event] := by
  simp [eventsIn, WorkerStep.event?]

end

/-! ### Counters -/

namespace Progress
variable (r : WorkerResult) (kind : ReportKind)

@[simp] theorem sent_tally : (tally r kind).sent = r.sent := by cases kind <;> rfl

@[simp] theorem errors_tally : (tally r kind).errors = r.errors := by cases kind <;> rfl

@[simp] theorem latency_tally : (tally r kind).latency = r.latency := by cases kind <;> rfl

theorem acks_tally :
    (tally r kind).acks = r.acks + if kind == .ack then 1 else 0 := by
  cases kind <;> rfl

theorem rejects_tally :
    (tally r kind).rejects = r.rejects + if kind == .reject then 1 else 0 := by
  cases kind <;> rfl

theorem sent_apply (p : Progress) (event : WorkerEvent) :
    (p.apply event).result.sent = p.result.sent := by
  cases event with
  | report => exact sent_tally ..
  | sampled kind => cases kind <;> rfl
  | sampleFailed => rfl

theorem samplesInFlight_apply (p : Progress) (event : WorkerEvent) :
    (p.apply event).samplesInFlight = p.samplesInFlight - if event.endsWait then 1 else 0 := by
  cases event <;> rfl

theorem samplesInFlight_attempt (p : Progress) (a : Attempt) :
    (p.attempt a).samplesInFlight = p.samplesInFlight + if a = .sent true then 1 else 0 := by
  rcases a with _ | _ | sampled
  · rfl
  · rfl
  · cases sampled <;> rfl

end Progress

/-- The counters of a worker against what it has attempted and heard; so many samples have been given
up. -/
structure Tallied (p : Progress) (abandoned : Nat) (made : List Attempt)
    (heard : List WorkerEvent) : Prop where
  inFlight : p.samplesInFlight + heard.countP WorkerEvent.endsWait = made.count (.sent true)
  sent : p.result.sent + made.count .notBuilt + made.count .sendFailed = made.length
  acks : p.result.acks = heard.countP (WorkerEvent.brings .ack)
  rejects : p.result.rejects = heard.countP (WorkerEvent.brings .reject)
  latency : p.result.latency.recorded =
    (heard.filterMap WorkerEvent.ackLatency?).map fun latency => Histogram.clamp latency.micros
  errors : p.result.errors =
    made.count .notBuilt + made.count .sendFailed + heard.count .sampleFailed + abandoned

namespace Tallied

variable {p : Progress} {made : List Attempt} {heard : List WorkerEvent}

theorem start (worker : Nat) : Tallied (.start worker) 0 [] [] := by
  constructor <;> rfl

/-- An attempt is counted once, as what it came to. -/
theorem attempt (h : Tallied p 0 made heard) (a : Attempt) :
    Tallied (p.attempt a) 0 (made ++ [a]) heard := by
  obtain ⟨inFlight, sent, acks, rejects, latency, errors⟩ := h
  cases a with
  | notBuilt | sendFailed =>
    constructor <;> simp [Progress.attempt, Progress.addError] <;> omega
  | sent sampled =>
    constructor
    -- A send that is sampled puts one more in flight, one that is not leaves them alone.
    case inFlight => cases sampled <;> simp [Progress.attempt] <;> omega
    case sent => simp [Progress.attempt]; omega
    case errors => simpa [Progress.attempt] using errors
    all_goals simpa [Progress.attempt]

/-- An event is counted once. The end of a wait takes a sample out of flight, so there has to be one. -/
theorem hear (h : Tallied p 0 made heard) (event : WorkerEvent)
    (owed : event.endsWait → 0 < p.samplesInFlight) :
    Tallied (p.apply event) 0 made (heard ++ [event]) := by
  obtain ⟨inFlight, sent, acks, rejects, latency, errors⟩ := h
  cases event with
  | report kind =>
    constructor
    case acks =>
      simp [Progress.apply, Progress.acks_tally, WorkerEvent.brings, List.countP_cons, acks]
    case rejects =>
      simp [Progress.apply, Progress.rejects_tally, WorkerEvent.brings, List.countP_cons, rejects]
    all_goals simpa [Progress.apply, WorkerEvent.endsWait, List.filterMap_cons]
  | sampled kind took =>
    have flying := owed rfl
    constructor
    case inFlight => simp [Progress.apply, WorkerEvent.endsWait]; omega
    -- Only an acknowledgement is timed, so the kinds of report are taken one by one.
    all_goals
      cases kind
      all_goals
        simp [Progress.apply, Progress.tally, WorkerResult.recordLatency, Histogram.record,
          WorkerEvent.brings, WorkerEvent.ackLatency?, *]
  | sampleFailed =>
    have flying := owed rfl
    constructor
    case inFlight => simp [Progress.apply, Progress.addError, WorkerEvent.endsWait]; omega
    case errors => simp [Progress.apply, Progress.addError]; omega
    all_goals
      simpa [Progress.apply, Progress.addError, WorkerEvent.brings, List.filterMap_cons]

/-- What is given up counts as so many errors. -/
theorem giveUp (h : Tallied p 0 made heard) : Tallied p.giveUp p.samplesInFlight made heard :=
  { h with errors := by simp [Progress.giveUp, Progress.addError, h.errors] }

end Tallied

/-! ### What a step does -/

namespace SendLoop

/-- All that a step can do: what it counts, and the loop after it. -/
inductive Move (s : SendLoop) (config : Config) : Option WorkerStep → SendLoop → Prop
  /-- The loop turns to something else, or takes note that it is to stop. -/
  | turned (stage : LoopStage) (cancelled graceOver : Bool)
      (goesOn : stage = .finished ↔ s.stage = .finished) :
      Move s config none { s with stage, cancelled, graceOver }
  | posted (kind : ReportKind) (running : s.stage ≠ .finished) :
      Move s config none (s.post (.report kind))
  | ended (answer : Option (ReportKind × Duration)) (running : s.stage ≠ .finished)
      (waiting : 0 < s.openWaits) :
      Move s config none { s.post (.ofAnswer answer) with openWaits := s.openWaits - 1 }
  | heard (event : WorkerEvent) (rest : List WorkerEvent) (running : s.stage ≠ .finished)
      (oldest : s.channel = event :: rest) :
      Move s config (some (.event event))
        { s with progress := s.progress.apply event, channel := rest }
  | attempted (outcome : SendOutcome) (attempting : s.stage = .attempting) :
      Move s config (some (.attempt (s.attempt config outcome)))
        { s with
          stage := .pacing
          attempts := s.attempts + 1
          progress := s.progress.attempt (s.attempt config outcome)
          openWaits := s.openWaits + (if s.attempt config outcome = .sent true then 1 else 0) }
  | finished (lingering : s.stage = .lingering) (may : s.mayFinish) :
      Move s config none { s with stage := .finished, progress := s.progress.giveUp }

variable {s : SendLoop} {config : Config}

theorem Move.unchanged : Move s config none s := .turned s.stage s.cancelled s.graceOver Iff.rfl

/-- The loop hears only the oldest event of the channel, and none once it has finished. -/
theorem of_next? {event : WorkerEvent} (found : s.next? config = some event) :
    s.stage ≠ .finished ∧ ∃ rest, s.channel = event :: rest := by
  unfold next? at found
  split at found
  · next listens =>
    obtain ⟨rest, shape⟩ := List.head?_eq_some_iff.mp found
    constructor
    · intro finished
      simp [SendLoop.listens, finished] at listens
    · exact ⟨rest, shape⟩
  · cases found

theorem stage_of_isSending (sending : s.isSending config = true) : s.stage = .pacing := by
  simp only [isSending, Bool.and_eq_true, beq_iff_eq] at sending
  exact sending.1.1

theorem step_move (s : SendLoop) (config : Config) (event : LoopEvent) :
    Move s config (s.counted? config event) (s.step config event) := by
  cases event with
  | report kind =>
    simp only [counted?, step]
    split
    · exact .unchanged
    · next running => exact .posted kind running
  | waitEnds answer =>
    simp only [counted?, step]
    split
    · next enabled => exact .ended answer enabled.1 enabled.2
    · exact .unchanged
  | cancel => exact .turned s.stage true s.graceOver Iff.rfl
  | graceEnds =>
    simp only [counted?, step]
    split
    · exact .turned s.stage s.cancelled true Iff.rfl
    · exact .unchanged
  | hear =>
    simp only [counted?, step]
    cases found : s.next? config with
    | none => exact .unchanged
    | some event =>
      obtain ⟨running, rest, shape⟩ := of_next? found
      simpa [shape] using Move.heard event rest running shape
  | due =>
    simp only [counted?, step]
    split
    · next sending =>
      exact .turned .attempting s.cancelled s.graceOver (by simp [stage_of_isSending sending])
    · exact .unchanged
  | attempted outcome =>
    by_cases attempting : s.stage = .attempting
    · simpa [counted?, step, attempting] using Move.attempted outcome attempting
    · simpa [counted?, step, attempting] using Move.unchanged
  | leave =>
    simp only [counted?, step]
    split
    · next enabled =>
      exact .turned .lingering s.cancelled s.graceOver (by simp [enabled.1])
    · exact .unchanged
  | finish =>
    simp only [counted?, step]
    split
    · next enabled => exact .finished enabled.1 enabled.2
    · exact .unchanged

/-! ### The balance -/

/-- The samples that have been given up. -/
def abandoned (s : SendLoop) : Nat :=
  if s.stage = .finished then s.progress.samplesInFlight else 0

theorem abandoned_eq_zero (running : s.stage ≠ .finished) : s.abandoned = 0 := if_neg running

/-- The counters agree with the ledger, and a sample in flight is either waited for or its end has not
been heard. -/
structure Balanced (s : SendLoop) (ledger : List WorkerStep) : Prop where
  tallied : Tallied s.progress s.abandoned (attemptsIn ledger) (eventsIn ledger)
  owing : s.progress.samplesInFlight = s.openWaits + s.channel.countP WorkerEvent.endsWait
  attempts : s.attempts = (attemptsIn ledger).length

namespace Balanced

variable {ledger : List WorkerStep}

theorem start (worker : Nat) : Balanced (.start worker) [] where
  tallied := Tallied.start worker
  owing := rfl
  attempts := rfl

/-- The subtraction that the end of a wait causes is from a number above zero. -/
theorem owed (h : Balanced s ledger) {event : WorkerEvent} {rest : List WorkerEvent}
    (oldest : s.channel = event :: rest) (ends : event.endsWait) : 0 < s.progress.samplesInFlight := by
  have owing := h.owing
  rw [oldest, List.countP_cons_of_pos ends] at owing
  omega

theorem move (h : Balanced s ledger) {counted : Option WorkerStep} {t : SendLoop}
    (move : Move s config counted t) : Balanced t (ledger ++ counted.toList) := by
  have ⟨tallied, owing, attempts⟩ := h
  cases move with
  | turned stage cancelled graceOver goesOn =>
    -- Samples are given up only by finishing, and that is not a turn.
    have same : ({ s with stage, cancelled, graceOver } : SendLoop).abandoned = s.abandoned := by
      simp [abandoned, goesOn]
    constructor
    · simpa [same] using tallied
    · exact owing
    · simpa using attempts
  | posted kind running =>
    rw [abandoned_eq_zero running] at tallied
    constructor
    · rw [abandoned_eq_zero (s := s.post _) running]
      simpa [post] using tallied
    · simpa [post, WorkerEvent.endsWait] using owing
    · simpa [post] using attempts
  | ended answer running waiting =>
    rw [abandoned_eq_zero running] at tallied
    constructor
    · rw [abandoned_eq_zero (by exact running)]
      simpa [post] using tallied
    · -- The wait is over, but the sample stays in flight until the end of it is heard.
      simp [post]
      omega
    · simpa [post] using attempts
  | heard event rest running oldest =>
    -- An end leaves the channel and the samples in flight together.
    rw [abandoned_eq_zero running] at tallied
    constructor
    · rw [abandoned_eq_zero (by exact running)]
      simpa using tallied.hear event (h.owed oldest)
    · rw [oldest, List.countP_cons] at owing
      simp only [Progress.samplesInFlight_apply]
      omega
    · simpa using attempts
  | attempted outcome attempting =>
    -- A sampled send starts its wait as it goes in flight.
    rw [abandoned_eq_zero (by simp [attempting])] at tallied
    constructor
    · rw [abandoned_eq_zero (by simp)]
      simpa using tallied.attempt (s.attempt config outcome)
    · simp only [Progress.samplesInFlight_attempt]
      omega
    · simpa using attempts
  | finished lingering may =>
    rw [abandoned_eq_zero (by simp [lingering])] at tallied
    constructor
    · simpa [abandoned, Progress.giveUp, Progress.addError] using tallied.giveUp
    · exact owing
    · simpa using attempts

theorem run (h : Balanced s ledger) (config : Config) (events : List LoopEvent) :
    Balanced (s.run config events) (ledger ++ s.ledger config events) := by
  -- Whatever the ledger holds already, what happens next is written behind it.
  induction events generalizing s ledger with
  | nil => simpa [SendLoop.run, SendLoop.ledger] using h
  | cons event rest ih =>
    have moved := ih (h.move (s.step_move config event))
    simpa [SendLoop.run, SendLoop.ledger] using moved

end Balanced

/-- **The counters account for every send.** However sends, reports, ends of waits, cancelling and the end
of the grace period interleave: the samples in flight are the sampled sends whose end has not been heard,
and hearing an end never subtracts from none; every attempt is counted once, as sent or as an error; the
answers, and the latencies of acknowledged samples, are those heard; and the errors are the attempts that
failed, the waits that ended without a report, and what was in flight when the worker gave up. -/
theorem counters_account_for_every_send (config : Config) (worker : Nat)
    (events : List LoopEvent) :
    let loop := (start worker).run config events
    let made := attemptsIn ((start worker).ledger config events)
    let heard := eventsIn ((start worker).ledger config events)
    loop.progress.samplesInFlight + heard.countP WorkerEvent.endsWait = made.count (.sent true)
    ∧ (∀ event, loop.next? config = some event → event.endsWait →
        0 < loop.progress.samplesInFlight)
    ∧ loop.progress.result.sent + made.count .notBuilt + made.count .sendFailed = loop.attempts
    ∧ loop.progress.result.acks = heard.countP (WorkerEvent.brings .ack)
    ∧ loop.progress.result.rejects = heard.countP (WorkerEvent.brings .reject)
    ∧ loop.progress.result.latency.recorded =
        (heard.filterMap WorkerEvent.ackLatency?).map (fun latency => Histogram.clamp latency.micros)
    ∧ loop.progress.result.errors =
        made.count .notBuilt + made.count .sendFailed + heard.count .sampleFailed
          + (if loop.stage = .finished then loop.progress.samplesInFlight else 0) := by
  intro loop made heard
  have balanced : Balanced loop ((start worker).ledger config events) := by
    simpa using (Balanced.start worker).run config events
  obtain ⟨tallied, owing, attempts⟩ := balanced
  refine ⟨tallied.inFlight, ?_, ?_, tallied.acks, tallied.rejects, tallied.latency, tallied.errors⟩
  · intro event next ends
    obtain ⟨-, rest, oldest⟩ := of_next? next
    exact Balanced.owed ⟨tallied, owing, attempts⟩ oldest ends
  · rw [tallied.sent, attempts]

/-- Six attempts. The first is acknowledged after a millisecond, the second is rejected, the third gets no
answer in time, the fourth cannot be built, the last cannot be sent; and the fifth is still waited for
when the grace period ends. -/
def sixAttempts : List LoopEvent :=
  [.due, .attempted .sent, .due, .attempted .sent, .report .reject, .hear, .due, .attempted .sent,
    .waitEnds (some (.ack, .ofMillis 1)), .hear, .due, .attempted .notBuilt, .due, .attempted .sent,
    .waitEnds none, .hear, .due, .attempted .sendFailed, .cancel, .leave, .graceEnds, .finish]

/-- Every other attempt is sampled, and each counter comes to what has happened. -/
theorem counters_account_for_every_send_six :
    let loop := (start 0).run (Config.default.withLatencySampling 2) sixAttempts
    loop.stage = .finished ∧ loop.attempts = 6 ∧ loop.progress.samplesInFlight = 1 ∧
      loop.progress.result.sent = 4 ∧ loop.progress.result.acks = 1 ∧
      loop.progress.result.rejects = 1 ∧ loop.progress.result.latency.recorded = [1000] ∧
      loop.progress.result.errors = 4 := by
  intro loop
  have finished : loop.stage = .finished := by decide +kernel
  have attempts : loop.attempts = 6 := by decide +kernel
  have accounts := counters_account_for_every_send (Config.default.withLatencySampling 2) 0 sixAttempts
  extract_lets made heard at accounts
  have attempted : made =
      [.sent true, .sent false, .sent true, .notBuilt, .sent true, .sendFailed] := by decide +kernel
  have told : heard = [.report .reject, .sampled .ack (.ofMillis 1), .sampleFailed] := by
    decide +kernel
  rw [attempted, told, attempts, if_pos finished] at accounts
  obtain ⟨inFlight, -, sent, acks, rejects, latency, errors⟩ := accounts
  clear_value loop
  have flying : loop.progress.samplesInFlight + 2 = 3 := inFlight
  have delivered : loop.progress.result.sent + 1 + 1 = 6 := sent
  have wrong : loop.progress.result.errors = 1 + 1 + 1 + loop.progress.samplesInFlight := errors
  exact ⟨finished, attempts, by omega, by omega, acks, rejects, latency, by omega⟩

end SendLoop

end FixBench.Stress
