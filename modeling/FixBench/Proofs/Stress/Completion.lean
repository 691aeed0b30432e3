import FixBench.Stress.Run
import FixBench.Proofs.Stress.Ledger

/-!
# Workers that run to their end

A worker against an acceptor does nothing to its counters but tell its loop what happens. So what it ends
with is what some run of the loop ends with (`runWorker_is_a_finished_run`). That run has finished, and it
has attempted every message there is to send unless the worker was cancelled.

While a worker waits, its loop is told nothing but news (`Informs`), and news never turns the loop to
anything else. So only the few events that do turn it have to be followed.
-/
namespace FixBench.Stress

/-- Somebody else writes into the channel, or the loop hears what is there. -/
def LoopEvent.isNews : LoopEvent → Bool
  | report _ | waitEnds _ | hear => true
  | _ => false

/-! ### From one loop to another -/

namespace SendLoop

variable {s t u : SendLoop} {config : Config}

theorem run_append (s : SendLoop) (config : Config) (first second : List LoopEvent) :
    s.run config (first ++ second) = (s.run config first).run config second := by
  simp [run]

/-- One loop comes after another if something leads from the one to the other. -/
def Leads (config : Config) (s t : SendLoop) : Prop := ∃ events, t = s.run config events

theorem Leads.refl : Leads config s s := ⟨[], rfl⟩

theorem Leads.trans (first : Leads config s t) (second : Leads config t u) : Leads config s u := by
  obtain ⟨before, rfl⟩ := first
  obtain ⟨after, rfl⟩ := second
  exact ⟨before ++ after, (run_append s config before after).symm⟩

theorem Leads.step (event : LoopEvent) : Leads config s (s.step config event) := ⟨[event], rfl⟩

/-- News leads from one loop to the other. The loop may count it, but does not turn to anything else, and
news of a message is not a message sent. -/
structure Informs (config : Config) (s t : SendLoop) : Prop where
  leads : Leads config s t
  stage : t.stage = s.stage
  attempts : t.attempts = s.attempts
  sent : t.progress.result.sent = s.progress.result.sent
  cancelled : t.cancelled = s.cancelled

theorem Informs.refl : Informs config s s := ⟨.refl, rfl, rfl, rfl, rfl⟩

theorem Informs.trans (first : Informs config s t) (second : Informs config t u) :
    Informs config s u where
  leads := first.leads.trans second.leads
  stage := second.stage.trans first.stage
  attempts := second.attempts.trans first.attempts
  sent := second.sent.trans first.sent
  cancelled := second.cancelled.trans first.cancelled

theorem Informs.step (event : LoopEvent) (news : event.isNews) :
    Informs config s (s.step config event) := by
  constructor
  case leads => exact .step event
  case sent =>
    cases event with
    | report _ | waitEnds _ =>
      simp only [SendLoop.step]
      split <;> rfl
    | hear =>
      simp only [SendLoop.step]
      split
      · exact Progress.sent_apply ..
      · rfl
    | _ => cases news
  all_goals
    cases event with
    | report _ | waitEnds _ | hear =>
      simp only [SendLoop.step]
      split <;> rfl
    | _ => cases news

theorem lt_of_isSending (sending : s.isSending config = true) :
    s.attempts < config.messagesPerWorker := by
  simp only [isSending, Bool.and_eq_true, decide_eq_true_eq] at sending
  exact sending.2

theorem Informs.isSending (h : Informs config s t) : t.isSending config = s.isSending config := by
  simp only [SendLoop.isSending, h.stage, h.attempts, h.cancelled]

/-- The loop after an attempt at the message that has fallen due. -/
structure Attempted (config : Config) (s t : SendLoop) : Prop where
  leads : Leads config s t
  stage : t.stage = .pacing
  attempts : t.attempts = s.attempts + 1
  cancelled : t.cancelled = s.cancelled

theorem attempted_step (sending : s.isSending config = true) (outcome : SendOutcome) :
    Attempted config s ((s.step config .due).step config (.attempted outcome)) where
  leads := (Leads.step .due).trans (Leads.step (.attempted outcome))
  stage := by simp [SendLoop.step, sending]
  attempts := by simp [SendLoop.step, sending]
  cancelled := by simp [SendLoop.step, sending]

/-- The loop once there is nothing more to send. -/
structure SentAll (config : Config) (s t : SendLoop) : Prop where
  leads : Leads config s t
  stage : t.stage = .pacing
  cancelled : t.cancelled = s.cancelled
  within : t.attempts ≤ config.messagesPerWorker
  done : t.isSending config = false

theorem SentAll.attempts (h : SentAll config s t) (goesOn : s.cancelled = false) :
    t.attempts = config.messagesPerWorker := by
  have done := h.done
  have within := h.within
  have reached : config.messagesPerWorker ≤ t.attempts := by
    simpa [isSending, h.stage, h.cancelled, goesOn] using done
  omega

/-- The loop once there is nothing more to wait for. -/
structure Lingered (config : Config) (s t : SendLoop) : Prop where
  leads : Leads config s t
  stage : t.stage = .lingering
  attempts : t.attempts = s.attempts
  may : t.mayFinish = true

theorem Informs.thenLingered (h : Informs config s t) (rest : Lingered config t u) :
    Lingered config s u where
  leads := h.leads.trans rest.leads
  stage := rest.stage
  attempts := rest.attempts.trans h.attempts
  may := rest.may

theorem SentAll.step_leave (h : SentAll config s t) :
    t.step config .leave = { t with stage := .lingering } := by
  simp [SendLoop.step, h.stage, h.done]

theorem Lingered.step_finish (h : Lingered config s t) :
    t.step config .finish = { t with stage := .finished, progress := t.progress.giveUp } := by
  simp [SendLoop.step, h.stage, h.may]

end SendLoop

/-! ### What a worker tells its loop -/

namespace WorkerRun

open SendLoop

variable {σ : Type} (r : WorkerRun σ) (config : Config)

theorem finishSample_informs (wait : SampleWait) :
    Informs config r.loop (r.finishSample config wait).loop :=
  (Informs.step (.waitEnds _) rfl).trans (Informs.step .hear rfl)

theorem collectSamples_informs : Informs config r.loop (r.collectSamples config).loop := by
  have each (waits : List SampleWait) (q : WorkerRun σ) :
      Informs config q.loop (waits.foldl (fun r wait => r.finishSample config wait) q).loop := by
    induction waits generalizing q with
    | nil => exact .refl
    | cons wait rest ih => exact (q.finishSample_informs config wait).trans (ih _)
  exact each (r.waits.filter (r.isOver config.ackTimeout))
    { r with waits := r.waits.filter fun wait => !r.isOver config.ackTimeout wait }

theorem collectReports_informs (limit : Nat) :
    Informs config r.loop (r.collectReports config limit).loop := by
  induction limit generalizing r with
  | zero => exact .refl
  | succ limit ih =>
    unfold collectReports
    split
    · next m line received =>
      refine Informs.trans ?_ (ih _)
      split
      · exact (Informs.step (.report _) rfl).trans (Informs.step .hear rfl)
      · exact .refl
    · exact .refl

theorem collect_informs : Informs config r.loop (r.collect config).loop :=
  (r.collectSamples_informs config).trans (collectReports_informs _ config _)

theorem pace_informs (started : Duration) :
    Informs config r.loop (r.pace config started).loop := by
  unfold pace
  split
  · exact r.collect_informs config
  · next due _ =>
    exact collect_informs { r with line := r.line.waitUntil _ _ } config

/-- Whatever an attempt runs into, the loop is told what it came to. -/
theorem attempt_loop (worker : Nat) :
    ∃ outcome, (r.attempt config worker).loop = r.loop.step config (.attempted outcome) := by
  unfold attempt
  dsimp only
  split
  · exact ⟨.notBuilt, rfl⟩
  · split
    · exact ⟨.sendFailed, rfl⟩
    · exact ⟨.sent, rfl⟩

/-- All messages are attempted, one after the other, unless the worker is cancelled. -/
theorem sendAll_loop (worker : Nat) (started : Duration) (left : Nat)
    (pacing : r.loop.stage = .pacing) (within : r.loop.attempts ≤ config.messagesPerWorker)
    (enough : config.messagesPerWorker ≤ r.loop.attempts + left) :
    SentAll config r.loop (r.sendAll config worker started left).loop := by
  -- On the number of messages that may be left; each round makes one attempt, so it is enough.
  induction left generalizing r with
  | zero =>
    have all : ¬ r.loop.attempts < config.messagesPerWorker := Nat.not_lt.mpr enough
    exact ⟨.refl, pacing, rfl, within, by simp [sendAll, SendLoop.isSending, all]⟩
  | succ left ih =>
    unfold sendAll
    by_cases sending : r.loop.isSending config
    · simp only [sending]
      have paced := r.pace_informs config started
      obtain ⟨outcome, told⟩ :=
        ((r.pace config started).tell config .due).attempt_loop config worker
      have next : Attempted config (r.pace config started).loop
          (((r.pace config started).tell config .due).attempt config worker).loop := by
        rw [told]
        exact attempted_step (paced.isSending.trans sending) outcome
      have one := next.attempts.trans (congrArg (· + 1) paced.attempts)
      have fewer := lt_of_isSending sending
      have rest := ih _ next.stage (by omega) (by omega)
      exact {
        leads := (paced.leads.trans next.leads).trans rest.leads
        stage := rest.stage
        cancelled := rest.cancelled.trans (next.cancelled.trans paced.cancelled)
        within := rest.within
        done := rest.done }
    · simp only [sending]
      exact ⟨.refl, pacing, rfl, within, by simpa using sending⟩

/-- Lingering ends when nothing is owing any more or the grace period is over. -/
theorem linger_loop (millisLeft : Nat) (lingering : r.loop.stage = .lingering) :
    Lingered config r.loop (r.linger config millisLeft).loop := by
  -- On what is left of the grace period: either all is settled, or one millisecond passes.
  induction millisLeft generalizing r with
  | zero =>
    have heard := r.collect_informs config
    have stage := heard.stage.trans lingering
    have ended : (r.linger config 0).loop = { (r.collect config).loop with graceOver := true } := by
      simp [linger, tell, SendLoop.step, stage]
    constructor
    · exact heard.leads.trans (Leads.step .graceEnds)
    · rw [ended]
      exact stage
    · rw [ended]
      exact heard.attempts
    · simp [ended, SendLoop.mayFinish]
  | succ millisLeft ih =>
    have heard := r.collect_informs config
    have stage := heard.stage.trans lingering
    unfold linger
    by_cases settled : (r.collect config).loop.progress.isSettled
    · simp only [settled]
      exact ⟨heard.leads, stage, heard.attempts, by simp [SendLoop.mayFinish, settled]⟩
    · simp only [settled]
      let later := (r.collect config).line.waitUntil (fun _ => false) (.ofMillis 1)
      exact heard.thenLingered (ih { r.collect config with line := later } stage)

/-- A fresh loop, which may have been cancelled. -/
theorem start_loop (line : Loopback σ) (worker : Nat) (cancelled : Bool) :
    (start line config worker cancelled).loop = { SendLoop.start worker with cancelled } := by
  cases cancelled <;> rfl

theorem complete_loop (line : Loopback σ) (worker : Nat) (cancelled : Bool) :
    let last := ((start line config worker cancelled).complete config worker).loop
    Leads config (.start worker) last ∧ last.stage = .finished
      ∧ (cancelled = false → last.attempts = config.messagesPerWorker) := by
  let first := start line config worker cancelled
  have shape : first.loop = { SendLoop.start worker with cancelled } :=
    start_loop config line worker cancelled
  have toFirst : Leads config (.start worker) first.loop := by
    rw [shape]
    cases cancelled with
    | false => exact .refl
    | true => exact .step .cancel
  -- The three parts of a run: sending, leaving the loop, and waiting for what is still owing.
  let sent := first.sendAll config worker first.line.now.steady config.messagesPerWorker
  have sentAll : SentAll config first.loop sent.loop :=
    first.sendAll_loop config worker _ _ (by simp [shape, SendLoop.start])
      (by simp [shape, SendLoop.start]) (Nat.le_add_left _ _)
  have left : (sent.tell config .leave).loop = { sent.loop with stage := .lingering } :=
    sentAll.step_leave
  have lingered := (sent.tell config .leave).linger_loop config config.gracePeriodMillis
    (by rw [left])
  have ended := lingered.step_finish
  refine ⟨?_, ?_, ?_⟩
  · have toLeft := toFirst.trans (sentAll.leads.trans (.step .leave))
    exact (toLeft.trans lingered.leads).trans (.step .finish)
  · exact congrArg SendLoop.stage ended
  · intro goesOn
    calc ((start line config worker cancelled).complete config worker).loop.attempts
      _ = (sent.tell config .leave).loop.attempts :=
        (congrArg SendLoop.attempts ended).trans lingered.attempts
      _ = sent.loop.attempts := by rw [left]
      _ = config.messagesPerWorker := sentAll.attempts (by rw [shape, goesOn])

end WorkerRun

/-- What a worker that has logged on ends with, apart from the time it took, a run of its loop ends with.
The run has finished, and unless the worker was cancelled it has attempted every message. -/
theorem runWorker_is_a_finished_run {σ : Type} (config : Config) (site : Site σ) (state : σ)
    (worker : Nat) (now : Moment) {line : Loopback σ}
    (opened : openSession config site state worker now = .ok line) :
    ∃ events elapsed, let loop := (SendLoop.start worker).run config events
      loop.stage = .finished
      ∧ (site.cancelled = false → loop.attempts = config.messagesPerWorker)
      ∧ (runWorker config site state worker now).1 = { loop.progress.result with elapsed } := by
  obtain ⟨⟨events, reached⟩, finished, attempts⟩ :=
    WorkerRun.complete_loop config line worker site.cancelled
  rw [reached] at finished attempts
  simp only [runWorker, opened, reached]
  exact ⟨events, _, finished, attempts, rfl⟩

end FixBench.Stress
