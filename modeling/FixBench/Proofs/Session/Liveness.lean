import Mathlib.Data.List.Chain
import FixBench.Session.Liveness

/-!
# What the verdicts on the other side rest on

A watch over the other side is told what is sent and what arrives, and is asked from time to time what
to do. Its log keeps everything that has happened since it was started, and the question is whether
each answer follows from the log alone (`poll_follows_log`): a test request goes out after two
intervals of silence and only if no other is open, the other side is given up one interval after a test
request that nothing has answered, and a heartbeat falls due one interval after the last send.

The watch itself remembers two times and one open test request. `Faithful` says that these are what the
log shows, and it is kept by every step as long as time does not run backwards. It also says that no
test request is younger than the last send: asking for a test request counts as sending one, so while a
test request is open the heartbeat it stands in for is never due before the other side is given up.
-/
namespace FixBench

namespace Duration

theorem le_iff (a b : Duration) : a ≤ b ↔ a.nanos ≤ b.nanos := Iff.rfl

theorem le_self (a : Duration) : a ≤ a := Nat.le_refl a.nanos

theorem le_trans {a b c : Duration} (first : a ≤ b) (second : b ≤ c) : a ≤ c :=
  Nat.le_trans (m := b.nanos) first second

theorem add_le_of_le {a b c wait : Duration} (order : a ≤ b) (late : b + wait ≤ c) : a + wait ≤ c :=
  Nat.le_trans (Nat.add_le_add_right order wait.nanos) late

theorem not_le_iff (a b : Duration) : ¬ a ≤ b ↔ b < a := Nat.not_le

/-- A wait is over when its end has been reached. -/
theorem le_since_iff {earlier now : Duration} (wait : Duration) (order : earlier ≤ now) :
    wait ≤ now.since earlier ↔ earlier + wait ≤ now := by
  show wait.nanos ≤ now.nanos - earlier.nanos ↔ earlier.nanos + wait.nanos ≤ now.nanos
  rw [le_iff] at order
  omega

end Duration

/-! ### Logs -/

/-- What a watch is told or asked. -/
inductive LivenessEvent where
  | sent
  | received (isHeartbeat : Bool) (testReqId : Option String)
  | poll
  deriving DecidableEq, Repr

/-- What has happened to a watch. -/
inductive LivenessNote where
  | started
  | sent
  | received (isHeartbeat : Bool) (testReqId : Option String)
  | polled (action : Option LivenessAction)
  deriving DecidableEq, Repr

namespace LivenessNote

/-- A test request counts as sent when it is asked for; a heartbeat does not. -/
def isSend : LivenessNote → Bool
  | started | sent | polled (some (.sendTestRequest _)) => true
  | _ => false

def isReceipt : LivenessNote → Bool
  | started | received .. => true
  | _ => false

/-- The heartbeat that answers the test request with this identifier. -/
def answers (id : String) : LivenessNote → Bool
  | received isHeartbeat answered => isHeartbeat && answered == some id
  | _ => false

theorem isSend_polled {action : Option LivenessAction}
    (other : ∀ id, action ≠ some (.sendTestRequest id)) : isSend (polled action) = false := by
  cases action with
  | none => rfl
  | some action =>
    cases action with
    | sendTestRequest id => exact absurd rfl (other id)
    | sendHeartbeat | timedOut => rfl

end LivenessNote

/-- Everything that has happened since the start of a watch, newest first. -/
abbrev LivenessLog := List (Moment × LivenessNote)

namespace LivenessLog

/-- When something of a kind happened last. -/
def latest (kind : LivenessNote → Bool) : LivenessLog → Option Duration
  | [] => none
  | (now, note) :: earlier => if kind note then some now.steady else latest kind earlier

/-- A test request was asked for at that time, and no heartbeat with its identifier has come since. -/
def Unanswered (id : String) (sentAt : Duration) (log : LivenessLog) : Prop :=
  ∃ later asked earlier, log = later ++ (asked, .polled (some (.sendTestRequest id))) :: earlier ∧
    asked.steady = sentAt ∧ ∀ entry ∈ later, entry.2.answers id = false

theorem not_unanswered_nil (id : String) (sentAt : Duration) : ¬ Unanswered id sentAt [] := by
  rintro ⟨later, asked, earlier, split, -⟩
  cases later <;> cases split

theorem unanswered_cons_iff (id : String) (sentAt : Duration) (now : Moment) (note : LivenessNote)
    (log : LivenessLog) :
    Unanswered id sentAt ((now, note) :: log) ↔
      (note = .polled (some (.sendTestRequest id)) ∧ now.steady = sentAt) ∨
        (note.answers id = false ∧ Unanswered id sentAt log) := by
  constructor
  · rintro ⟨later, asked, earlier, split, time, silent⟩
    cases later with
    | nil =>
      -- The newest entry is the test request itself.
      cases split
      exact Or.inl ⟨rfl, time⟩
    | cons first later =>
      cases split
      rw [List.forall_mem_cons] at silent
      exact Or.inr ⟨silent.1, later, asked, earlier, rfl, time, silent.2⟩
  · rintro (⟨rfl, time⟩ | ⟨silent, later, asked, earlier, rfl, time, rest⟩)
    · exact ⟨[], now, log, rfl, time, by simp⟩
    · exact ⟨(now, note) :: later, asked, earlier, rfl, time, List.forall_mem_cons.mpr ⟨silent, rest⟩⟩

end LivenessLog

/-! ### One answer -/

namespace Liveness

/-- A test request stays open unless a heartbeat with its identifier comes. -/
theorem pending_noteReceived_iff (l : Liveness) (now : Moment) (isHeartbeat : Bool)
    (testReqId : Option String) (test : PendingTest) :
    (l.noteReceived now isHeartbeat testReqId).pending = some test ↔
      l.pending = some test ∧ (isHeartbeat && testReqId == some test.id) = false := by
  unfold noteReceived answers
  cases pending : l.pending with
  | none => simp
  | some asked =>
    by_cases answered : (isHeartbeat && testReqId == some asked.id) = true
    · simp only [answered, if_true]
      constructor
      · rintro ⟨⟩
      · rintro ⟨⟨⟩, silent⟩
        rw [answered] at silent
        cases silent
    · rw [Bool.not_eq_true] at answered
      simp only [answered]
      constructor
      · rintro ⟨⟩
        exact ⟨rfl, answered⟩
      · exact fun open' => open'.1

theorem heartbeatDue_ne (l : Liveness) (now : Moment) (id : String) :
    l.heartbeatDue now ≠ some (.sendTestRequest id) := by
  unfold heartbeatDue
  split
  · rintro ⟨⟩
  · rintro ⟨⟩

theorem poll_of_pending {l : Liveness} {test : PendingTest} (asked : l.pending = some test)
    (now : Moment) :
    l.poll now =
      (if l.interval ≤ now.steady.since test.sentAt then
          some (.timedOut (now.steady.since l.lastReceived))
        else l.heartbeatDue now, l) := by
  simp only [poll, asked]
  split <;> rfl

theorem poll_of_idle {l : Liveness} (idle : l.pending = none) (now : Moment) :
    l.poll now =
      if l.interval.double ≤ now.steady.since l.lastReceived then
        (some (.sendTestRequest now.testReqId),
          { l with lastSent := now.steady, pending := some ⟨now.testReqId, now.steady⟩ })
      else (l.heartbeatDue now, l) := by
  simp only [poll, idle]

/-- A test request is named after the moment. -/
theorem testReqId_of_poll {l : Liveness} {now : Moment} {id : String}
    (asked : (l.poll now).1 = some (.sendTestRequest id)) : id = now.testReqId := by
  cases pending : l.pending with
  | some test =>
    rw [poll_of_pending pending] at asked
    dsimp only at asked
    split at asked
    · cases asked
    · exact absurd asked (l.heartbeatDue_ne now id)
  | none =>
    rw [poll_of_idle pending] at asked
    split at asked
    · cases asked
      rfl
    · exact absurd asked (l.heartbeatDue_ne now id)

end Liveness

/-! ### Watches -/

structure Watch where
  liveness : Liveness
  log : LivenessLog
  deriving DecidableEq, Repr

namespace Watch

def start (interval : Duration) (now : Moment) : Watch :=
  ⟨.start interval now, [(now, .started)]⟩

def step (w : Watch) (now : Moment) : LivenessEvent → Watch
  | .sent => ⟨w.liveness.noteSent now, (now, .sent) :: w.log⟩
  | .received isHeartbeat testReqId =>
    ⟨w.liveness.noteReceived now isHeartbeat testReqId,
      (now, .received isHeartbeat testReqId) :: w.log⟩
  | .poll =>
    let (action, liveness) := w.liveness.poll now
    ⟨liveness, (now, .polled action) :: w.log⟩

def run (w : Watch) : List (Moment × LivenessEvent) → Watch
  | [] => w
  | (now, event) :: rest => (w.step now event).run rest

/-- What the watch remembers is what its log shows, and nothing of it lies in the future. -/
structure Faithful (interval clock : Duration) (w : Watch) : Prop where
  interval : w.liveness.interval = interval
  received : w.log.latest LivenessNote.isReceipt = some w.liveness.lastReceived
  sent : w.log.latest LivenessNote.isSend = some w.liveness.lastSent
  pending : ∀ id sentAt, w.log.Unanswered id sentAt ↔ w.liveness.pending = some ⟨id, sentAt⟩
  received_le : w.liveness.lastReceived ≤ clock
  sent_le : w.liveness.lastSent ≤ clock
  /-- Something has been sent since a test request was, if only that. -/
  asked_le : ∀ test ∈ w.liveness.pending, test.sentAt ≤ w.liveness.lastSent

namespace Faithful

variable {interval clock : Duration} {w : Watch} {now : Moment}

theorem start (interval : Duration) (now : Moment) :
    (Watch.start interval now).Faithful interval now.steady where
  interval := rfl
  received := rfl
  sent := rfl
  pending id sentAt := by
    rw [Watch.start, LivenessLog.unanswered_cons_iff]
    simp [LivenessLog.not_unanswered_nil, Liveness.start]
  received_le := Duration.le_self _
  sent_le := Duration.le_self _
  asked_le := by rintro test ⟨⟩

theorem noteSent (faithful : w.Faithful interval clock) (forward : clock ≤ now.steady) :
    (w.step now .sent).Faithful interval now.steady where
  interval := faithful.interval
  received := faithful.received
  sent := rfl
  pending id sentAt := by
    rw [Watch.step, LivenessLog.unanswered_cons_iff, faithful.pending]
    simp [LivenessNote.answers, Liveness.noteSent]
  received_le := Duration.le_trans faithful.received_le forward
  sent_le := Duration.le_self _
  asked_le test asked :=
    Duration.le_trans (Duration.le_trans (faithful.asked_le test asked) faithful.sent_le) forward

theorem noteReceived (faithful : w.Faithful interval clock) (forward : clock ≤ now.steady)
    (isHeartbeat : Bool) (testReqId : Option String) :
    (w.step now (.received isHeartbeat testReqId)).Faithful interval now.steady where
  interval := faithful.interval
  received := rfl
  sent := faithful.sent
  pending id sentAt := by
    -- What closes the open test request is the heartbeat that answers it, and nothing else does.
    rw [Watch.step, LivenessLog.unanswered_cons_iff, faithful.pending,
      Liveness.pending_noteReceived_iff]
    simp [LivenessNote.answers, and_comm]
  received_le := Duration.le_self _
  sent_le := Duration.le_trans faithful.sent_le forward
  asked_le test asked := by
    exact faithful.asked_le test ((Liveness.pending_noteReceived_iff ..).mp asked).1

/-- An answer other than a test request leaves the watch as it was. -/
theorem polled (faithful : w.Faithful interval clock) (forward : clock ≤ now.steady)
    {action : Option LivenessAction} (other : ∀ id, action ≠ some (.sendTestRequest id)) :
    Faithful interval now.steady ⟨w.liveness, (now, .polled action) :: w.log⟩ where
  interval := faithful.interval
  received := faithful.received
  sent := by
    rw [LivenessLog.latest, LivenessNote.isSend_polled other]
    exact faithful.sent
  pending id sentAt := by
    rw [LivenessLog.unanswered_cons_iff, faithful.pending]
    simp [LivenessNote.answers, other id]
  received_le := Duration.le_trans faithful.received_le forward
  sent_le := Duration.le_trans faithful.sent_le forward
  asked_le := faithful.asked_le

theorem poll (faithful : w.Faithful interval clock) (forward : clock ≤ now.steady) :
    (w.step now .poll).Faithful interval now.steady := by
  cases asked : w.liveness.pending with
  | some test =>
    rw [step, w.liveness.poll_of_pending asked]
    apply faithful.polled forward
    intro id
    split
    · rintro ⟨⟩
    · exact w.liveness.heartbeatDue_ne now id
  | none =>
    have unasked (id : String) (sentAt : Duration) : ¬ w.log.Unanswered id sentAt := by
      rw [faithful.pending, asked]
      rintro ⟨⟩
    rw [step, w.liveness.poll_of_idle asked]
    by_cases silent : w.liveness.interval.double ≤ now.steady.since w.liveness.lastReceived
    · rw [if_pos silent]
      -- From now on a test request is open, and nothing has been sent later than it.
      refine ⟨faithful.interval, faithful.received, rfl, fun id sentAt => ?_,
        Duration.le_trans faithful.received_le forward, Duration.le_self _, ?_⟩
      · rw [LivenessLog.unanswered_cons_iff]
        simp [unasked]
      · rintro _ ⟨⟩
        exact Duration.le_self _
    · rw [if_neg silent]
      exact faithful.polled forward (w.liveness.heartbeatDue_ne now)

theorem step (faithful : w.Faithful interval clock) (forward : clock ≤ now.steady)
    (event : LivenessEvent) : (w.step now event).Faithful interval now.steady := by
  cases event with
  | sent => exact faithful.noteSent forward
  | received isHeartbeat testReqId => exact faithful.noteReceived forward isHeartbeat testReqId
  | poll => exact faithful.poll forward

/-- Over a run in which time does not run backwards. -/
theorem run {created last : Moment} (faithful : w.Faithful interval created.steady)
    (events : List (Moment × LivenessEvent))
    (forward : List.IsChain (fun a b : Moment => a.steady ≤ b.steady)
      (created :: (events.map Prod.fst ++ [last]))) :
    (w.run events).Faithful interval last.steady := by
  induction events generalizing created w with
  | nil =>
    rw [List.map_nil, List.nil_append, List.isChain_cons_cons] at forward
    exact { faithful with
      received_le := Duration.le_trans faithful.received_le forward.1
      sent_le := Duration.le_trans faithful.sent_le forward.1 }
  | cons first rest ih =>
    rw [List.map_cons, List.cons_append, List.isChain_cons_cons] at forward
    exact ih (faithful.step forward.1 first.2) forward.2

/-! ### Verdicts -/

/-- With a test request open, a heartbeat cannot fall due before the other side is given up. -/
theorem verdict_of_asked (faithful : w.Faithful interval now.steady) {test : PendingTest}
    (asked : w.liveness.pending = some test) :
    (w.liveness.poll now).1 = if test.sentAt + interval ≤ now.steady then
      some (.timedOut (now.steady.since w.liveness.lastReceived)) else none := by
  have age := faithful.asked_le test asked
  have due := Duration.le_since_iff interval (Duration.le_trans age faithful.sent_le)
  have quiet := Duration.le_since_iff interval faithful.sent_le
  simp only [w.liveness.poll_of_pending asked, faithful.interval, due]
  by_cases late : test.sentAt + interval ≤ now.steady
  · rw [if_pos late, if_pos late]
  · have recent : ¬ interval ≤ now.steady.since w.liveness.lastSent := by
      rw [quiet]
      exact fun sent => late (Duration.add_le_of_le age sent)
    rw [if_neg late, if_neg late, Liveness.heartbeatDue, faithful.interval, if_neg recent]

theorem verdict_of_idle (faithful : w.Faithful interval now.steady)
    (idle : w.liveness.pending = none) :
    (w.liveness.poll now).1 =
      if w.liveness.lastReceived + interval.double ≤ now.steady then
        some (.sendTestRequest now.testReqId)
      else if w.liveness.lastSent + interval ≤ now.steady then some .sendHeartbeat else none := by
  have overdue := Duration.le_since_iff interval.double faithful.received_le
  have quiet := Duration.le_since_iff interval faithful.sent_le
  simp only [w.liveness.poll_of_idle idle, Liveness.heartbeatDue, faithful.interval, overdue, quiet]
  split <;> rfl

end Faithful

end Watch

/-- **Every verdict follows from the log.** A watch with a fixed interval is told what is sent and what
arrives and is asked what to do, in any order and at times that do not run backwards; its start counts
as a send and a receipt, and so does a test request it asks for as a send. Whenever it is asked:
it asks for a test request exactly when none is open and nothing has arrived for two intervals; while
one is open it keeps silent for one interval and gives the other side up from then on, naming how long
nothing has arrived; it gives the other side up for no other cause; and with none open and less than
two intervals of silence it asks for a heartbeat once nothing has been sent for one interval. -/
theorem Watch.poll_follows_log (interval : Duration) (created now : Moment)
    (events : List (Moment × LivenessEvent))
    (forward : List.IsChain (fun a b : Moment => a.steady ≤ b.steady)
      (created :: (events.map Prod.fst ++ [now]))) :
    let w := (Watch.start interval created).run events
    let action := (w.liveness.poll now).1
    ∃ received sent, w.log.latest LivenessNote.isReceipt = some received ∧
      w.log.latest LivenessNote.isSend = some sent ∧
      ((∃ id, action = some (.sendTestRequest id)) ↔
        received + interval.double ≤ now.steady ∧ ∀ id sentAt, ¬ w.log.Unanswered id sentAt) ∧
      (∀ id sentAt, w.log.Unanswered id sentAt →
        (now.steady < sentAt + interval → action = none) ∧
          (sentAt + interval ≤ now.steady → action = some (.timedOut (now.steady.since received)))) ∧
      (∀ silence, action = some (.timedOut silence) →
        ∃ id sentAt, w.log.Unanswered id sentAt ∧ sentAt + interval ≤ now.steady) ∧
      ((∀ id sentAt, ¬ w.log.Unanswered id sentAt) → now.steady < received + interval.double →
        action = if sent + interval ≤ now.steady then some .sendHeartbeat else none) := by
  intro w action
  have faithful : w.Faithful interval now.steady :=
    (Faithful.start interval created).run events forward
  refine ⟨w.liveness.lastReceived, w.liveness.lastSent, faithful.received, faithful.sent, ?_⟩
  -- What is said of the log is now said of the state of the timers, where a test request is either
  -- pending or not; in each case only one branch of the poll can have been taken.
  simp only [faithful.pending]
  cases asked : w.liveness.pending with
  | some test =>
    have verdict : action = _ := faithful.verdict_of_asked asked
    refine ⟨⟨?_, ?_⟩, ?_, ?_, ?_⟩
    · rintro ⟨id, asks⟩
      rw [verdict] at asks
      split at asks <;> cases asks
    · rintro ⟨-, none⟩
      exact absurd rfl (none test.id test.sentAt)
    · rintro id sentAt ⟨⟩
      rw [verdict]
      exact ⟨fun early => if_neg ((Duration.not_le_iff _ _).mpr early), fun late => if_pos late⟩
    · intro silence givenUp
      rw [verdict] at givenUp
      split at givenUp
      · rename_i late
        exact ⟨test.id, test.sentAt, rfl, late⟩
      · cases givenUp
    · intro none
      exact absurd rfl (none test.id test.sentAt)
  | none =>
    have verdict : action = _ := faithful.verdict_of_idle asked
    refine ⟨⟨?_, ?_⟩, ?_, ?_, ?_⟩
    · rintro ⟨id, asks⟩
      rw [verdict] at asks
      split at asks
      · rename_i late
        exact ⟨late, by rintro id sentAt ⟨⟩⟩
      · split at asks <;> cases asks
    · rintro ⟨late, -⟩
      exact ⟨now.testReqId, verdict.trans (if_pos late)⟩
    · rintro id sentAt ⟨⟩
    · intro silence givenUp
      rw [verdict] at givenUp
      split at givenUp
      · cases givenUp
      · split at givenUp <;> cases givenUp
    · intro _ early
      rw [verdict, if_neg ((Duration.not_le_iff _ _).mpr early)]

/-- Nothing arrives for two intervals, and the heartbeat that comes then carries another identifier.
One interval after the test request the other side is given up all the same. -/
theorem Watch.poll_follows_log_wrong_answer :
    let second := Duration.ofSeconds 1
    let created : Moment := ⟨⟨0⟩, 0⟩
    let asked : Moment := ⟨Duration.ofMillis 2000, 7⟩
    let answered : Moment := ⟨Duration.ofMillis 2500, 8⟩
    let now : Moment := ⟨Duration.ofMillis 3000, 9⟩
    let events : List (Moment × LivenessEvent) :=
      [(asked, .poll), (answered, .received true (some "OTHER")), (answered, .sent)]
    let w := (Watch.start second created).run events
    List.IsChain (fun a b : Moment => a.steady ≤ b.steady)
        (created :: (events.map Prod.fst ++ [now])) ∧
      w.log.Unanswered "TEST7" (Duration.ofMillis 2000) ∧
      (w.liveness.poll now).1 = some (.timedOut (Duration.ofMillis 500)) := by
  intro second created asked answered now events w
  have forward : List.IsChain (fun a b : Moment => a.steady ≤ b.steady)
      (created :: (events.map Prod.fst ++ [now])) := by decide
  have unanswered : w.log.Unanswered "TEST7" (Duration.ofMillis 2000) :=
    ⟨[(answered, .sent), (answered, .received true (some "OTHER"))], asked, [(created, .started)],
      by decide +kernel, rfl, by decide +kernel⟩
  obtain ⟨received, -, arrived, -, -, asks, -, -⟩ :=
    Watch.poll_follows_log second created now events forward
  have last : received = Duration.ofMillis 2500 := by
    have shown : w.log.latest LivenessNote.isReceipt = some (Duration.ofMillis 2500) := by
      decide +kernel
    exact Option.some.inj (arrived.symm.trans shown)
  have silence : now.steady.since received = Duration.ofMillis 500 := by
    rw [last]
    decide +kernel
  have late : Duration.ofMillis 2000 + second ≤ now.steady := by decide +kernel
  have verdict := (asks _ _ unanswered).2 late
  rw [silence] at verdict
  exact ⟨forward, unanswered, verdict⟩

end FixBench
