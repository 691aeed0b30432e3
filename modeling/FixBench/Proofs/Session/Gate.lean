import FixBench.Proofs.Session.Diary

/-!
# The logon gate

A session becomes active by accepting a logon, and accepts one only. What a diary shows of it is a
`Stage`: up to that logon the session works with the interval it is configured with and is not active;
from then on it works with the interval agreed on and can only end. An inactive session passes
nothing but the logon and a logout, in either direction.
-/
namespace FixBench

namespace SessionEntry

/-- The number of seconds asked for by a logon that is accepted. -/
def welcome? : SessionEntry → Option Nat
  | inbound _ (.ok (.logonAccepted seconds)) => some seconds
  | _ => none

/-- Nothing passes but a logon or a logout. -/
def isGuarded : SessionEntry → Bool
  | inbound _ (.ok .deliver) | inbound _ (.ok (.admin _)) => false
  | stamp m (.ok _) => m.msgType == .logon || m.msgType == .logout
  | _ => true

theorem eq_of_welcome? {entry : SessionEntry} {seconds : Nat}
    (welcome : entry.welcome? = some seconds) :
    ∃ m, entry = .inbound m (.ok (.logonAccepted seconds)) := by
  unfold welcome? at welcome
  split at welcome
  · cases welcome
    exact ⟨_, rfl⟩
  · cases welcome

theorem welcome?_of_isRefused {entry : SessionEntry} (refused : entry.isRefused = true) :
    entry.welcome? = none := by
  unfold welcome?
  split
  · cases refused
  · rfl

theorem isGuarded_of_isRefused {entry : SessionEntry} (refused : entry.isRefused = true) :
    entry.isGuarded = true := by
  unfold isGuarded
  split
  · cases refused
  · cases refused
  · cases refused
  · rfl

end SessionEntry

/-- The intervals agreed on, in seconds. -/
def welcomes (entries : List SessionEntry) : List Nat := entries.filterMap SessionEntry.welcome?

/-- The interval agreed on with a logon that asks for so many seconds, or for none. -/
def SessionConfig.agreedInterval (config : SessionConfig) (seconds : Nat) : Duration :=
  if 0 < seconds then .ofSeconds seconds else config.heartbeatInterval

namespace Session

/-! ### What makes a session active -/

/-- A message that makes a session active, and the number of seconds it asks for. -/
structure Admits (s : Session) (m : Message) (seconds : Nat) : Prop where
  pending : s.state = .logonPending
  logon : m.msgType = .logon
  inOrder : s.InOrder m
  asked : (m.get Tag.heartBtInt = none ∧ seconds = 0) ∨
    ∃ text, m.get Tag.heartBtInt = some text ∧ ValueFormat.u64.read? text = some seconds ∧
      seconds ≤ 86400

theorem negotiatedInterval_eq_ok_iff (raw : Option String) (seconds : Nat) :
    negotiatedInterval raw = .ok seconds ↔
      (raw = none ∧ seconds = 0) ∨
        ∃ text, raw = some text ∧ ValueFormat.u64.read? text = some seconds ∧ seconds ≤ 86400 := by
  cases raw with
  | none => simp [negotiatedInterval, eq_comm]
  | some text =>
    have day : Liveness.maxInterval.seconds = 86400 := by decide
    simp only [negotiatedInterval, day]
    cases read : ValueFormat.u64.read? text with
    | none => simp [read]
    | some value =>
      by_cases short : value ≤ 86400
      · simp [read, short]
        rintro rfl
        exact short
      · simp [read, short]
        rintro rfl
        exact Nat.not_le.mp short

theorem inbound_of_admits {s : Session} {m : Message} {seconds : Nat} (admits : s.Admits m seconds)
    (now : Moment) :
    s.inbound m now = (.ok (.logonAccepted seconds), (s.noticed m now).welcomed m seconds) := by
  obtain ⟨pending, typed, inOrder, asked⟩ := admits
  have connected : s.state.isConnected = true := by
    rw [pending]
    rfl
  exact (inbound_eq_ok_iff ..).mpr ⟨connected, inOrder,
    .logon typed pending ((negotiatedInterval_eq_ok_iff _ _).mpr asked)⟩

theorem inbound_logonAccepted_iff (s : Session) (m : Message) (now : Moment) (seconds : Nat) :
    (s.inbound m now).1 = .ok (.logonAccepted seconds) ↔ s.Admits m seconds := by
  constructor
  · intro answered
    obtain ⟨after, answered⟩ : ∃ after, s.inbound m now = (.ok (.logonAccepted seconds), after) :=
      ⟨_, Prod.ext answered rfl⟩
    obtain ⟨-, inOrder, means⟩ := (inbound_eq_ok_iff ..).mp answered
    cases means with
    | logon typed pending negotiated =>
      exact ⟨pending, typed, inOrder, (negotiatedInterval_eq_ok_iff _ _).mp negotiated⟩
  · intro admits
    rw [inbound_of_admits admits now]

/-! ### Stages -/

/-- How far a session has come in its only connection, by the intervals agreed on so far. -/
inductive Stage (config : SessionConfig) (s : Session) : List Nat → Prop
  | waiting : s.state ≠ .active → s.liveness.interval = config.heartbeatInterval → Stage config s []
  | welcomed {seconds : Nat} : s.state = .active ∨ s.state = .disconnected →
      s.liveness.interval = config.agreedInterval seconds → Stage config s [seconds]

variable {config : SessionConfig} {s after : Session} {agreed : List Nat}

/-- A session that works with the same interval and is still what it was, or has ended. -/
theorem Stage.keep (stage : Stage config s agreed)
    (interval : after.liveness.interval = s.liveness.interval)
    (state : after.state = s.state ∨ after.state = .disconnected) : Stage config after agreed := by
  cases stage with
  | waiting idle configured =>
    refine .waiting ?_ (interval.trans configured)
    rcases state with same | ended
    · rwa [same]
    · rw [ended]
      decide
  | welcomed begun negotiated =>
    refine .welcomed ?_ (interval.trans negotiated)
    rcases state with same | ended
    · rwa [same]
    · exact Or.inr ended

/-- A session on its way to being active has agreed on nothing. -/
theorem Stage.waits (stage : Stage config s agreed) (idle : s.state ≠ .active)
    (going : s.state ≠ .disconnected) :
    agreed = [] ∧ s.liveness.interval = config.heartbeatInterval := by
  cases stage with
  | waiting _ configured => exact ⟨rfl, configured⟩
  | welcomed begun =>
    rcases begun with active | ended
    · exact absurd active idle
    · exact absurd ended going

theorem Stage.length_le (stage : Stage config s agreed) : agreed.length ≤ 1 := by
  cases stage with
  | waiting => exact Nat.zero_le 1
  | welcomed => exact Nat.le_refl 1

theorem Stage.exists_of_active (stage : Stage config s agreed) (active : s.state = .active) :
    ∃ seconds, agreed = [seconds] := by
  cases stage with
  | waiting idle => exact absurd active idle
  | welcomed => exact ⟨_, rfl⟩

theorem Stage.of_mem (stage : Stage config s agreed) {seconds : Nat} (member : seconds ∈ agreed) :
    (s.state = .active ∨ s.state = .disconnected) ∧
      s.liveness.interval = config.agreedInterval seconds := by
  cases stage with
  | waiting => cases member
  | welcomed begun negotiated =>
    rw [List.mem_singleton] at member
    exact ⟨begun, member ▸ negotiated⟩

/-- What a diary shows about the logon of a session. -/
structure Gate (config : SessionConfig) (entries : List SessionEntry) (s : Session) : Prop where
  stage : Stage config s (welcomes entries)
  guarded : ∀ earlier entry later, entries = earlier ++ entry :: later → welcomes earlier = [] →
    entry.isGuarded = true

namespace Gate

variable {entries : List SessionEntry} {now : Moment} {entry : SessionEntry}

theorem guarded_append
    (guarded : ∀ earlier entry later, entries = earlier ++ entry :: later → welcomes earlier = [] →
      entry.isGuarded = true)
    (last : welcomes entries = [] → entry.isGuarded = true) (earlier : List SessionEntry)
    (found : SessionEntry) (later : List SessionEntry)
    (split : entries ++ [entry] = earlier ++ found :: later) (none : welcomes earlier = []) :
    found.isGuarded = true := by
  rcases List.eq_nil_or_concat later with rfl | ⟨front, final, rfl⟩
  · obtain ⟨rfl, same⟩ := List.append_inj' split rfl
    cases same
    exact last none
  · rw [List.concat_eq_append, ← List.cons_append, ← List.append_assoc] at split
    exact guarded earlier found front (List.append_inj' split rfl).1 none

/-- A call that brings about no agreement. -/
theorem keep (gate : Gate config entries s) (none : entry.welcome? = none)
    (interval : after.liveness.interval = s.liveness.interval)
    (state : after.state = s.state ∨ after.state = .disconnected)
    (guard : s.state ≠ .active → entry.isGuarded = true) : Gate config (entries ++ [entry]) after := by
  have same : welcomes (entries ++ [entry]) = welcomes entries := by
    simp [welcomes, none]
  refine ⟨?_, guarded_append gate.guarded fun first => ?_⟩
  · rw [same]
    exact gate.stage.keep interval state
  · -- Nothing has been agreed on, so the session is not active.
    have stage := gate.stage
    rw [first] at stage
    cases stage with
    | waiting idle => exact guard idle

theorem connected (gate : Gate config entries s) (pending : s.state = .connecting) :
    Gate config (entries ++ [.connected (.ok ())])
      { s with state := .logonPending, liveness := .start s.liveness.interval now } := by
  have same : welcomes (entries ++ [.connected (.ok ())]) = welcomes entries := by
    simp [welcomes, SessionEntry.welcome?]
  obtain ⟨none, configured⟩ := gate.stage.waits (by simp [pending]) (by simp [pending])
  refine ⟨?_, guarded_append gate.guarded fun _ => rfl⟩
  rw [same, none]
  exact .waiting (by rintro ⟨⟩) configured

theorem logon (gate : Gate config entries s) {m : Message} {seconds : Nat}
    (pending : s.state = .logonPending) :
    Gate config (entries ++ [.inbound m (.ok (.logonAccepted seconds))])
      ((s.noticed m now).welcomed m seconds) := by
  have next : welcomes (entries ++ [.inbound m (.ok (.logonAccepted seconds))]) =
      welcomes entries ++ [seconds] := by
    simp [welcomes, SessionEntry.welcome?]
  obtain ⟨none, configured⟩ := gate.stage.waits (by simp [pending]) (by simp [pending])
  refine ⟨?_, guarded_append gate.guarded fun _ => rfl⟩
  rw [next, none]
  refine .welcomed (Or.inl rfl) ?_
  show (if 0 < seconds then Duration.ofSeconds seconds else s.liveness.interval) = _
  rw [configured, SessionConfig.agreedInterval]

theorem accept (gate : Gate config entries s) {m : Message} {answer : Inbound}
    (connected : s.state.isConnected = true) (means : Means (s.noticed m now) m answer after) :
    Gate config (entries ++ [.inbound m (.ok answer)]) after := by
  -- A connected session that does not await its logon is active.
  have active (apart : (s.noticed m now).state ≠ .logonPending) : s.state = .active := by
    cases state : s.state with
    | active => rfl
    | logonPending => exact absurd state apart
    | disconnected | connecting =>
      rw [state] at connected
      cases connected
  cases means with
  | logout => exact gate.keep rfl rfl (Or.inl rfl) fun _ => rfl
  | logon _ pending => exact gate.logon pending
  | heartbeat _ apart | testRequest _ apart | business _ apart =>
    exact gate.keep rfl rfl (Or.inl rfl) fun idle => absurd (active apart) idle

theorem step (gate : Gate config entries s) (performed : Performed s now entry after)
    (apart : entry.connects = false) : Gate config (entries ++ [entry]) after := by
  cases performed with
  | connecting => cases apart
  | connected pending => exact gate.connected pending
  | stamp stamps =>
    obtain ⟨may, -, rfl⟩ := (stamp_eq_ok_iff ..).mp stamps
    -- Outside an active session nothing but logons and logouts may be stamped.
    refine gate.keep rfl rfl (Or.inl rfl) fun idle => ?_
    unfold maySend at may
    split at may
    · rename_i active
      exact absurd active idle
    · exact may
    · cases may
    · cases may
  | accept connected _ means => exact gate.accept connected means
  | violate _ ended interval => exact gate.keep rfl interval (Or.inr ended) fun _ => rfl
  | poll active state _ interval =>
    refine gate.keep rfl interval ?_ fun _ => rfl
    rw [active]
    exact state
  | disconnect => exact gate.keep rfl rfl (Or.inr rfl) fun _ => rfl
  | refuse refused =>
    exact gate.keep (SessionEntry.welcome?_of_isRefused refused) rfl (Or.inl rfl) fun _ =>
      SessionEntry.isGuarded_of_isRefused refused

theorem connecting (configured : s.liveness.interval = config.heartbeatInterval)
    (refused : ∀ entry ∈ entries, entry.isRefused = true) :
    Gate config (entries ++ [.connecting (.ok ())]) { s with state := .connecting } := by
  have none : welcomes (entries ++ [.connecting (.ok ())]) = [] := by
    rw [welcomes, List.filterMap_eq_nil_iff]
    intro entry member
    rw [List.mem_append, List.mem_singleton] at member
    rcases member with earlier | rfl
    · exact SessionEntry.welcome?_of_isRefused (refused entry earlier)
    · rfl
  constructor
  · rw [none]
    exact .waiting (by rintro ⟨⟩) configured
  · refine guarded_append ?_ fun _ => rfl
    rintro earlier entry later rfl -
    exact SessionEntry.isGuarded_of_isRefused (refused entry (by simp))

/-- Over the life of a session. -/
theorem diary (config : SessionConfig) (created : Moment) (calls : List (Moment × SessionCall))
    (single : SingleConnect ((create config created).diary calls)) :
    Gate config ((create config created).diary calls) ((create config created).after calls) := by
  refine diary_induction rfl ?_ (fun _ refused => connecting rfl refused)
    (fun _ _ _ _ _ gate performed apart => gate.step performed apart) calls single
  refine ⟨.waiting (by rintro ⟨⟩) rfl, ?_⟩
  rintro earlier entry later split
  cases earlier <;> cases split

end Gate

/-- The logon a diary shows has been accepted in its place. -/
theorem exists_admits_of_welcomes {s : Session} {calls : List (Moment × SessionCall)} {seconds : Nat}
    (member : seconds ∈ welcomes (s.diary calls)) :
    ∃ before now m rest, calls = before ++ (now, .inbound m) :: rest ∧
      (s.after before).Admits m seconds ∧
      ((s.after before).inbound m now).1 = .ok (.logonAccepted seconds) := by
  obtain ⟨entry, found, welcome⟩ := List.mem_filterMap.mp member
  obtain ⟨earlier, later, split⟩ := List.append_of_mem found
  obtain ⟨m, rfl⟩ := SessionEntry.eq_of_welcome? welcome
  obtain ⟨before, now, call, rest, rfl, -, told⟩ := exists_call_of_diary split
  obtain ⟨rfl, answered⟩ := call_of_perform told
  exact ⟨before, now, m, rest, rfl, (inbound_logonAccepted_iff _ _ now _).mp answered, answered⟩

/-- **Nothing passes before the logon.** Take any life of a session through a single connection.
It accepts one logon at most. As long as it has accepted none, it passes no message on, answers none
and stamps nothing but a logon or a logout.
If it is active, it has accepted a logon. Whenever it has, it was awaiting it, and the logon carried
the number due and the two identifiers the other way round, and asked for no interval or for one of
a day at most. From then on the session is active until it ends, and works with the interval asked
for, or with the one it is configured with if none or zero was. -/
theorem logon_gate (config : SessionConfig) (created : Moment)
    (calls : List (Moment × SessionCall))
    (single : SingleConnect ((create config created).diary calls)) :
    let entries := (create config created).diary calls
    let s := (create config created).after calls
    (welcomes entries).length ≤ 1 ∧
      (∀ earlier entry later, entries = earlier ++ entry :: later → welcomes earlier = [] →
        entry.isGuarded = true) ∧
      (s.state = .active → ∃ seconds, welcomes entries = [seconds]) ∧
      (∀ seconds ∈ welcomes entries, ∃ before now m rest,
        calls = before ++ (now, .inbound m) :: rest ∧
          ((create config created).after before).Admits m seconds ∧
          (((create config created).after before).inbound m now).1 = .ok (.logonAccepted seconds)) ∧
      (∀ seconds ∈ welcomes entries,
        (s.state = .active ∨ s.state = .disconnected) ∧
          s.liveness.interval = config.agreedInterval seconds) := by
  intro entries s
  have gate : Gate config entries s := Gate.diary config created calls single
  exact ⟨gate.stage.length_le, gate.guarded, gate.stage.exists_of_active,
    fun _ => exists_admits_of_welcomes, fun _ => gate.stage.of_mem⟩

/-- An order passes in neither direction before the logon, and in both after it. The logon asks for an
interval with a sign, which is read all the same. -/
theorem logon_gate_signed_interval :
    let config : SessionConfig :=
      .default ⟨"S", by decide, by decide⟩ ⟨"C", by decide, by decide⟩ "FIX.4.4"
    let message (type : MsgType) (number : String) : Message :=
      (((Message.ofType "FIX.4.4" type).set Tag.senderCompId "C").set Tag.targetCompId "S").set
        Tag.msgSeqNum number
    let now : Moment := ⟨⟨0⟩, 0⟩
    let order := Message.ofType "FIX.4.4" .newOrderSingle
    let calls : List (Moment × SessionCall) :=
      [(now, .connecting), (now, .connected), (now, .stamp order),
        (now, .inbound ((message .logon "1").set Tag.heartBtInt "+5")), (now, .stamp order),
        (now, .inbound (message .newOrderSingle "2"))]
    let s := (create config now).after calls
    SingleConnect ((create config now).diary calls) ∧ s.state = .active ∧
      welcomes ((create config now).diary calls) = [5] ∧ s.liveness.interval = .ofSeconds 5 ∧
      ((create config now).diary calls).map SessionEntry.isGuarded =
        [true, true, true, true, false, false] := by
  intro config message now order calls s
  have single : SingleConnect ((create config now).diary calls) := by decide +kernel
  have active : s.state = .active := by decide +kernel
  obtain ⟨-, -, -, -, agreed⟩ := logon_gate config now calls single
  have asked : welcomes ((create config now).diary calls) = [5] := by decide +kernel
  obtain ⟨-, interval⟩ := agreed 5 (by rw [asked]; exact List.mem_singleton_self 5)
  exact ⟨single, active, asked, interval, by decide +kernel⟩

end Session

end FixBench
