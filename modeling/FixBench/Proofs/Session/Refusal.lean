import FixBench.Proofs.Session.Numbering

/-!
# Which messages end a session

A refused message is meant to end the session. It does wherever messages flow, and a session that has
ended stays so. But before messages flow a session is first connecting, and there a message is refused by
looking at the state alone: the refusal changes nothing, and the session goes on connecting
(`connecting_outlives_refusal`).

That is the only exception. `connecting_iff` reads from the diary when it applies: connecting has begun,
and nothing has come of any call since. With it a message ends a session exactly if it is refused and
the exception does not apply (`message_ends_session_iff`).
-/
namespace FixBench

namespace SessionEntry

/-- Nothing has come of the call, and it was not the one to disconnect. -/
def isIdle : SessionEntry → Bool
  | disconnect => false
  | entry => entry.isRefused

theorem isIdle_of_isRefused {entry : SessionEntry} (refused : entry.isRefused = true)
    (other : entry ≠ .disconnect) : entry.isIdle = true := by
  cases entry with
  | disconnect => exact absurd rfl other
  | connecting | connected | stamp | inbound | poll => exact refused

end SessionEntry

/-- Connecting has begun, and nothing has come of any call since. -/
def StillConnecting (entries : List SessionEntry) : Prop :=
  ∃ before rest, entries = before ++ .connecting (.ok ()) :: rest ∧
    ∀ entry ∈ rest, entry.isIdle = true

theorem SessionEntry.eq_of_connects {entry : SessionEntry} (connects : entry.connects = true) :
    entry = .connecting (.ok ()) := by
  cases entry with
  | connecting answer =>
    cases answer with
    | ok => rfl
    | error => cases connects
  | connected | stamp | inbound | poll | disconnect => cases connects

theorem not_stillConnecting_nil : ¬ StillConnecting [] := by
  rintro ⟨before, rest, split, -⟩
  cases before <;> cases split

theorem stillConnecting_append_singleton (entries : List SessionEntry) (entry : SessionEntry) :
    StillConnecting (entries ++ [entry]) ↔
      entry.connects = true ∨ StillConnecting entries ∧ entry.isIdle = true := by
  constructor
  · rintro ⟨before, rest, split, idle⟩
    -- The last entry is the beginning itself, or one of those after it.
    rcases List.eq_nil_or_concat' rest with rfl | ⟨rest, last, rfl⟩
    · obtain ⟨-, same⟩ := List.append_inj' split rfl
      cases same
      exact .inl rfl
    · rw [← List.cons_append, ← List.append_assoc] at split
      obtain ⟨rfl, same⟩ := List.append_inj' split rfl
      cases same
      rw [List.forall_mem_append, List.forall_mem_singleton] at idle
      exact .inr ⟨⟨before, rest, rfl, idle.1⟩, idle.2⟩
  · rintro (connects | ⟨⟨before, rest, rfl, idle⟩, last⟩)
    · exact ⟨entries, [], by rw [SessionEntry.eq_of_connects connects],
        List.forall_mem_nil _⟩
    · refine ⟨before, rest ++ [entry], by simp, ?_⟩
      rw [List.forall_mem_append, List.forall_mem_singleton]
      exact ⟨idle, last⟩

namespace Session

variable {s after : Session} {m : Message} {now : Moment}

theorem Means.isConnected {answer : Inbound} (means : Means s m answer after)
    (connected : s.state.isConnected = true) : after.state.isConnected = true := by
  cases means with
  | logon => rfl
  | logout | heartbeat | testRequest | business => exact connected

theorem ne_connecting_of_isConnected (connected : s.state.isConnected = true) :
    s.state ≠ .connecting := by
  intro connecting
  rw [connecting] at connected
  cases connected

/-- A session is connecting after a call if the call has begun it, or if it was connecting and nothing has
come of the call. -/
theorem perform_connecting_iff (s : Session) (now : Moment) (call : SessionCall) :
    (s.perform now call).2.state = .connecting ↔
      (s.perform now call).1.connects = true ∨
        s.state = .connecting ∧ (s.perform now call).1.isIdle = true := by
  by_cases disconnects : (s.perform now call).1 = .disconnect
  · -- No other call is entered in this way.
    have ended : (s.perform now call).2.state = .disconnected := by
      cases call with
      | disconnect => rfl
      | connecting | connected | stamp =>
        rw [perform] at disconnects
        split at disconnects <;> cases disconnects
      | inbound | poll => cases disconnects
    simp [ended, disconnects, SessionEntry.connects, SessionEntry.isIdle]
  · have performed := s.performed now call
    generalize (s.perform now call).1 = entry, (s.perform now call).2 = after at performed disconnects
    cases performed with
    | connecting => exact iff_of_true rfl (.inl rfl)
    | connected => simp [SessionEntry.connects, SessionEntry.isIdle, SessionEntry.isRefused]
    | stamp stamps =>
      obtain ⟨may, -, rfl⟩ := (stamp_eq_ok_iff ..).mp stamps
      have apart : s.state ≠ .connecting := by
        intro connecting
        rw [maySend, connecting] at may
        cases may
      simp [apart, SessionEntry.connects]
    | accept connected inOrder means =>
      have before := ne_connecting_of_isConnected connected
      have behind := ne_connecting_of_isConnected (means.isConnected connected)
      simp [before, behind, SessionEntry.connects]
    | violate connected ended =>
      have before := ne_connecting_of_isConnected connected
      simp [before, ended, SessionEntry.connects]
    | poll active state =>
      have behind : after.state ≠ .connecting := by
        rcases state with state | state <;> rw [state] <;> decide
      simp [active, behind, SessionEntry.connects]
    | disconnect => exact absurd rfl disconnects
    | refuse refused =>
      simp [SessionEntry.connects_of_isRefused refused,
        SessionEntry.isIdle_of_isRefused refused disconnects]

/-- When a session is connecting, over any life of it. -/
theorem connecting_iff (config : SessionConfig) (created : Moment)
    (calls : List (Moment × SessionCall)) :
    ((create config created).after calls).state = .connecting ↔
      StillConnecting ((create config created).diary calls) := by
  induction calls using List.reverseRecOn with
  | nil => exact iff_of_false (by rintro ⟨⟩) not_stillConnecting_nil
  | append_singleton calls last ih =>
    obtain ⟨now, call⟩ := last
    rw [after_append, diary_append, diary, diary, stillConnecting_append_singleton, ← ih]
    exact perform_connecting_iff ..

/-- Wherever messages flow, a message ends the session exactly if it is refused. -/
theorem inbound_ends_iff (connected : s.state.isConnected = true) :
    (s.inbound m now).2.state = .disconnected ↔ ∃ fault, (s.inbound m now).1 = .error fault := by
  rcases answered : s.inbound m now with ⟨fault | answer, after⟩
  · exact iff_of_true (inbound_of_error connected answered).1 ⟨fault, rfl⟩
  · obtain ⟨-, -, means⟩ := (inbound_eq_ok_iff ..).mp answered
    have flows : after.state.isConnected = true := means.isConnected connected
    exact iff_of_false (ne_disconnected_of_isConnected flows) (by rintro ⟨_, ⟨⟩⟩)

/-- **A message ends a session exactly if it is refused, unless the session is still connecting.** Take any
life of a session. After an incoming message the session is disconnected if and only if the message has been
refused and it is not the case that connecting has begun and nothing has come of any call since. In that
case every message is refused for the state of the session, and the session is left as it was. -/
theorem message_ends_session_iff (config : SessionConfig) (created : Moment)
    (calls : List (Moment × SessionCall)) (m : Message) (now : Moment) :
    let s := (create config created).after calls
    let entries := (create config created).diary calls
    ((s.inbound m now).2.state = .disconnected ↔
        (∃ fault, (s.inbound m now).1 = .error fault) ∧ ¬ StillConnecting entries) ∧
      (StillConnecting entries → s.state = .connecting ∧
        s.inbound m now =
          (.error (.invalidState SessionState.active.text SessionState.connecting.text), s)) := by
  intro s entries
  have connecting : s.state = .connecting ↔ StillConnecting entries :=
    connecting_iff config created calls
  rw [← connecting]
  cases state : s.state with
  | disconnected =>
    have apart : s.state.isConnected = false := by rw [state]; rfl
    simp [inbound_of_not_connected m now apart, state]
  | connecting =>
    have apart : s.state.isConnected = false := by rw [state]; rfl
    simp [inbound_of_not_connected m now apart, state]
  | logonPending | active =>
    have connected : s.state.isConnected = true := by rw [state]; rfl
    simp [inbound_ends_iff connected]

/-- A heartbeat that arrives while the session is connecting is refused, and does not end it. -/
theorem connecting_outlives_refusal :
    let config : SessionConfig :=
      .default ⟨"CLIENT", by decide, by decide⟩ ⟨"SERVER", by decide, by decide⟩ "FIX.4.4"
    let now : Moment := ⟨⟨0⟩, 0⟩
    let s := (create config now).after [(now, .connecting)]
    let heartbeat := (((Message.ofType "FIX.4.4" .heartbeat).set Tag.senderCompId "SERVER").set
      Tag.targetCompId "CLIENT").set Tag.msgSeqNum "1"
    (s.inbound heartbeat now).1 = .error (.invalidState "Active" "Connecting") ∧
      (s.inbound heartbeat now).2.state = .connecting := by
  decide +kernel

end Session

end FixBench
