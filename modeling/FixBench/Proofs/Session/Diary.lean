import FixBench.Proofs.Session.Inbound

/-!
# A session's diary

A session is told what happens, and asked what to do, by `SessionCall`s in any order. Its diary lists the
calls with their answers. `Performed` says all that a call can do to a session; whatever is kept by
that holds of every diary (`diary_induction`).

Sessions may be connected again once they have ended. Most of what can be said about a session holds
from one connection to the next, so the diaries considered are those with a `SingleConnect`.
-/
namespace FixBench

inductive SessionCall where
  | connecting
  | connected
  | stamp (m : Message)
  | inbound (m : Message)
  | poll
  | disconnect
  deriving DecidableEq, Repr

/-- A call with its answer. -/
inductive SessionEntry where
  | connecting (answer : Except SessionFault Unit)
  | connected (answer : Except SessionFault Unit)
  | stamp (m : Message) (answer : Except SessionFault Message)
  | inbound (m : Message) (answer : Except SessionFault Inbound)
  | poll (answer : Option LivenessAction)
  | disconnect

namespace SessionEntry

def connects : SessionEntry → Bool
  | connecting (.ok ()) => true
  | _ => false

/-- The message that has been accepted. -/
def accepted? : SessionEntry → Option Message
  | inbound m (.ok _) => some m
  | _ => none

/-- The call has failed or there was nothing to do. -/
def isRefused : SessionEntry → Bool
  | connecting (.ok _) | connected (.ok _) | stamp _ (.ok _) | inbound _ (.ok _) | poll (some _) =>
    false
  | _ => true

theorem connects_of_isRefused {entry : SessionEntry} (refused : entry.isRefused = true) :
    entry.connects = false := by
  unfold connects
  split
  · cases refused
  · rfl

theorem accepted?_of_isRefused {entry : SessionEntry} (refused : entry.isRefused = true) :
    entry.accepted? = none := by
  unfold accepted?
  split
  · cases refused
  · rfl

end SessionEntry

/-- Connecting has succeeded no more than once. -/
def SingleConnect (entries : List SessionEntry) : Prop :=
  entries.countP SessionEntry.connects ≤ 1

instance (entries : List SessionEntry) : Decidable (SingleConnect entries) :=
  inferInstanceAs (Decidable (_ ≤ 1))

namespace Session

def perform (s : Session) (now : Moment) : SessionCall → SessionEntry × Session
  | .connecting =>
    match s.connecting with
    | .ok after => (.connecting (.ok ()), after)
    | .error fault => (.connecting (.error fault), s)
  | .connected =>
    match s.connected now with
    | .ok after => (.connected (.ok ()), after)
    | .error fault => (.connected (.error fault), s)
  | .stamp m =>
    match s.stamp m now with
    | .ok (stamped, after) => (.stamp m (.ok stamped), after)
    | .error fault => (.stamp m (.error fault), s)
  | .inbound m =>
    let (answer, after) := s.inbound m now
    (.inbound m answer, after)
  | .poll =>
    let (answer, after) := s.poll now
    (.poll answer, after)
  | .disconnect => (.disconnect, s.disconnect)

/-- The session after some calls. -/
def after (s : Session) : List (Moment × SessionCall) → Session
  | [] => s
  | (now, call) :: rest => (s.perform now call).2.after rest

def diary (s : Session) : List (Moment × SessionCall) → List SessionEntry
  | [] => []
  | (now, call) :: rest => (s.perform now call).1 :: (s.perform now call).2.diary rest

theorem after_append (s : Session) (first rest : List (Moment × SessionCall)) :
    s.after (first ++ rest) = (s.after first).after rest := by
  induction first generalizing s with
  | nil => rfl
  | cons call first ih => exact ih _

theorem diary_append (s : Session) (first rest : List (Moment × SessionCall)) :
    s.diary (first ++ rest) = s.diary first ++ (s.after first).diary rest := by
  induction first generalizing s with
  | nil => rfl
  | cons call first ih => exact congrArg _ (ih _)

theorem length_diary (s : Session) (calls : List (Moment × SessionCall)) :
    (s.diary calls).length = calls.length := by
  induction calls generalizing s with
  | nil => rfl
  | cons call rest ih => exact congrArg _ (ih _)

/-- Every entry of a diary is the answer to the call in its place. -/
theorem exists_call_of_diary {s : Session} {calls : List (Moment × SessionCall)}
    {earlier later : List SessionEntry} {entry : SessionEntry}
    (split : s.diary calls = earlier ++ entry :: later) :
    ∃ before now call rest, calls = before ++ (now, call) :: rest ∧ s.diary before = earlier ∧
      ((s.after before).perform now call).1 = entry := by
  induction calls generalizing s earlier with
  | nil =>
    cases earlier <;> cases split
  | cons first rest ih =>
    obtain ⟨now, call⟩ := first
    cases earlier with
    | nil =>
      cases split
      exact ⟨[], now, call, rest, rfl, rfl, rfl⟩
    | cons answered earlier =>
      obtain ⟨first, others⟩ := List.cons.inj split
      obtain ⟨before, time, found, rest, rfl, told, answer⟩ := ih others
      refine ⟨(now, call) :: before, time, found, rest, rfl, ?_, answer⟩
      rw [diary, first, told]

/-- What is told about an incoming message is told by its call. -/
theorem call_of_perform {s : Session} {now : Moment} {call : SessionCall} {m : Message}
    {answer : Except SessionFault Inbound} (told : (s.perform now call).1 = .inbound m answer) :
    call = .inbound m ∧ (s.inbound m now).1 = answer := by
  cases call with
  | inbound received =>
    cases told
    exact ⟨rfl, rfl⟩
  | connecting | connected | stamp =>
    rw [perform] at told
    split at told <;> cases told
  | poll | disconnect => cases told

/-! ### What a call does -/

/-- What the calls of a session can come to: the entry in the diary and the session afterwards. -/
inductive Performed (s : Session) (now : Moment) : SessionEntry → Session → Prop
  | connecting : s.state = .disconnected →
      Performed s now (.connecting (.ok ())) { s with state := .connecting }
  | connected : s.state = .connecting →
      Performed s now (.connected (.ok ()))
        { s with state := .logonPending, liveness := .start s.liveness.interval now }
  | stamp {m stamped : Message} {after : Session} : s.stamp m now = .ok (stamped, after) →
      Performed s now (.stamp m (.ok stamped)) after
  | accept {m : Message} {answer : Inbound} {after : Session} : s.state.isConnected = true →
      s.InOrder m → Means (s.noticed m now) m answer after →
      Performed s now (.inbound m (.ok answer)) after
  | violate {m : Message} {fault : SessionFault} {after : Session} : s.state.isConnected = true →
      after.state = .disconnected → after.liveness.interval = s.liveness.interval →
      Performed s now (.inbound m (.error fault)) after
  | poll {answer : Option LivenessAction} {after : Session} : s.state = .active →
      after.state = .active ∨ after.state = .disconnected → after.sequences = s.sequences →
      after.liveness.interval = s.liveness.interval → Performed s now (.poll answer) after
  | disconnect : Performed s now .disconnect s.disconnect
  | refuse {entry : SessionEntry} : entry.isRefused = true → Performed s now entry s

theorem performed (s : Session) (now : Moment) (call : SessionCall) :
    Performed s now (s.perform now call).1 (s.perform now call).2 := by
  cases call with
  | connecting =>
    rw [perform]
    cases moved : s.connecting with
    | error fault => exact .refuse rfl
    | ok after =>
      obtain ⟨apart, rfl⟩ := connecting_eq_ok moved
      exact .connecting apart
  | connected =>
    rw [perform]
    cases moved : s.connected now with
    | error fault => exact .refuse rfl
    | ok after =>
      obtain ⟨pending, rfl⟩ := connected_eq_ok moved
      exact .connected pending
  | stamp m =>
    rw [perform]
    cases stamps : s.stamp m now with
    | error fault => exact .refuse rfl
    | ok result => exact .stamp stamps
  | inbound m =>
    rw [perform]
    -- Without a connection a message is refused like any other call; with one, a fault ends the
    -- session.
    cases connected : s.state.isConnected with
    | false =>
      rw [inbound_of_not_connected m now connected]
      exact .refuse rfl
    | true =>
      rcases answered : s.inbound m now with ⟨fault | answer, after⟩
      · obtain ⟨ended, interval⟩ := inbound_of_error connected answered
        exact .violate connected ended interval
      · obtain ⟨-, inOrder, means⟩ := (inbound_eq_ok_iff ..).mp answered
        exact .accept connected inOrder means
  | poll =>
    rw [perform]
    -- The timers of a session that is not active are not looked at.
    by_cases active : s.state = .active
    · obtain ⟨-, sequences, state⟩ := s.poll_keeps now
      rw [active] at state
      exact .poll active state sequences (interval_poll s now)
    · rw [poll_of_not_active now active]
      exact .refuse rfl
  | disconnect => exact .disconnect

/-! ### Whole diaries -/

/-- Nothing but connecting again does anything to a session that has ended. -/
theorem perform_of_disconnected {s : Session} (ended : s.state = .disconnected) {now : Moment}
    {call : SessionCall} (silent : (s.perform now call).1.connects = false) :
    (s.perform now call).1.isRefused = true ∧ (s.perform now call).2 = s := by
  have performed := s.performed now call
  revert performed silent
  generalize s.perform now call = result
  obtain ⟨entry, after⟩ := result
  intro silent performed
  cases performed with
  | connecting => cases silent
  | connected pending =>
    rw [ended] at pending
    cases pending
  | stamp stamps =>
    obtain ⟨may, -⟩ := (stamp_eq_ok_iff ..).mp stamps
    rw [maySend, ended] at may
    cases may
  | accept connected | violate connected =>
    rw [ended] at connected
    cases connected
  | poll active =>
    rw [ended] at active
    cases active
  | disconnect =>
    refine ⟨rfl, ?_⟩
    show ({ s with state := .disconnected } : Session) = s
    rw [← ended]
  | refuse refused => exact ⟨refused, rfl⟩

theorem diary_of_disconnected {s : Session} (ended : s.state = .disconnected)
    {calls : List (Moment × SessionCall)}
    (silent : (s.diary calls).countP SessionEntry.connects = 0) :
    (∀ entry ∈ s.diary calls, entry.isRefused = true) ∧ s.after calls = s := by
  induction calls with
  | nil => exact ⟨by simp [diary], rfl⟩
  | cons first rest ih =>
    obtain ⟨now, call⟩ := first
    rw [diary, List.countP_cons] at silent
    obtain ⟨none, quiet⟩ := Nat.add_eq_zero_iff.mp silent
    have unconnected : (s.perform now call).1.connects = false := by
      simpa using quiet
    obtain ⟨refused, same⟩ := perform_of_disconnected ended unconnected
    rw [same] at none
    obtain ⟨others, unchanged⟩ := ih none
    rw [diary, after, same]
    exact ⟨List.forall_mem_cons.mpr ⟨refused, others⟩, unchanged⟩

/-- What holds of a session that has not been connected, holds of it as soon as it is, and is kept by
everything else a call can come to, holds of its life. Before the connection nothing comes of any
call. -/
theorem diary_induction {P : List SessionEntry → Session → Prop} {s : Session}
    (apart : s.state = .disconnected) (start : P [] s)
    (connect : ∀ entries, (∀ entry ∈ entries, entry.isRefused = true) →
      P (entries ++ [.connecting (.ok ())]) { s with state := .connecting })
    (step : ∀ entries t now entry after, P entries t → Performed t now entry after →
      entry.connects = false → P (entries ++ [entry]) after)
    (calls : List (Moment × SessionCall)) (single : SingleConnect (s.diary calls)) :
    P (s.diary calls) (s.after calls) := by
  induction calls using List.reverseRecOn with
  | nil => exact start
  | append_singleton calls last ih =>
    obtain ⟨now, call⟩ := last
    rw [diary_append] at single ⊢
    rw [after_append]
    rw [SingleConnect, List.countP_append] at single
    have before := ih (Nat.le_trans (Nat.le_add_right _ _) single)
    have performed := (s.after calls).performed now call
    cases connects : ((s.after calls).perform now call).1.connects with
    | false => exact step _ _ now _ _ before performed connects
    | true =>
      -- There has been no other connection, so the session is still the one it was.
      have fresh : (s.diary calls).countP SessionEntry.connects = 0 := by
        rw [diary, List.countP_cons_of_pos connects] at single
        omega
      obtain ⟨refused, same⟩ := diary_of_disconnected apart fresh
      rw [same] at performed connects ⊢
      rw [diary, diary, after, after]
      generalize s.perform now call = result at performed connects
      obtain ⟨entry, after⟩ := result
      cases performed with
      | connecting => exact connect _ refused
      | connected | stamp | accept | violate | poll | disconnect => cases connects
      | refuse silent =>
        rw [SessionEntry.connects_of_isRefused silent] at connects
        cases connects

end Session

end FixBench
