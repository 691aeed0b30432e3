import FixBench.Proofs.Session.Diary

/-!
# The numbering of incoming messages

A session that is connected once accepts messages numbered from one upwards, and nothing comes of any
call after it has refused one. The counter moves before the identifiers and the meaning of a message
are looked at, so after a refusal it may be ahead of the messages accepted. But then the session has
ended, and it waits for the number after the accepted ones only as long as it goes on.
-/
namespace FixBench

/-- The messages accepted, oldest first. -/
def acceptedMessages (entries : List SessionEntry) : List Message :=
  entries.filterMap SessionEntry.accepted?

theorem length_acceptedMessages_le (entries : List SessionEntry) :
    (acceptedMessages entries).length ≤ entries.length :=
  List.length_filterMap_le _ _

namespace SequenceNumbers

/-- The number of the message at a place, counted from zero. -/
def atPlace (k : Nat) : Nat := (k + 1) % Numeral.limit64

theorem following_atPlace (k : Nat) : following (atPlace k) = atPlace (k + 1) :=
  Nat.mod_add_mod (k + 1) Numeral.limit64 1

end SequenceNumbers

namespace Session

theorem ne_disconnected_of_isConnected {s : Session} (connected : s.state.isConnected = true) :
    s.state ≠ .disconnected := by
  intro ended
  rw [ended] at connected
  cases connected

/-- What a diary shows about the numbers of a session. -/
structure Numbers (entries : List SessionEntry) (s : Session) : Prop where
  /-- Unless it has ended, the session waits for the number after the accepted ones. -/
  due : s.state ≠ .disconnected →
    s.sequences.nextIn = SequenceNumbers.atPlace (acceptedMessages entries).length
  accepted : ∀ k m, (acceptedMessages entries)[k]? = some m →
    SequenceNumbers.read? (m.get Tag.msgSeqNum) = some (SequenceNumbers.atPlace k)

namespace Numbers

variable {entries : List SessionEntry} {s after : Session} {now : Moment} {entry : SessionEntry}

theorem create (config : SessionConfig) (now : Moment) : Numbers [] (Session.create config now) where
  due _ := rfl
  accepted := by rintro k m ⟨⟩

theorem connecting (first : s.sequences = .initial)
    (refused : ∀ entry ∈ entries, entry.isRefused = true) :
    Numbers (entries ++ [.connecting (.ok ())]) { s with state := .connecting } := by
  have none : acceptedMessages (entries ++ [.connecting (.ok ())]) = [] := by
    rw [acceptedMessages, List.filterMap_eq_nil_iff]
    intro entry member
    rw [List.mem_append, List.mem_singleton] at member
    rcases member with earlier | rfl
    · exact SessionEntry.accepted?_of_isRefused (refused entry earlier)
    · rfl
  refine ⟨fun _ => ?_, ?_⟩
  · rw [none, first]
    rfl
  · rw [none]
    rintro k m ⟨⟩

/-- A call that accepts no message changes nothing about a session that goes on. -/
theorem keep (numbers : Numbers entries s) (none : entry.accepted? = none)
    (due : after.state ≠ .disconnected →
      s.state ≠ .disconnected ∧ after.sequences.nextIn = s.sequences.nextIn) :
    Numbers (entries ++ [entry]) after := by
  have messages : acceptedMessages (entries ++ [entry]) = acceptedMessages entries := by
    simp [acceptedMessages, none]
  refine ⟨fun ongoing => ?_, ?_⟩
  · obtain ⟨before, same⟩ := due ongoing
    rw [messages, same]
    exact numbers.due before
  · rw [messages]
    exact numbers.accepted

theorem accept (numbers : Numbers entries s) {m : Message} {answer : Inbound}
    (connected : s.state.isConnected = true) (inOrder : s.InOrder m)
    (means : Means (s.noticed m now) m answer after) :
    Numbers (entries ++ [.inbound m (.ok answer)]) after := by
  have messages : acceptedMessages (entries ++ [.inbound m (.ok answer)]) =
      acceptedMessages entries ++ [m] := by
    simp [acceptedMessages, SessionEntry.accepted?]
  have waited := numbers.due (ne_disconnected_of_isConnected connected)
  refine ⟨fun _ => ?_, ?_⟩
  · -- The counter has moved on by this message, whatever it means.
    rw [(dispatch_keeps (dispatch_of_means means)).2, messages, List.length_append,
      List.length_singleton, ← SequenceNumbers.following_atPlace, ← waited]
    rfl
  · intro k m' found
    rw [messages, List.getElem?_append] at found
    split at found
    · exact numbers.accepted k m' found
    · rw [List.getElem?_singleton] at found
      split at found
      · rename_i place
        cases found
        have last : k = (acceptedMessages entries).length := by omega
        rw [last, ← waited]
        exact inOrder.number
      · cases found

theorem step (numbers : Numbers entries s) (performed : Performed s now entry after)
    (apart : entry.connects = false) : Numbers (entries ++ [entry]) after := by
  cases performed with
  | connecting => cases apart
  | connected pending =>
    refine numbers.keep rfl fun _ => ⟨?_, rfl⟩
    rw [pending]
    decide
  | stamp stamps =>
    obtain ⟨-, -, rfl⟩ := (stamp_eq_ok_iff ..).mp stamps
    exact numbers.keep rfl fun ongoing => ⟨ongoing, rfl⟩
  | accept connected inOrder means => exact numbers.accept connected inOrder means
  | violate connected ended => exact numbers.keep rfl fun ongoing => absurd ended ongoing
  | poll active state sequences =>
    refine numbers.keep rfl fun _ => ⟨?_, by rw [sequences]⟩
    rw [active]
    decide
  | disconnect => exact numbers.keep rfl fun ongoing => absurd rfl ongoing
  | refuse refused =>
    exact numbers.keep (SessionEntry.accepted?_of_isRefused refused) fun ongoing => ⟨ongoing, rfl⟩

/-- Over the life of a session. -/
theorem diary (config : SessionConfig) (created : Moment) (calls : List (Moment × SessionCall))
    (single : SingleConnect ((Session.create config created).diary calls)) :
    Numbers ((Session.create config created).diary calls)
      ((Session.create config created).after calls) :=
  diary_induction rfl (create config created)
    (fun _ refused => connecting rfl refused)
    (fun _ _ _ _ _ numbers performed apart => numbers.step performed apart) calls single

end Numbers

/-- A violation is final, unless the session is connected once more. -/
theorem inbound_fault_final {s : Session} (apart : s.state = .disconnected)
    {calls later : List (Moment × SessionCall)} {m : Message} {now : Moment} {fault : SessionFault}
    (connected : (s.after calls).state.isConnected = true)
    (refused : ((s.after calls).inbound m now).1 = .error fault)
    (single : SingleConnect (s.diary (calls ++ (now, .inbound m) :: later))) :
    let ended := ((s.after calls).inbound m now).2
    ended.state = .disconnected ∧ (∀ entry ∈ ended.diary later, entry.isRefused = true) ∧
      ended.after later = ended := by
  have ended := (inbound_of_error connected (Prod.ext refused rfl)).1
  have once : (s.diary calls).countP SessionEntry.connects ≠ 0 := by
    intro fresh
    rw [(diary_of_disconnected apart fresh).2, apart] at connected
    cases connected
  -- The one connection there is has been made, so none is left for what comes later.
  have silent : (((s.after calls).inbound m now).2.diary later).countP SessionEntry.connects = 0 := by
    rw [SingleConnect, diary_append, List.countP_append, Session.diary, List.countP_cons] at single
    show List.countP _ (((s.after calls).perform now (.inbound m)).2.diary later) = 0
    omega
  exact ⟨ended, diary_of_disconnected ended silent⟩

/-- **Incoming messages are numbered without gaps, and a violation is final.** Take any life of a
session through a single connection.
The messages it has accepted carry the numbers from one upwards, in 64-bit arithmetic always and in plain
numbers in every life too short to exhaust these.
While it is connected it waits for the number after these. It blames the number of an incoming message
if and only if the field shows none, or a smaller or a larger one.
And whatever it has refused a message for, it has ended; of what comes later every call is
refused, and the session stays as it is. -/
theorem inbound_numbering (config : SessionConfig) (created : Moment)
    (calls : List (Moment × SessionCall))
    (single : SingleConnect ((create config created).diary calls)) :
    let entries := (create config created).diary calls
    let s := (create config created).after calls
    let due := SequenceNumbers.atPlace (acceptedMessages entries).length
    (∀ k m, (acceptedMessages entries)[k]? = some m →
      ∃ text, m.get Tag.msgSeqNum = some text ∧
        SequenceNumbers.Denotes text (SequenceNumbers.atPlace k) ∧
        (calls.length < Numeral.limit64 → SequenceNumbers.Denotes text (k + 1))) ∧
      (s.state.isConnected = true → s.sequences.nextIn = due ∧
        ∀ m now, let answer := (s.inbound m now).1
          let raw := m.get Tag.msgSeqNum
          (∀ value, answer = .error (.invalidSeqNum value) ↔
              value = raw ∧ SequenceNumbers.Unreadable raw) ∧
            (∀ expected received, answer = .error (.sequenceTooLow expected received) ↔
              expected = due ∧ received < due ∧
                ∃ text, raw = some text ∧ SequenceNumbers.Denotes text received) ∧
            (∀ expected received, answer = .error (.sequenceGap expected received) ↔
              expected = due ∧ due < received ∧
                ∃ text, raw = some text ∧ SequenceNumbers.Denotes text received) ∧
            (∀ fault, answer = .error fault → ∀ later,
              SingleConnect ((create config created).diary (calls ++ (now, .inbound m) :: later)) →
              let ended := (s.inbound m now).2
              ended.state = .disconnected ∧ (∀ entry ∈ ended.diary later, entry.isRefused = true) ∧
                ended.after later = ended)) := by
  intro entries s due
  have numbers : Numbers entries s := Numbers.diary config created calls single
  refine ⟨?_, fun connected => ?_⟩
  -- The accepted messages are numbered by their places; the counter does not wrap in a short run.
  · intro k m found
    obtain ⟨text, shown, denotes⟩ :=
      (SequenceNumbers.read?_eq_some_iff _ _).mp (numbers.accepted k m found)
    refine ⟨text, shown, denotes, fun short => ?_⟩
    have place : k < calls.length := by
      have inside := (List.getElem?_eq_some_iff.mp found).1
      have answered := length_acceptedMessages_le entries
      rw [length_diary] at answered
      omega
    have plain : SequenceNumbers.atPlace k = k + 1 := Nat.mod_eq_of_lt (by omega)
    rwa [plain] at denotes
  -- The number a connected session waits for is the next place.
  · have waited : s.sequences.nextIn = due :=
      numbers.due (ne_disconnected_of_isConnected connected)
    refine ⟨waited, fun m now => ⟨?_, ?_, ?_, ?_⟩⟩
    · exact inbound_eq_invalidSeqNum_iff connected
    · rw [← waited]
      exact inbound_eq_sequenceTooLow_iff connected
    · rw [← waited]
      exact inbound_eq_sequenceGap_iff connected
    · intro fault refused later once
      exact inbound_fault_final rfl connected refused once

/-- A logon and a heartbeat are accepted. The sign of the next number shows that it is not in digits
alone, and even a message that carries the number due comes too late after that. -/
theorem inbound_numbering_signed :
    let config : SessionConfig :=
      .default ⟨"S", by decide, by decide⟩ ⟨"C", by decide, by decide⟩ "FIX.4.4"
    let message (type : MsgType) (number : String) : Message :=
      (((Message.ofType "FIX.4.4" type).set Tag.senderCompId "C").set Tag.targetCompId "S").set
        Tag.msgSeqNum number
    let now : Moment := ⟨⟨0⟩, 0⟩
    let calls : List (Moment × SessionCall) :=
      [(now, .connecting), (now, .connected), (now, .inbound (message .logon "1")),
        (now, .inbound (message .heartbeat "002"))]
    let later : List (Moment × SessionCall) :=
      [(now, .inbound (message .heartbeat "3")), (now, .stamp (message .logout "1")), (now, .poll)]
    let s := (create config now).after calls
    let ended := (s.inbound (message .heartbeat "+3") now).2
    SingleConnect ((create config now).diary calls) ∧
      acceptedMessages ((create config now).diary calls) =
        [message .logon "1", message .heartbeat "002"] ∧
      (s.inbound (message .heartbeat "+3") now).1 = .error (.invalidSeqNum (some "+3")) ∧
      (∀ entry ∈ ended.diary later, entry.isRefused = true) ∧ ended.after later = ended := by
  intro config message now calls later s ended
  have single : SingleConnect ((create config now).diary calls) := by decide +kernel
  have connected : s.state.isConnected = true := by decide +kernel
  obtain ⟨-, waiting⟩ := inbound_numbering config now calls single
  obtain ⟨-, blames⟩ := waiting connected
  obtain ⟨unreadable, -, -, final⟩ := blames (message .heartbeat "+3") now
  have signed : SequenceNumbers.Unreadable (some "+3") := by
    refine Or.inr (Or.inl ⟨'+', ?_, rfl⟩)
    decide +kernel
  have refused := (unreadable (some "+3")).mpr ⟨by decide +kernel, signed⟩
  have still : SingleConnect ((create config now).diary
      (calls ++ (now, .inbound (message .heartbeat "+3")) :: later)) := by decide +kernel
  obtain ⟨-, silent, unchanged⟩ := final _ refused later still
  exact ⟨single, by decide +kernel, refused, silent, unchanged⟩

end Session

end FixBench
