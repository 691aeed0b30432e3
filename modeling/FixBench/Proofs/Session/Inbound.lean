import FixBench.Proofs.Failing
import FixBench.Proofs.Session.Operations

/-!
# What a session makes of an incoming message

A connected session refuses a message for its number, for its identifiers or for what it means, in
this order, and every refusal ends it. The number is refused exactly when the field shows no number
(`Unreadable`), a smaller or a larger one than the one that is due (`inbound_number_fault_iff`). What is
not refused `Means` one of five things (`inbound_eq_ok_iff`).
-/
namespace FixBench

/-- The number of an incoming message is not the one expected. -/
def SessionFault.concernsNumber : SessionFault → Bool
  | sequenceGap .. | sequenceTooLow .. | invalidSeqNum _ => true
  | _ => false

theorem SessionFault.concernsHeader_of_concernsNumber {fault : SessionFault}
    (concerns : fault.concernsNumber = true) : fault.concernsHeader = true := by
  cases fault with
  | sequenceGap | sequenceTooLow | invalidSeqNum => rfl
  | _ => cases concerns

/-- The session takes no part in messages of this type. -/
structure MsgType.IsBusiness (type : MsgType) : Prop where
  not_logout : type ≠ .logout
  not_logon : type ≠ .logon
  not_heartbeat : type ≠ .heartbeat
  not_testRequest : type ≠ .testRequest

/-! ### Numbers -/

namespace SequenceNumbers

/-- A text shows a number by its digits alone, and the number is in range. -/
structure Denotes (text : String) (n : Nat) : Prop where
  nonempty : text ≠ ""
  digits : ∀ c ∈ text.toList, c.isDigit = true
  value : Nat.ofDigitChars 10 text.toList 0 = n
  small : n < Numeral.limit64

/-- A field that is missing or empty, has a character that is no digit, or is out of range. -/
def Unreadable : Option String → Prop
  | none => True
  | some text =>
    text = "" ∨ (∃ c ∈ text.toList, c.isDigit = false) ∨
      Numeral.limit64 ≤ Nat.ofDigitChars 10 text.toList 0

theorem read?_eq_some_iff (raw : Option String) (n : Nat) :
    read? raw = some n ↔ ∃ text, raw = some text ∧ Denotes text n := by
  cases raw with
  | none => simp [read?]
  | some text =>
    simp only [read?, Option.some.injEq, exists_eq_left']
    constructor
    · intro found
      split at found
      · rename_i value read
        split at found
        · rename_i small
          obtain ⟨nonempty, digits, shown⟩ := (Numeral.digitsValue?_encode_iff text value).mp read
          cases found
          exact ⟨nonempty, digits, shown, small⟩
        · cases found
      · cases found
    · rintro ⟨nonempty, digits, shown, small⟩
      have read := (Numeral.digitsValue?_encode_iff text n).mpr ⟨nonempty, digits, shown⟩
      simp only [read, if_pos small]

theorem read?_eq_none_iff (raw : Option String) : read? raw = none ↔ Unreadable raw := by
  rw [Option.eq_none_iff_forall_ne_some]
  cases raw with
  | none => simp [read?, Unreadable]
  | some text =>
    simp only [ne_eq, read?_eq_some_iff, Option.some.injEq, exists_eq_left', Unreadable]
    constructor
    · intro none
      -- Whatever keeps the text from showing its own value is one of the three.
      by_contra readable
      push Not at readable
      obtain ⟨nonempty, digits, small⟩ := readable
      exact none _ ⟨nonempty, fun c member => by simpa using digits c member, rfl, small⟩
    · rintro (empty | ⟨c, member, other⟩ | large) n denotes
      · exact denotes.nonempty empty
      · rw [denotes.digits c member] at other
        cases other
      · rw [denotes.value] at large
        exact absurd denotes.small (Nat.not_lt.mpr large)

theorem accept_eq_ok_iff (s : SequenceNumbers) (raw : Option String) (n : Nat)
    (after : SequenceNumbers) :
    s.accept raw = .ok (n, after) ↔
      read? raw = some n ∧ n = s.nextIn ∧ after = { s with nextIn := following s.nextIn } := by
  constructor
  · intro accepted
    unfold accept at accepted
    split at accepted
    · cases accepted
    · rename_i received read
      split at accepted
      · cases accepted
      · split at accepted
        · cases accepted
        · rename_i notBelow notAbove
          cases accepted
          exact ⟨read, Nat.le_antisymm (Nat.not_lt.mp notAbove) (Nat.not_lt.mp notBelow), rfl⟩
  · rintro ⟨read, rfl, rfl⟩
    exact accept_of_due read

theorem accept_eq_error_iff (s : SequenceNumbers) (raw : Option String) (fault : SessionFault) :
    s.accept raw = .error fault ↔
      (read? raw = none ∧ fault = .invalidSeqNum raw) ∨
        ∃ n, read? raw = some n ∧
          ((n < s.nextIn ∧ fault = .sequenceTooLow s.nextIn n) ∨
            (s.nextIn < n ∧ fault = .sequenceGap s.nextIn n)) := by
  unfold accept
  cases read : read? raw with
  | none => simp [eq_comm]
  | some n =>
    rcases Nat.lt_trichotomy n s.nextIn with below | rfl | above
    · simp [below, Nat.not_lt_of_lt below, eq_comm]
    · simp
    · simp [above, Nat.not_lt_of_lt above, eq_comm]

end SequenceNumbers

namespace Session

variable {s after : Session} {m : Message} {now : Moment}

/-! ### Refusals -/

theorem checkCompId_eq_ok_iff (m : Message) (tag : Tag) (expected : CompId) :
    checkCompId m tag expected = .ok () ↔ m.get tag = some expected.text := by
  have named := expected.nonempty
  unfold checkCompId
  cases found : m.get tag with
  | none =>
    -- What is missing counts as empty, and no identifier is.
    simp [Ne.symm named]
  | some received => simp

theorem checkCompId_fault {tag : Tag} {expected : CompId} {fault : SessionFault}
    (refused : checkCompId m tag expected = .error fault) : fault.concernsNumber = false := by
  simp only [checkCompId] at refused
  split at refused
  · cases refused
  · cases refused
    rfl

theorem checkCompIds_eq_ok_iff (s : Session) (m : Message) :
    s.checkCompIds m = .ok () ↔
      m.get Tag.senderCompId = some s.config.target.text ∧
        m.get Tag.targetCompId = some s.config.sender.text := by
  rw [checkCompIds, check_bind_eq_ok_iff, checkCompId_eq_ok_iff, checkCompId_eq_ok_iff]

theorem checkCompIds_fault {fault : SessionFault} (refused : s.checkCompIds m = .error fault) :
    fault.concernsNumber = false := by
  rw [checkCompIds, bind_eq_error_iff] at refused
  obtain sender | ⟨_, -, target⟩ := refused
  · exact checkCompId_fault sender
  · exact checkCompId_fault target

/-- The number is checked first, then the identifiers, and only a message in order is dispatched. -/
theorem receive_cases (s : Session) (m : Message) (now : Moment) :
    (∃ fault, s.sequences.accept (m.get Tag.msgSeqNum) = .error fault ∧
        s.receive m now = (.error fault, s)) ∨
      (∃ result fault, s.sequences.accept (m.get Tag.msgSeqNum) = .ok result ∧
        s.checkCompIds m = .error fault ∧
        s.receive m now = (.error fault, { s with sequences := result.2 })) ∨
      s.InOrder m := by
  cases accepted : s.sequences.accept (m.get Tag.msgSeqNum) with
  | error fault =>
    left
    exact ⟨fault, rfl, by simp only [receive, accepted]⟩
  | ok result =>
    right
    cases checked : s.checkCompIds m with
    | error fault =>
      left
      -- The identifiers are compared after the counter has moved, which makes no difference to them.
      have later : ({ s with sequences := result.2 } : Session).checkCompIds m = .error fault :=
        checked
      exact ⟨result, fault, rfl, rfl, by simp only [receive, accepted, later]⟩
    | ok =>
      right
      obtain ⟨number, due, -⟩ := (SequenceNumbers.accept_eq_ok_iff ..).mp accepted
      obtain ⟨sender, target⟩ := (checkCompIds_eq_ok_iff s m).mp checked
      exact ⟨due ▸ number, sender, target⟩

@[simp]
theorem state_noticed (s : Session) (m : Message) (now : Moment) :
    (s.noticed m now).state = s.state := rfl

/-- After a refusal the session has ended, and keeps the interval it has worked with. -/
theorem inbound_of_error (connected : s.state.isConnected = true) {fault : SessionFault}
    (refused : s.inbound m now = (.error fault, after)) :
    after.state = .disconnected ∧ after.liveness.interval = s.liveness.interval := by
  rw [inbound, if_pos connected] at refused
  rcases s.receive_cases m now with ⟨_, _, received⟩ | ⟨_, _, _, _, received⟩ | inOrder
  · rw [received] at refused
    cases refused
    exact ⟨rfl, rfl⟩
  · rw [received] at refused
    cases refused
    exact ⟨rfl, rfl⟩
  · rw [receive_of_inOrder now inOrder] at refused
    cases dispatched : (s.noticed m now).dispatch m with
    | ok => simp [dispatched] at refused
    | error =>
      simp only [dispatched] at refused
      cases refused
      exact ⟨rfl, rfl⟩

/-- No check but that of the number blames the number. -/
theorem inbound_number_fault_iff (connected : s.state.isConnected = true) {fault : SessionFault}
    (concerns : fault.concernsNumber = true) :
    (s.inbound m now).1 = .error fault ↔
      s.sequences.accept (m.get Tag.msgSeqNum) = .error fault := by
  have blameless {other : SessionFault} (silent : other.concernsNumber = false) : other ≠ fault := by
    rintro rfl
    rw [concerns] at silent
    cases silent
  rw [inbound, if_pos connected]
  -- The number is checked first; both later checks only fail with faults that do not blame it.
  rcases s.receive_cases m now with ⟨first, refused, received⟩ |
    ⟨result, second, accepted, mismatch, received⟩ | inOrder
  · rw [received, refused, Except.error.injEq, Except.error.injEq]
  · rw [received, accepted]
    simp [blameless (checkCompIds_fault mismatch)]
  · rw [receive_of_inOrder now inOrder, SequenceNumbers.accept_of_due inOrder.number]
    cases dispatched : (s.noticed m now).dispatch m with
    | ok => simp
    | error third =>
      have silent : third ≠ fault := by
        rintro rfl
        have header := dispatch_fault dispatched
        rw [SessionFault.concernsHeader_of_concernsNumber concerns] at header
        cases header
      simp [silent]

theorem inbound_eq_invalidSeqNum_iff (connected : s.state.isConnected = true)
    (value : Option String) :
    (s.inbound m now).1 = .error (.invalidSeqNum value) ↔
      value = m.get Tag.msgSeqNum ∧ SequenceNumbers.Unreadable (m.get Tag.msgSeqNum) := by
  rw [inbound_number_fault_iff connected rfl, SequenceNumbers.accept_eq_error_iff,
    ← SequenceNumbers.read?_eq_none_iff]
  constructor
  · rintro (⟨unread, blamed⟩ | ⟨n, -, ⟨-, blamed⟩ | ⟨-, blamed⟩⟩)
    · cases blamed
      exact ⟨rfl, unread⟩
    · cases blamed
    · cases blamed
  · rintro ⟨rfl, unread⟩
    exact Or.inl ⟨unread, rfl⟩

theorem inbound_eq_sequenceTooLow_iff (connected : s.state.isConnected = true)
    (expected received : Nat) :
    (s.inbound m now).1 = .error (.sequenceTooLow expected received) ↔
      expected = s.sequences.nextIn ∧ received < s.sequences.nextIn ∧
        ∃ text, m.get Tag.msgSeqNum = some text ∧ SequenceNumbers.Denotes text received := by
  rw [inbound_number_fault_iff connected rfl, SequenceNumbers.accept_eq_error_iff,
    ← SequenceNumbers.read?_eq_some_iff]
  constructor
  · rintro (⟨-, blamed⟩ | ⟨n, read, ⟨below, blamed⟩ | ⟨-, blamed⟩⟩)
    · cases blamed
    · cases blamed
      exact ⟨rfl, below, read⟩
    · cases blamed
  · rintro ⟨rfl, below, read⟩
    exact Or.inr ⟨received, read, Or.inl ⟨below, rfl⟩⟩

theorem inbound_eq_sequenceGap_iff (connected : s.state.isConnected = true)
    (expected received : Nat) :
    (s.inbound m now).1 = .error (.sequenceGap expected received) ↔
      expected = s.sequences.nextIn ∧ s.sequences.nextIn < received ∧
        ∃ text, m.get Tag.msgSeqNum = some text ∧ SequenceNumbers.Denotes text received := by
  rw [inbound_number_fault_iff connected rfl, SequenceNumbers.accept_eq_error_iff,
    ← SequenceNumbers.read?_eq_some_iff]
  constructor
  · rintro (⟨-, blamed⟩ | ⟨n, read, ⟨-, blamed⟩ | ⟨above, blamed⟩⟩)
    · cases blamed
    · cases blamed
    · cases blamed
      exact ⟨rfl, above, read⟩
  · rintro ⟨rfl, above, read⟩
    exact Or.inr ⟨received, read, Or.inr ⟨above, rfl⟩⟩

/-! ### Meanings -/

/-- The session once a logon has been accepted that asks for so many seconds. -/
def welcomed (s : Session) (m : Message) (seconds : Nat) : Session :=
  { s with
    state := .active
    liveness := { s.liveness with
      interval := if 0 < seconds then .ofSeconds seconds else s.liveness.interval }
    counterpartySubId := m.get Tag.senderSubId }

/-- What a message in order means to a session, and what becomes of the session. -/
inductive Means (s : Session) (m : Message) : Inbound → Session → Prop
  | logout : m.msgType = .logout → Means s m .logout s
  | logon {seconds : Nat} : m.msgType = .logon → s.state = .logonPending →
      negotiatedInterval (m.get Tag.heartBtInt) = .ok seconds →
      Means s m (.logonAccepted seconds) (s.welcomed m seconds)
  | heartbeat : m.msgType = .heartbeat → s.state ≠ .logonPending → Means s m (.admin none) s
  | testRequest : m.msgType = .testRequest → s.state ≠ .logonPending →
      Means s m (.admin (some (s.heartbeatReply m))) s
  | business : m.msgType.IsBusiness → s.state ≠ .logonPending → Means s m .deliver s

theorem means_of_dispatch {answer : Inbound} (dispatched : s.dispatch m = .ok (answer, after)) :
    Means s m answer after := by
  unfold dispatch at dispatched
  split at dispatched
  · rename_i typed
    cases dispatched
    exact .logout typed
  · rename_i pending typed
    obtain ⟨seconds, negotiated, rfl, rfl⟩ := acceptLogon_eq_ok dispatched
    exact .logon typed pending negotiated
  · cases dispatched
  · cases dispatched
  · rename_i typed apart
    cases dispatched
    exact .heartbeat typed apart
  · rename_i typed apart
    cases dispatched
    exact .testRequest typed apart
  · rename_i apart noLogout noLogon noHeartbeat noTestRequest _
    cases dispatched
    exact .business ⟨noLogout, noLogon, noHeartbeat, noTestRequest⟩ apart

theorem dispatch_of_means {answer : Inbound} (means : Means s m answer after) :
    s.dispatch m = .ok (answer, after) := by
  cases means with
  | logout typed => simp [dispatch, typed]
  | logon typed pending negotiated =>
    simp [dispatch, typed, pending, acceptLogon, negotiated, bind, Except.bind, moveTo,
      SessionState.moveTo, SessionState.canMoveTo, Except.map, pure, Except.pure, welcomed]
  | heartbeat typed apart => simp [dispatch, typed]
  | testRequest typed apart => simp [dispatch, typed]
  | business other apart =>
    obtain ⟨noLogout, noLogon, noHeartbeat, noTestRequest⟩ := other
    unfold dispatch
    split <;> first | contradiction | rfl

/-- A message is accepted by a connected session exactly when it is in order and means something to
it. -/
theorem inbound_eq_ok_iff (s : Session) (m : Message) (now : Moment) (answer : Inbound)
    (after : Session) :
    s.inbound m now = (.ok answer, after) ↔
      s.state.isConnected = true ∧ s.InOrder m ∧ Means (s.noticed m now) m answer after := by
  cases connected : s.state.isConnected with
  | false =>
    rw [inbound_of_not_connected m now connected]
    simp
  | true =>
    rw [inbound, if_pos connected]
    -- A wrong number and a wrong identifier are found before the message is looked at any further.
    rcases s.receive_cases m now with ⟨fault, refused, received⟩ |
      ⟨result, fault, accepted, mismatch, received⟩ | inOrder
    · have astray : ¬ s.InOrder m := by
        intro inOrder
        rw [SequenceNumbers.accept_of_due inOrder.number] at refused
        cases refused
      simp [received, astray]
    · have astray : ¬ s.InOrder m := by
        intro inOrder
        rw [checkCompIds_of_inOrder inOrder] at mismatch
        cases mismatch
      simp [received, astray]
    · rw [receive_of_inOrder now inOrder]
      constructor
      · intro answered
        cases dispatched : (s.noticed m now).dispatch m with
        | error fault => simp [dispatched] at answered
        | ok result =>
          simp only [dispatched] at answered
          cases answered
          exact ⟨rfl, inOrder, means_of_dispatch dispatched⟩
      · rintro ⟨-, -, means⟩
        simp only [dispatch_of_means means]

/-- An active session has an answer to everything in order but a logon, and does nothing about it
itself. -/
theorem inbound_of_active (active : s.state = .active) (inOrder : s.InOrder m)
    (no_logon : m.msgType ≠ .logon) (now : Moment) :
    ∃ answer, s.inbound m now = (.ok answer, s.noticed m now) ∧
      ((m.msgType = .logout ∧ answer = .logout) ∨
        (m.msgType = .heartbeat ∧ answer = .admin none) ∨
        (m.msgType = .testRequest ∧
          answer = .admin (some ((s.noticed m now).heartbeatReply m))) ∨
        (m.msgType.IsBusiness ∧ answer = .deliver)) := by
  have connected : s.state.isConnected = true := by rw [active]; rfl
  have apart : (s.noticed m now).state ≠ .logonPending := by simp [active]
  have meant {answer : Inbound} (means : Means (s.noticed m now) m answer (s.noticed m now)) :
      s.inbound m now = (.ok answer, s.noticed m now) :=
    (inbound_eq_ok_iff ..).mpr ⟨connected, inOrder, means⟩
  by_cases logout : m.msgType = .logout
  · exact ⟨_, meant (.logout logout), Or.inl ⟨logout, rfl⟩⟩
  by_cases heartbeat : m.msgType = .heartbeat
  · exact ⟨_, meant (.heartbeat heartbeat apart), Or.inr (Or.inl ⟨heartbeat, rfl⟩)⟩
  by_cases testRequest : m.msgType = .testRequest
  · exact ⟨_, meant (.testRequest testRequest apart), Or.inr (Or.inr (Or.inl ⟨testRequest, rfl⟩))⟩
  have business : m.msgType.IsBusiness := ⟨logout, no_logon, heartbeat, testRequest⟩
  exact ⟨_, meant (.business business apart), Or.inr (Or.inr (Or.inr ⟨business, rfl⟩))⟩

end Session

end FixBench
