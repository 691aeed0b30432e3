import FixBench.Proofs.Failing
import FixBench.Proofs.Protocol.Message
import FixBench.Proofs.Text.NumberText
import FixBench.Session.Basic

/-!
# What the operations of a session do

Each operation is described once, by what it answers and by what becomes of the configuration, the
two counters and the state. Nothing here depends on how a session came about, and later proofs do
not open the operations again.
-/
namespace FixBench

/-- The number of an incoming message, or one of its identifiers, is not the one expected. -/
def SessionFault.concernsHeader : SessionFault → Bool
  | sequenceGap .. | sequenceTooLow .. | invalidSeqNum _ | compIdMismatch .. => true
  | _ => false

theorem Message.seqNum?_of_get {m : Message} {n : Nat}
    (found : m.get Tag.msgSeqNum = some (toString n)) (small : n < Numeral.limit64) :
    m.seqNum? = some n := by
  rw [seqNum?, found, Option.bind_some]
  show (Numeral.unsigned Numeral.limit64 (toString n)).toOption = some n
  rw [Numeral.unsigned_toString small]
  rfl

namespace SequenceNumbers

theorem read?_toString {n : Nat} (small : n < Numeral.limit64) : read? (some (toString n)) = some n := by
  rw [read?, Numeral.encode_toString, Numeral.digitsValue?_digits]
  exact if_pos small

theorem following_lt (n : Nat) : following n < Numeral.limit64 :=
  Nat.mod_lt _ (by decide)

theorem accept_of_due {s : SequenceNumbers} {raw : Option String} (due : read? raw = some s.nextIn) :
    s.accept raw = .ok (s.nextIn, { s with nextIn := following s.nextIn }) := by
  simp [accept, due]

/-- Zero comes after the largest number, so no number comes after itself. -/
theorem following_ne (n : Nat) : following n ≠ n := by
  have below := following_lt n
  unfold following at below ⊢
  by_cases last : n + 1 < Numeral.limit64
  · rw [Nat.mod_eq_of_lt last]
    exact Nat.succ_ne_self n
  · by_cases reached : n + 1 = Numeral.limit64
    · rw [reached, Nat.mod_self]
      rintro rfl
      cases reached
    · omega

theorem nextOut_of_accept {s after : SequenceNumbers} {raw : Option String} {n : Nat}
    (accepted : s.accept raw = .ok (n, after)) : after.nextOut = s.nextOut := by
  unfold accept at accepted
  split at accepted
  · cases accepted
  · split at accepted
    · cases accepted
    · split at accepted
      · cases accepted
      · cases accepted
        rfl

end SequenceNumbers

theorem Liveness.interval_poll (l : Liveness) (now : Moment) : (l.poll now).2.interval = l.interval := by
  unfold poll
  dsimp only
  split
  · split <;> rfl
  · split <;> rfl

namespace Session

/-! ### Connecting -/

/-- A new session, taken once through connecting. -/
def opened (config : SessionConfig) (created connected : Moment) : Except SessionFault Session := do
  let session ← (create config created).connecting
  session.connected connected

/-- Opening succeeds, and leaves a session that awaits its logon. -/
theorem opened_eq (config : SessionConfig) (created connected : Moment) :
    opened config created connected = .ok
      { config
        state := .logonPending
        sequences := .initial
        liveness := .start config.heartbeatInterval connected
        counterpartySubId := none } := rfl

/-! ### Sending -/

@[simp]
theorem get_addHeader_msgSeqNum (s : Session) (m : Message) (seq : Nat) (now : Moment) :
    (s.addHeader m seq now).get Tag.msgSeqNum = some (toString seq) := by
  simp (disch := decide) only [addHeader, Message.get_setIfSome_of_ne, Message.get_set_of_ne,
    Message.get_set_same]

@[simp]
theorem get_addHeader_senderCompId (s : Session) (m : Message) (seq : Nat) (now : Moment) :
    (s.addHeader m seq now).get Tag.senderCompId = some s.config.sender.text := by
  simp (disch := decide) only [addHeader, Message.get_setIfSome_of_ne, Message.get_set_of_ne,
    Message.get_set_same]

@[simp]
theorem get_addHeader_targetCompId (s : Session) (m : Message) (seq : Nat) (now : Moment) :
    (s.addHeader m seq now).get Tag.targetCompId = some s.config.target.text := by
  simp (disch := decide) only [addHeader, Message.get_setIfSome_of_ne, Message.get_set_of_ne,
    Message.get_set_same]

/-- Stamping either refuses and does nothing, or adds the header under the next number. -/
theorem stamp_eq_ok_iff (s : Session) (m : Message) (now : Moment) (stamped : Message)
    (after : Session) :
    s.stamp m now = .ok (stamped, after) ↔
      s.maySend m.msgType = true ∧ stamped = s.addHeader m s.sequences.nextOut now ∧
        after = { s with
          sequences := { s.sequences with
            nextOut := SequenceNumbers.following s.sequences.nextOut }
          liveness := s.liveness.noteSent now } := by
  unfold stamp
  split
  · rename_i may
    constructor
    · intro stamps
      cases stamps
      exact ⟨may, rfl, rfl⟩
    · rintro ⟨_, rfl, rfl⟩
      rfl
  · rename_i may
    simp [may]

/-! ### Receiving -/

/-- The number is the one that is due, and the two identifiers are this session's the other way
round. -/
structure InOrder (s : Session) (m : Message) : Prop where
  number : SequenceNumbers.read? (m.get Tag.msgSeqNum) = some s.sequences.nextIn
  sender : m.get Tag.senderCompId = some s.config.target.text
  target : m.get Tag.targetCompId = some s.config.sender.text

theorem checkCompIds_of_inOrder {s : Session} {m : Message} (inOrder : s.InOrder m) :
    s.checkCompIds m = .ok () := by
  simp [checkCompIds, checkCompId, inOrder.sender, inOrder.target, bind, Except.bind]

/-- A session moves only where its state allows it, and changes in nothing else. -/
theorem moveTo_eq_ok {s after : Session} {next : SessionState} (moved : s.moveTo next = .ok after) :
    s.state.canMoveTo next = true ∧ after = { s with state := next } := by
  unfold moveTo SessionState.moveTo at moved
  split at moved
  · rename_i allowed
    cases moved
    exact ⟨allowed, rfl⟩
  · cases moved

theorem connecting_eq_ok {s after : Session} (connects : s.connecting = .ok after) :
    s.state = .disconnected ∧ after = { s with state := .connecting } := by
  obtain ⟨allowed, moved⟩ := moveTo_eq_ok connects
  refine ⟨?_, moved⟩
  cases state : s.state with
  | disconnected => rfl
  | connecting | logonPending | active =>
    rw [state] at allowed
    cases allowed

theorem connected_eq_ok {s after : Session} {now : Moment} (connects : s.connected now = .ok after) :
    s.state = .connecting ∧
      after = { s with state := .logonPending, liveness := .start s.liveness.interval now } := by
  unfold connected at connects
  cases moved : s.moveTo .logonPending with
  | error fault =>
    rw [moved] at connects
    cases connects
  | ok next =>
    rw [moved] at connects
    cases connects
    obtain ⟨allowed, rfl⟩ := moveTo_eq_ok moved
    refine ⟨?_, rfl⟩
    cases state : s.state with
    | connecting => rfl
    | disconnected | logonPending | active =>
      rw [state] at allowed
      cases allowed

theorem moveTo_fault {s : Session} {next : SessionState} {fault : SessionFault}
    (refused : s.moveTo next = .error fault) : fault.concernsHeader = false := by
  unfold moveTo SessionState.moveTo at refused
  split at refused
  · cases refused
  · cases refused
    rfl

theorem negotiatedInterval_fault {raw : Option String} {fault : SessionFault}
    (refused : negotiatedInterval raw = .error fault) : fault.concernsHeader = false := by
  unfold negotiatedInterval at refused
  split at refused
  · cases refused
  · split at refused
    · split at refused
      · cases refused
      · cases refused
        rfl
    · cases refused
      rfl

/-- Accepting a logon makes the session active on its terms. -/
theorem acceptLogon_eq_ok {s after : Session} {m : Message} {answer : Inbound}
    (accepted : s.acceptLogon m = .ok (answer, after)) :
    ∃ seconds, negotiatedInterval (m.get Tag.heartBtInt) = .ok seconds ∧
      answer = .logonAccepted seconds ∧
      after = { s with
        state := .active
        liveness := { s.liveness with
          interval := if 0 < seconds then .ofSeconds seconds else s.liveness.interval }
        counterpartySubId := m.get Tag.senderSubId } := by
  rw [acceptLogon, bind_eq_ok_iff] at accepted
  obtain ⟨seconds, interval, accepted⟩ := accepted
  obtain ⟨active, moved, accepted⟩ := (bind_eq_ok_iff ..).mp accepted
  cases accepted
  exact ⟨seconds, interval, rfl, (moveTo_eq_ok moved).2⟩

theorem acceptLogon_fault {s : Session} {m : Message} {fault : SessionFault}
    (refused : s.acceptLogon m = .error fault) : fault.concernsHeader = false := by
  rw [acceptLogon, bind_eq_error_iff] at refused
  obtain interval | ⟨seconds, -, refused⟩ := refused
  · exact negotiatedInterval_fault interval
  · obtain moved | ⟨active, -, accepted⟩ := (bind_eq_error_iff ..).mp refused
    · exact moveTo_fault moved
    · cases accepted

/-- Dispatching leaves the configuration and the counters alone, whatever a message means. -/
theorem dispatch_keeps {s after : Session} {m : Message} {answer : Inbound}
    (dispatched : s.dispatch m = .ok (answer, after)) :
    after.config = s.config ∧ after.sequences = s.sequences := by
  unfold dispatch at dispatched
  split at dispatched
  case h_2 =>
    obtain ⟨_, _, _, rfl⟩ := acceptLogon_eq_ok dispatched
    exact ⟨rfl, rfl⟩
  all_goals
    cases dispatched
    try exact ⟨rfl, rfl⟩

theorem dispatch_counterpartySubId {s after : Session} {m : Message} {answer : Inbound}
    (dispatched : s.dispatch m = .ok (answer, after)) :
    after.counterpartySubId = s.counterpartySubId ∨
      after.counterpartySubId = m.get Tag.senderSubId := by
  unfold dispatch at dispatched
  split at dispatched
  case h_2 =>
    obtain ⟨_, _, _, rfl⟩ := acceptLogon_eq_ok dispatched
    exact Or.inr rfl
  all_goals
    cases dispatched
    try exact Or.inl rfl

theorem dispatch_fault {s : Session} {m : Message} {fault : SessionFault}
    (refused : s.dispatch m = .error fault) : fault.concernsHeader = false := by
  unfold dispatch at refused
  split at refused
  case h_2 => exact acceptLogon_fault refused
  all_goals
    cases refused
    try rfl

/-- The session after a message in order has been noticed, before it is known what it means. -/
def noticed (s : Session) (m : Message) (now : Moment) : Session :=
  { s with
    sequences := { s.sequences with nextIn := SequenceNumbers.following s.sequences.nextIn }
    liveness :=
      s.liveness.noteReceived now (m.msgType == .heartbeat) (m.get Tag.testReqId) }

theorem receive_of_inOrder {s : Session} {m : Message} (now : Moment) (inOrder : s.InOrder m) :
    s.receive m now =
      match (s.noticed m now).dispatch m with
      | .error fault => (.error fault, s.noticed m now)
      | .ok (answer, after) => (.ok answer, after) := by
  -- The identifiers are compared after the counter has moved, which makes no difference to them.
  have checked : ({ s with sequences := { s.sequences with
      nextIn := SequenceNumbers.following s.sequences.nextIn } } : Session).checkCompIds m = .ok () :=
    show s.checkCompIds m = .ok () from checkCompIds_of_inOrder inOrder
  unfold receive
  simp only [SequenceNumbers.accept_of_due inOrder.number, checked]
  rfl

/-- A message in order uses up its number, whether or not the session outlives it, and no fault of
it concerns its header. -/
theorem inbound_of_inOrder {s : Session} {m : Message} (now : Moment)
    (connected : s.state.isConnected = true) (inOrder : s.InOrder m) :
    (s.inbound m now).2.config = s.config ∧
      (s.inbound m now).2.sequences =
        { s.sequences with nextIn := SequenceNumbers.following s.sequences.nextIn } ∧
      ∀ fault, (s.inbound m now).1 = .error fault → fault.concernsHeader = false := by
  rw [inbound, if_pos connected, receive_of_inOrder now inOrder]
  cases dispatched : (s.noticed m now).dispatch m with
  | error fault =>
    refine ⟨rfl, rfl, ?_⟩
    rintro _ ⟨⟩
    exact dispatch_fault dispatched
  | ok result =>
    obtain ⟨answer, after⟩ := result
    obtain ⟨config, sequences⟩ := dispatch_keeps dispatched
    exact ⟨config, sequences, fun _ refused => by cases refused⟩

/-- Whatever a message brings about, it leaves the configuration and the outgoing numbers alone. What
the counterparty is called is learnt from messages only. -/
theorem inbound_keeps (s : Session) (m : Message) (now : Moment) :
    (s.inbound m now).2.config = s.config ∧
      (s.inbound m now).2.sequences.nextOut = s.sequences.nextOut ∧
      ((s.inbound m now).2.counterpartySubId = s.counterpartySubId ∨
        (s.inbound m now).2.counterpartySubId = m.get Tag.senderSubId) := by
  suffices received : (s.receive m now).2.config = s.config ∧
      (s.receive m now).2.sequences.nextOut = s.sequences.nextOut ∧
      ((s.receive m now).2.counterpartySubId = s.counterpartySubId ∨
        (s.receive m now).2.counterpartySubId = m.get Tag.senderSubId) by
    unfold inbound
    split
    · split <;> rename_i result <;> rw [result] at received <;> exact received
    · exact ⟨rfl, rfl, Or.inl rfl⟩
  -- Each check that fails leaves the session as far as the one before has brought it.
  unfold receive
  split
  · exact ⟨rfl, rfl, Or.inl rfl⟩
  · rename_i accepted
    have nextOut := SequenceNumbers.nextOut_of_accept accepted
    dsimp only
    split
    · exact ⟨rfl, nextOut, Or.inl rfl⟩
    · split
      · exact ⟨rfl, nextOut, Or.inl rfl⟩
      · rename_i dispatched
        obtain ⟨config, sequences⟩ := dispatch_keeps dispatched
        have counterparty := dispatch_counterpartySubId dispatched
        refine ⟨config, ?_, counterparty⟩
        rw [sequences]
        exact nextOut

/-- A session that is not connected takes no notice of a message. -/
theorem inbound_of_not_connected {s : Session} (m : Message) (now : Moment)
    (apart : s.state.isConnected = false) :
    s.inbound m now = (.error (.invalidState SessionState.active.text s.state.text), s) := by
  simp [inbound, apart]

/-! ### Liveness -/

/-- Polling changes neither the configuration nor the counters; it may end the session. -/
theorem poll_keeps (s : Session) (now : Moment) :
    (s.poll now).2.config = s.config ∧ (s.poll now).2.sequences = s.sequences ∧
      ((s.poll now).2.state = s.state ∨ (s.poll now).2.state = .disconnected) := by
  unfold poll
  split
  · dsimp only
    split
    · exact ⟨rfl, rfl, Or.inr rfl⟩
    · exact ⟨rfl, rfl, Or.inl rfl⟩
  · exact ⟨rfl, rfl, Or.inl rfl⟩

theorem poll_of_not_active {s : Session} (now : Moment) (apart : s.state ≠ .active) :
    s.poll now = (none, s) := by
  simp [poll, SessionState.isActive, apart]

theorem interval_poll (s : Session) (now : Moment) :
    (s.poll now).2.liveness.interval = s.liveness.interval := by
  have kept := s.liveness.interval_poll now
  unfold poll
  split
  · dsimp only
    split <;> exact kept
  · rfl

theorem poll_counterpartySubId (s : Session) (now : Moment) :
    (s.poll now).2.counterpartySubId = s.counterpartySubId := by
  unfold poll
  split
  · dsimp only
    split <;> rfl
  · rfl

end Session

/-! ### What sending goes by -/

/-- Nothing has changed that the next message to be sent is numbered and addressed by. -/
structure KeepsSending (before after : Session) : Prop where
  config : after.config = before.config
  nextOut : after.sequences.nextOut = before.sequences.nextOut

namespace Session

theorem keepsSending_inbound (s : Session) (m : Message) (now : Moment) :
    KeepsSending s (s.inbound m now).2 := by
  obtain ⟨config, nextOut, -⟩ := s.inbound_keeps m now
  exact ⟨config, nextOut⟩

theorem keepsSending_poll (s : Session) (now : Moment) : KeepsSending s (s.poll now).2 := by
  obtain ⟨config, sequences, -⟩ := s.poll_keeps now
  exact ⟨config, by rw [sequences]⟩

theorem keepsSending_disconnect (s : Session) : KeepsSending s s.disconnect := ⟨rfl, rfl⟩

end Session

end FixBench
