import FixBench.Proofs.Link.Replies

/-!
# Connections in service

A connection that is put to use in its configuration's terms stays `Consistent`: closing it ends its
session, and as long as it is open nothing is held against it. It is `InService` while its session is
active. Then sending never fails if the configuration `Speaks` (`send_inService`), and a look at the
clock does no more than send a sign of life, unless the other side is given up (`tick_inService`).
-/
namespace FixBench

namespace Session

theorem stamp_keeps {s after : Session} {m stamped : Message} {now : Moment}
    (stamps : s.stamp m now = .ok (stamped, after)) :
    after.state = s.state ∧ after.sequences.nextIn = s.sequences.nextIn := by
  obtain ⟨-, -, rfl⟩ := (stamp_eq_ok_iff ..).mp stamps
  exact ⟨rfl, rfl⟩

end Session

namespace Connection

structure Consistent (settings : SessionConfig) (id : Nat) (c : Connection) : Prop where
  id_eq : c.id = id
  reached : Session.Reached settings c.session
  disconnected : c.closed = true → c.session.state = .disconnected
  blameless : c.closed = false → c.closeReason = none

structure InService (settings : SessionConfig) (id : Nat) (c : Connection) : Prop
    extends Consistent settings id c where
  active : c.session.state = .active

variable {settings : SessionConfig} {id : Nat} {c : Connection}

namespace Consistent

theorem config_eq (consistent : Consistent settings id c) : c.session.config = settings :=
  consistent.reached.config_eq

theorem fail (consistent : Consistent settings id c) (fault : SessionFault) :
    Consistent settings id (c.fail fault) :=
  ⟨consistent.id_eq, .disconnect consistent.reached, fun _ => rfl, by rintro ⟨⟩⟩

theorem close (consistent : Consistent settings id c) : Consistent settings id c.close :=
  ⟨consistent.id_eq, .disconnect consistent.reached, fun _ => rfl, by rintro ⟨⟩⟩

/-- A session that has not come back to life takes the place of another. -/
theorem withSession (consistent : Consistent settings id c) {session : Session}
    (reached : Session.Reached settings session)
    (apart : c.session.state = .disconnected → session.state = .disconnected) :
    Consistent settings id { c with session } :=
  ⟨consistent.id_eq, reached, fun closed => apart (consistent.disconnected closed),
    consistent.blameless⟩

theorem inbound (consistent : Consistent settings id c) {frame : List UInt8} {m : Message}
    (decoded : Wire.decode frame = .ok m) (now : Moment) :
    Consistent settings id { c with session := (c.session.inbound m now).2 } := by
  refine consistent.withSession (.inbound now consistent.reached decoded) fun ended => ?_
  rw [Session.inbound_of_not_connected m now (by rw [ended]; rfl)]
  exact ended

theorem send (consistent : Consistent settings id c) (m : Message) (now : Moment) :
    Consistent settings id (c.send m now).2 := by
  rcases c.send_cases m now with ⟨_, refused⟩ | ⟨_, session, stamps, written⟩
  · rw [refused]
    exact consistent
  · obtain ⟨state, -⟩ := Session.stamp_keeps stamps
    have stamped := consistent.withSession (.stamp consistent.reached stamps) state.trans
    rcases written with ⟨-, _, -, sends⟩ | ⟨-, _, spent⟩
    · rw [sends]
      exact ⟨stamped.id_eq, stamped.reached, stamped.disconnected, stamped.blameless⟩
    · rw [spent]
      exact stamped.fail _

theorem tick (consistent : Consistent settings id c) (now : Moment) :
    Consistent settings id (c.tick now) := by
  unfold Connection.tick
  split
  · exact consistent
  · rename_i isOpen
    have polled : Consistent settings id { c with session := (c.session.poll now).2 } :=
      ⟨consistent.id_eq, .poll now consistent.reached, fun closed => absurd closed isOpen,
        consistent.blameless⟩
    dsimp only
    split
    · exact polled
    · exact polled.fail _
    · split
      · exact polled.send _ now
      · exact polled

/-- An active session is not to be found on a closed connection. -/
theorem inService (consistent : Consistent settings id c) (active : c.session.state = .active) :
    InService settings id c :=
  ⟨consistent, active⟩

end Consistent

/-! ### Sending -/

theorem InService.isOpen (service : InService settings id c) : c.closed = false := by
  rw [← Bool.not_eq_true]
  intro closed
  have ended := service.disconnected closed
  rw [service.active] at ended
  cases ended

theorem send_inService (service : InService settings id c) (speaks : settings.Speaks) {m : Message}
    (checked : Wire.checkValues m = .ok ()) (now : Moment) :
    ∃ seq frame after, c.send m now = (.ok seq, after) ∧ after.sent = c.sent ++ [frame] ∧
      frame.Conveys m ∧ InService settings id after ∧
      after.session.sequences.nextIn = c.session.sequences.nextIn := by
  have admitted := (checkSendable_eq_ok_iff c m).mpr ⟨service.isOpen, checked⟩
  have may : c.session.maySend m.msgType = true := by
    rw [Session.maySend, service.active]
  obtain ⟨stamped, session, stamps⟩ :
      ∃ stamped session, c.session.stamp m now = .ok (stamped, session) :=
    ⟨_, _, (Session.stamp_eq_ok_iff ..).mpr ⟨may, rfl, rfl⟩⟩
  obtain ⟨bytes, encodes⟩ := (Session.encode_stamped_iff checked stamps).mpr
    (service.reached.headerWritable_iff.mpr speaks.header)
  have sends : c.send m now = (.ok (stamped.seqNum?.getD 0),
      { c with session, sent := c.sent ++ [⟨stamped, bytes⟩] }) := by
    rw [send, admitted]
    simp only [stamp, stamps, write, put, encodes]
  have consistent := service.toConsistent.send m now
  rw [sends] at consistent
  obtain ⟨state, nextIn⟩ := Session.stamp_keeps stamps
  refine ⟨_, ⟨stamped, bytes⟩, _, sends, rfl, ?_, consistent.inService (state.trans service.active),
    nextIn⟩
  obtain ⟨-, rfl, -⟩ := (Session.stamp_eq_ok_iff ..).mp stamps
  exact c.session.conveys_addHeader m _ now encodes

/-- Messages that can be written are sent one behind the other. -/
theorem sendAll_inService (service : InService settings id c) (speaks : settings.Speaks)
    {messages : List Message} (checked : ∀ m ∈ messages, Wire.checkValues m = .ok ()) (now : Moment) :
    ∃ frames after, c.sendAll now messages = (.ok (), after) ∧ after.sent = c.sent ++ frames ∧
      List.Forall₂ Sent.Conveys frames messages ∧ InService settings id after := by
  induction messages generalizing c with
  | nil => exact ⟨[], c, rfl, (List.append_nil _).symm, .nil, service⟩
  | cons m rest ih =>
    obtain ⟨seq, frame, next, sends, sent, conveys, service, -⟩ :=
      send_inService service speaks (checked m List.mem_cons_self) now
    obtain ⟨frames, after, others, later, alike, service⟩ :=
      ih service fun m member => checked m (List.mem_cons_of_mem _ member)
    refine ⟨frame :: frames, after, ?_, ?_, .cons conveys alike, service⟩
    · rw [sendAll, sends]
      exact others
    · rw [later, sent, List.append_assoc, List.singleton_append]

/-- A message that cannot be written is not sent, and the connection stays as it is. -/
theorem send_of_unfit (isOpen : c.closed = false) {m : Message} {fault : BuildFault}
    (unfit : Wire.checkValues m = .error fault) (now : Moment) :
    c.send m now = (.error (.unencodable fault), c) := by
  simp [send, checkSendable, isOpen, unfit]

theorem send_of_closed (closed : c.closed = true) (m : Message) (now : Moment) :
    c.send m now = (.error c.reason, c) := by
  simp [send, checkSendable, closed]

end Connection

/-! ### Looks at the clock -/

/-- A frame that a connection sends of its own accord. -/
def Sent.IsSignOfLife (frame : Sent) : Prop :=
  frame.message.get Tag.msgType = some MsgType.heartbeat.text ∨
    frame.message.get Tag.msgType = some MsgType.testRequest.text

theorem Session.get_msgType_livenessMessage {s : Session} {action : LivenessAction} {m : Message}
    (said : s.livenessMessage action = some m) :
    m.get Tag.msgType = some MsgType.heartbeat.text ∨
      m.get Tag.msgType = some MsgType.testRequest.text := by
  cases action with
  | sendHeartbeat =>
    cases said
    exact Or.inl rfl
  | sendTestRequest id =>
    cases said
    exact Or.inr (Message.get_set_of_ne _ _ (by decide))
  | timedOut => cases said

namespace Connection

variable {settings : SessionConfig} {id : Nat} {c : Connection}

/-- The connection has been closed because the other side kept silent. -/
structure GivenUp (c : Connection) : Prop where
  ended : c.session.state = .disconnected
  closed : c.closed = true
  silence : ∃ millis, c.closeReason = some (.heartbeatTimeout millis)

theorem GivenUp.fail (givenUp : c.GivenUp) (fault : SessionFault) : (c.fail fault).GivenUp := by
  obtain ⟨millis, reason⟩ := givenUp.silence
  refine ⟨rfl, rfl, millis, ?_⟩
  show c.closeReason.or _ = _
  rw [reason, Option.some_or]

theorem GivenUp.close (givenUp : c.GivenUp) : c.close.GivenUp := ⟨rfl, rfl, givenUp.silence⟩

/-- A look at the clock that asks for a message sends it. -/
theorem tick_of_said (service : InService settings id c) (speaks : settings.Speaks) {now : Moment}
    {action : LivenessAction} {liveness : Liveness} {m : Message}
    (asked : c.session.liveness.poll now = (some action, liveness))
    (said : ({ c.session with liveness } : Session).livenessMessage action = some m) :
    InService settings id (c.tick now) ∧
      (c.tick now).session.sequences.nextIn = c.session.sequences.nextIn ∧
      ∃ frames, (c.tick now).sent = c.sent ++ frames ∧ ∀ frame ∈ frames, frame.IsSignOfLife := by
  have isActive : c.session.state.isActive = true := by rw [service.active]; rfl
  have polled : c.session.poll now = (some action, { c.session with liveness }) := by
    cases action with
    | timedOut => cases said
    | sendHeartbeat | sendTestRequest => simp [Session.poll, isActive, asked]
  have ticks : c.tick now = ({ c with session := { c.session with liveness } }.send m now).2 := by
    cases action with
    | timedOut => cases said
    | sendHeartbeat | sendTestRequest => simp [tick, service.isOpen, polled, said]
  have reached := Session.Reached.poll now service.reached
  rw [polled] at reached
  have version : Wire.Writable Tag.beginString c.session.config.version := by
    rw [service.config_eq]
    exact speaks.version
  have checked := Session.checkValues_livenessMessage (s := { c.session with liveness }) version
    (congrArg Prod.fst asked) said
  -- The timers have moved before the message is sent, so it is sent by the session after the poll.
  have still : InService settings id { c with session := { c.session with liveness } } :=
    (service.withSession reached fun ended => ended).inService service.active
  obtain ⟨_, frame, after, sends, sent, conveys, later, nextIn⟩ := send_inService still speaks checked now
  rw [ticks, sends]
  refine ⟨later, nextIn, [frame], sent, ?_⟩
  rw [List.forall_mem_singleton, Sent.IsSignOfLife, conveys.get (by decide)]
  exact Session.get_msgType_livenessMessage said

/-- A look at the clock either keeps the connection in service and shows the other side a sign of life
if need be, or gives the other side up. -/
theorem tick_inService (service : InService settings id c) (speaks : settings.Speaks) (now : Moment) :
    (InService settings id (c.tick now) ∧
        (c.tick now).session.sequences.nextIn = c.session.sequences.nextIn ∧
        ∃ frames, (c.tick now).sent = c.sent ++ frames ∧ ∀ frame ∈ frames, frame.IsSignOfLife) ∨
      ((c.tick now).sent = c.sent ∧ (c.tick now).GivenUp) := by
  have isActive : c.session.state.isActive = true := by rw [service.active]; rfl
  rcases asked : c.session.liveness.poll now with ⟨action, liveness⟩
  -- The timers ask for nothing, for a message, or for the end; only the last one closes the
  -- connection.
  cases action with
  | none =>
    left
    have polled : c.session.poll now = (none, { c.session with liveness }) := by
      simp [Session.poll, isActive, asked]
    have ticks : c.tick now = { c with session := { c.session with liveness } } := by
      simp [tick, service.isOpen, polled]
    have consistent := service.toConsistent.tick now
    rw [ticks] at consistent ⊢
    exact ⟨consistent.inService service.active, rfl, [], by simp, by simp⟩
  | some action =>
    cases action with
    | sendHeartbeat | sendTestRequest => exact Or.inl (tick_of_said service speaks asked rfl)
    | timedOut silence =>
      right
      have polled : c.session.poll now =
          (some (.timedOut silence), { c.session with liveness }.disconnect) := by
        simp [Session.poll, isActive, asked]
      have ticks : c.tick now = { c with session := { c.session with liveness }.disconnect }.fail
          (.heartbeatTimeout silence.millis64) := by
        simp [tick, service.isOpen, polled]
      rw [ticks]
      refine ⟨rfl, rfl, rfl, silence.millis64, ?_⟩
      show c.closeReason.or _ = _
      rw [service.blameless service.isOpen, Option.none_or]

theorem tick_of_closed (closed : c.closed = true) (now : Moment) : c.tick now = c := by
  rw [tick, if_pos closed]

end Connection

end FixBench
