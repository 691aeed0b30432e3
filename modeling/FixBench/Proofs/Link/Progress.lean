import FixBench.Link.Client
import FixBench.Proofs.Link.Service

/-!
# What a connection never takes back

Whatever happens on a connection, it `Grows`: what it has sent stays sent, and once its session has
ended nothing more is sent. Unless a logon is accepted it also `Continues`: the session works with the
interval it had, and is in the state it was in or has ended. Only a session that awaits its logon can
accept one, so all other endpoints continue whatever they read (`Endpoint.receive_continues`), provided
their role keeps to what a connection can do; both roles do.
-/
namespace FixBench

namespace Connection

structure Grows (c c' : Connection) : Prop where
  sent : c.sent <+: c'.sent
  ended : c.session.state = .disconnected →
    c'.session.state = .disconnected ∧ c'.sent = c.sent

/-- No logon has been accepted in between. -/
structure Continues (c c' : Connection) : Prop extends Grows c c' where
  interval : c'.session.liveness.interval = c.session.liveness.interval
  state : c'.session.state = c.session.state ∨ c'.session.state = .disconnected

variable {a b c : Connection}

theorem Grows.refl (c : Connection) : c.Grows c := ⟨List.prefix_refl _, fun ended => ⟨ended, rfl⟩⟩

theorem Grows.trans (first : a.Grows b) (second : b.Grows c) : a.Grows c where
  sent := first.sent.trans second.sent
  ended ended := by
    obtain ⟨still, same⟩ := first.ended ended
    obtain ⟨later, same'⟩ := second.ended still
    exact ⟨later, same'.trans same⟩

theorem Continues.refl (c : Connection) : c.Continues c := ⟨.refl c, rfl, .inl rfl⟩

theorem Continues.trans (first : a.Continues b) (second : b.Continues c) : a.Continues c where
  toGrows := first.toGrows.trans second.toGrows
  interval := second.interval.trans first.interval
  state := by
    rcases second.state with same | ended
    · rw [same]
      exact first.state
    · exact .inr ended

theorem Continues.ne_logonPending (continues : a.Continues b)
    (apart : a.session.state ≠ .logonPending) : b.session.state ≠ .logonPending := by
  rcases continues.state with same | ended
  · rwa [same]
  · rw [ended]
    decide

/-! ### Operations -/

/-- Nothing is sent, and the session takes the place of another that it carries on. -/
theorem continues_withSession (c : Connection) (session : Session)
    (interval : session.liveness.interval = c.session.liveness.interval)
    (state : session.state = c.session.state ∨ session.state = .disconnected) :
    c.Continues { c with session } where
  sent := List.prefix_refl _
  ended ended := by
    refine ⟨?_, rfl⟩
    rcases state with same | gone
    · exact same.trans ended
    · exact gone
  interval := interval
  state := state

theorem continues_close (c : Connection) : c.Continues c.close :=
  ⟨⟨List.prefix_refl _, fun _ => ⟨rfl, rfl⟩⟩, rfl, .inr rfl⟩

theorem continues_fail (c : Connection) (fault : SessionFault) : c.Continues (c.fail fault) :=
  ⟨⟨List.prefix_refl _, fun _ => ⟨rfl, rfl⟩⟩, rfl, .inr rfl⟩

theorem continues_send (c : Connection) (m : Message) (now : Moment) :
    c.Continues (c.send m now).2 := by
  obtain ⟨fault, refused⟩ | ⟨stamped, session, stamps, written⟩ := c.send_cases m now
  · rw [refused]
    exact .refl c
  · obtain ⟨may, -, rfl⟩ := (Session.stamp_eq_ok_iff ..).mp stamps
    -- A session that has ended stamps nothing.
    have going : c.session.state ≠ .disconnected := by
      intro ended
      rw [Session.maySend, ended] at may
      cases may
    rcases written with ⟨-, bytes, -, sends⟩ | ⟨-, reason, spent⟩
    · rw [sends]
      exact ⟨⟨List.prefix_append _ _, fun ended => absurd ended going⟩, rfl, .inl rfl⟩
    · rw [spent]
      have numbered := c.continues_withSession { c.session with
        sequences := { c.session.sequences with
          nextOut := SequenceNumbers.following c.session.sequences.nextOut }
        liveness := c.session.liveness.noteSent now } rfl (.inl rfl)
      exact numbered.trans (continues_fail _ _)

theorem continues_sendAll (c : Connection) (now : Moment) (messages : List Message) :
    c.Continues (c.sendAll now messages).2 := by
  induction messages generalizing c with
  | nil => exact .refl c
  | cons m rest ih =>
    have first := c.continues_send m now
    rw [sendAll]
    rcases sends : c.send m now with ⟨fault | seq, after⟩
    · rw [sends] at first
      exact first
    · rw [sends] at first
      exact first.trans (ih after)

theorem continues_tick (c : Connection) (now : Moment) : c.Continues (c.tick now) := by
  have polled : c.Continues { c with session := (c.session.poll now).2 } :=
    c.continues_withSession _ (c.session.interval_poll now) (c.session.poll_keeps now).2.2
  unfold tick
  split
  · exact .refl c
  · dsimp only
    split
    · exact polled
    · exact polled.trans (continues_fail _ _)
    · split
      · exact polled.trans (continues_send _ _ now)
      · exact polled

end Connection

/-! ### Messages -/

namespace Session

/-- Only a session that awaits its logon can do more than go on or end. -/
theorem inbound_continues {s : Session} (apart : s.state ≠ .logonPending) (m : Message)
    (now : Moment) :
    (s.inbound m now).2.liveness.interval = s.liveness.interval ∧
      ((s.inbound m now).2.state = s.state ∨ (s.inbound m now).2.state = .disconnected) := by
  cases connected : s.state.isConnected with
  | false =>
    rw [inbound_of_not_connected m now connected]
    exact ⟨rfl, .inl rfl⟩
  | true =>
    rcases answered : s.inbound m now with ⟨fault | answer, after⟩
    · obtain ⟨ended, interval⟩ := inbound_of_error connected answered
      exact ⟨interval, .inr ended⟩
    · obtain ⟨-, -, means⟩ := (inbound_eq_ok_iff ..).mp answered
      -- Of all that a message can mean, only a logon moves the session.
      cases means with
      | logon _ pending => exact absurd pending apart
      | logout | heartbeat | testRequest | business => exact ⟨rfl, .inl rfl⟩

end Session

namespace Connection

/-- A message has been shown to the session. -/
def noticing (c : Connection) (m : Message) (now : Moment) : Connection :=
  { c with session := (c.session.inbound m now).2 }

theorem continues_noticing {c : Connection} (apart : c.session.state ≠ .logonPending) (m : Message)
    (now : Moment) : c.Continues (c.noticing m now) := by
  obtain ⟨interval, state⟩ := Session.inbound_continues apart m now
  exact c.continues_withSession _ interval state

theorem grows_noticing (c : Connection) (m : Message) (now : Moment) :
    c.Grows (c.noticing m now) := by
  refine ⟨List.prefix_refl _, fun ended => ⟨?_, rfl⟩⟩
  -- A session that has ended takes no notice of a message.
  have apart : c.session.state.isConnected = false := by
    rw [ended]
    rfl
  show (c.session.inbound m now).2.state = _
  rw [Session.inbound_of_not_connected m now apart]
  exact ended

end Connection

/-! ### Endpoints -/

/-- The role does nothing to a connection but send and close. -/
def Role.Continues {σ : Type} (role : Role σ) : Prop :=
  ∀ now event s (c : Connection), c.Continues (role.handle now event s c).2.2

namespace Endpoint

variable {σ : Type} {role : Role σ} {now : Moment} {s : σ} {e : Endpoint}

theorem finish_continues (fault : Option SessionFault) :
    e.connection.Continues (e.finish role fault s).2.connection := by
  cases fault with
  | none => exact e.connection.continues_close
  | some fault => exact e.connection.continues_fail fault

theorem settle_continues : e.connection.Continues (e.settle role s).2.connection := by
  unfold settle
  split
  · exact finish_continues none
  · exact .refl _

theorem receiveEnd_continues : e.connection.Continues (e.receiveEnd role s).2.connection := by
  unfold receiveEnd
  split
  · exact .refl _
  · split <;> exact finish_continues _

/-- Reading is taking in frames, and ending the endpoint if the bytes are faulty. -/
theorem receive_continues_frames (goesOn : e.ended = false) (chunk : List UInt8) :
    let pass := Wire.drain e.limit (e.buffer ++ chunk)
    (({ e with buffer := pass.left }.takeFrames role now s pass.frames).2.connection).Continues
      (e.receive role now chunk s).2.connection := by
  intro pass
  rw [receive, goesOn]
  dsimp only
  split
  · contradiction
  · split
    · split
      · exact .refl _
      · exact finish_continues _
    · exact .refl _

variable (continues : role.Continues)
include continues

theorem react_continues (event : SessionEvent) :
    e.connection.Continues (e.react role now event s).2.connection := by
  have handled := continues now event s e.connection
  unfold react
  dsimp only
  split
  · exact handled.trans (finish_continues (e := { e with connection := _ }) _)
  · split
    · exact handled.trans (finish_continues (e := { e with connection := _ }) _)
    · exact handled

/-- All that can happen to a message has been decided once the session has seen it. -/
theorem takeMessage_continues_noticing (m : Message) :
    (e.connection.noticing m now).Continues (e.takeMessage role now m s).2.connection := by
  let noticed : Endpoint := { e with connection := e.connection.noticing m now }
  have reacted (event : SessionEvent) : noticed.connection.Continues
      (noticed.react role now event s).2.connection := react_continues continues event
  have sent (reply : Message) : noticed.connection.Continues (noticed.connection.send reply now).2 :=
    Connection.continues_send _ reply now
  -- The endpoint ends, does nothing, sends the session's own reply, or asks the role.
  unfold takeMessage
  dsimp only
  split
  · exact finish_continues (e := noticed) _
  · exact .refl _
  · rename_i reply _
    have sent := sent reply
    split
    · rename_i fault c sends
      rw [show noticed.connection.send reply now = (.error fault, c) from sends] at sent
      exact sent.trans (finish_continues (e := { e with connection := c }) _)
    · rename_i seq c sends
      rw [show noticed.connection.send reply now = (.ok seq, c) from sends] at sent
      exact sent
  · exact reacted _
  · exact reacted _
  · exact reacted _

theorem takeMessage_grows (m : Message) :
    e.connection.Grows (e.takeMessage role now m s).2.connection :=
  (e.connection.grows_noticing m now).trans (takeMessage_continues_noticing continues m).toGrows

theorem takeMessage_continues (apart : e.connection.session.state ≠ .logonPending) (m : Message) :
    e.connection.Continues (e.takeMessage role now m s).2.connection :=
  (Connection.continues_noticing apart m now).trans (takeMessage_continues_noticing continues m)

theorem takeFrames_grows (frames : List (List UInt8)) :
    e.connection.Grows (e.takeFrames role now s frames).2.connection := by
  induction frames generalizing s e with
  | nil => exact .refl _
  | cons frame rest ih =>
    rw [takeFrames]
    split
    · exact .refl _
    · split
      · exact ih
      · rename_i m _
        exact (takeMessage_grows continues m).trans ih

theorem takeFrames_continues (apart : e.connection.session.state ≠ .logonPending)
    (frames : List (List UInt8)) :
    e.connection.Continues (e.takeFrames role now s frames).2.connection := by
  induction frames generalizing s e with
  | nil => exact .refl _
  | cons frame rest ih =>
    rw [takeFrames]
    split
    · exact .refl _
    · split
      · exact ih apart
      · rename_i m _
        have taken : e.connection.Continues (e.takeMessage role now m s).2.connection :=
          takeMessage_continues continues apart m
        exact taken.trans (ih (taken.ne_logonPending apart))

theorem receive_grows (chunk : List UInt8) :
    e.connection.Grows (e.receive role now chunk s).2.connection := by
  cases goesOn : e.ended with
  | true =>
    rw [receive, if_pos goesOn]
    exact .refl _
  | false =>
    let pass := Wire.drain e.limit (e.buffer ++ chunk)
    let drained : Endpoint := { e with buffer := pass.left }
    have taken : e.connection.Grows (drained.takeFrames role now s pass.frames).2.connection :=
      takeFrames_grows (e := drained) continues pass.frames
    exact taken.trans (receive_continues_frames goesOn chunk).toGrows

theorem receive_continues (apart : e.connection.session.state ≠ .logonPending) (chunk : List UInt8) :
    e.connection.Continues (e.receive role now chunk s).2.connection := by
  cases goesOn : e.ended with
  | true =>
    rw [receive, if_pos goesOn]
    exact .refl _
  | false =>
    let pass := Wire.drain e.limit (e.buffer ++ chunk)
    let drained : Endpoint := { e with buffer := pass.left }
    have taken : e.connection.Continues (drained.takeFrames role now s pass.frames).2.connection :=
      takeFrames_continues (e := drained) continues apart pass.frames
    exact taken.trans (receive_continues_frames goesOn chunk)

end Endpoint

/-! ### Roles -/

theorem Inbox.role_continues : Inbox.role.Continues := by
  intro now event i c
  cases event with
  | logonAccepted | deliver => exact .refl c
  | logout m =>
    have sent := c.continues_send (c.session.logoutMessage none) now
    show c.Continues (Inbox.handle now (.logout m) i c).2.2
    rw [Inbox.handle]
    dsimp only
    split
    · exact c.continues_close
    · rcases sends : c.send (c.session.logoutMessage none) now with ⟨fault | seq, after⟩
      · rw [sends] at sent
        exact sent
      · rw [sends] at sent
        exact sent.trans after.continues_close

theorem Acceptor.role_continues {σ : Type} (app : Application σ) : (role app).Continues := by
  intro now event d c
  cases event with
  | logonAccepted seconds =>
    have sent := c.continues_send (logonReply c seconds) now
    show c.Continues (handle app now (.logonAccepted seconds) d c).2.2
    rw [handle]
    rcases sends : c.send (logonReply c seconds) now with ⟨fault | seq, after⟩ <;>
      · rw [sends] at sent
        exact sent
  | deliver m =>
    show c.Continues (handle app now (.deliver m) d c).2.2
    rw [Service.handle_deliver]
    exact c.continues_sendAll now _
  | logout m =>
    have sent := c.continues_send (c.session.logoutMessage none) now
    show c.Continues (handle app now (.logout m) d c).2.2
    rw [handle]
    rcases sends : c.send (c.session.logoutMessage none) now with ⟨fault | seq, after⟩
    · rw [sends] at sent
      exact sent
    · rw [sends] at sent
      exact sent.trans after.continues_close

end FixBench
