import FixBench.Link.Connection
import FixBench.Proofs.Session.Header

/-!
# One call to send

A call to send ends in one of three ways (`send_cases`). It is refused and nothing has happened; or a
frame has been written under the next number; or the number is spent, nothing has been written, and
the connection is closed. The last happens exactly when the header cannot be written. A message with
a bad value of its own is refused in time, so only the configuration can bring it about.
-/
namespace FixBench.Connection

/-! ### The stages of a call -/

theorem checkSendable_eq_ok_iff (c : Connection) (m : Message) :
    c.checkSendable m = .ok () ↔ c.closed = false ∧ Wire.checkValues m = .ok () := by
  unfold checkSendable
  cases c.closed <;> cases Wire.checkValues m <;> simp

theorem stamp_eq_ok_iff (c : Connection) (m stamped : Message) (now : Moment) (after : Connection) :
    c.stamp m now = .ok (stamped, after) ↔
      ∃ session, c.session.stamp m now = .ok (stamped, session) ∧ after = { c with session } := by
  unfold stamp
  cases c.session.stamp m now with
  | error fault => simp
  | ok result =>
    obtain ⟨written, session⟩ := result
    constructor
    · intro stamps
      cases stamps
      exact ⟨session, rfl, rfl⟩
    · rintro ⟨_, ⟨⟩, rfl⟩
      rfl

theorem put_eq_ok_iff (c : Connection) (m : Message) (seq : Nat) (after : Connection) :
    c.put m = .ok (seq, after) ↔
      ∃ bytes, Wire.encode m = .ok bytes ∧ seq = m.seqNum?.getD 0 ∧
        after = { c with sent := c.sent ++ [⟨m, bytes⟩] } := by
  unfold put
  cases Wire.encode m with
  | error fault => simp
  | ok bytes =>
    constructor
    · intro puts
      cases puts
      exact ⟨bytes, rfl, rfl, rfl⟩
    · rintro ⟨_, ⟨⟩, rfl, rfl⟩
      rfl

theorem put_eq_error_iff (c : Connection) (m : Message) (fault : SessionFault) :
    c.put m = .error fault ↔
      ∃ cause, Wire.encode m = .error cause ∧
        fault = .connection (Wire.FrameFault.unencodable cause).message := by
  unfold put
  cases Wire.encode m with
  | error cause => simp [eq_comm]
  | ok bytes => simp

/-! ### The whole call -/

/-- A call is refused without a trace, writes a frame under the next number, or spends the number and
closes the connection. Which of the last two, the header decides. -/
theorem send_cases (c : Connection) (m : Message) (now : Moment) :
    (∃ fault, c.send m now = (.error fault, c)) ∨
      ∃ stamped session, c.session.stamp m now = .ok (stamped, session) ∧
        ((c.session.HeaderWritable ∧ ∃ bytes, Wire.encode stamped = .ok bytes ∧
            c.send m now = (.ok (stamped.seqNum?.getD 0),
              { c with session, sent := c.sent ++ [⟨stamped, bytes⟩] })) ∨
          (¬ c.session.HeaderWritable ∧ ∃ reason,
            c.send m now = (.error (.connection reason),
              { c with session }.fail (.connection reason)))) := by
  -- Up to the stamp nothing has changed; behind it only writing is left, and the header decides.
  cases admitted : c.checkSendable m with
  | error fault => exact Or.inl ⟨fault, by rw [send, admitted]⟩
  | ok =>
    have checked := ((checkSendable_eq_ok_iff c m).mp admitted).2
    cases stamps : c.stamp m now with
    | error fault =>
      refine Or.inl ⟨fault, ?_⟩
      rw [send, admitted]
      simp only [stamps]
    | ok result =>
      obtain ⟨stamped, after⟩ := result
      obtain ⟨session, stamps', rfl⟩ := (stamp_eq_ok_iff _ _ _ _ _).mp stamps
      refine Or.inr ⟨stamped, session, stamps', ?_⟩
      have writable := Session.encode_stamped_iff checked stamps'
      cases puts : put { c with session } stamped with
      | ok result =>
        obtain ⟨seq, after⟩ := result
        obtain ⟨bytes, encodes, rfl, rfl⟩ := (put_eq_ok_iff _ _ _ _).mp puts
        refine Or.inl ⟨writable.mp ⟨bytes, encodes⟩, bytes, encodes, ?_⟩
        rw [send, admitted]
        simp only [stamps, write, puts]
      | error fault =>
        obtain ⟨cause, refused, rfl⟩ := (put_eq_error_iff _ _ _).mp puts
        refine Or.inr ⟨?_, (Wire.FrameFault.unencodable cause).message, ?_⟩
        · intro fine
          obtain ⟨bytes, encodes⟩ := writable.mpr fine
          rw [refused] at encodes
          cases encodes
        · rw [send, admitted]
          simp only [stamps, write, puts]

/-- What a call to send needs to succeed. -/
theorem send_eq_ok_iff (c : Connection) (m : Message) (now : Moment) :
    (∃ seq, (c.send m now).1 = .ok seq) ↔
      c.closed = false ∧ Wire.checkValues m = .ok () ∧ c.session.maySend m.msgType = true ∧
        c.session.HeaderWritable := by
  constructor
  -- Had one of the conditions failed, the call would have returned its refusal.
  · rintro ⟨seq, sends⟩
    have admitted : c.checkSendable m = .ok () := by
      cases admitted : c.checkSendable m with
      | ok => rfl
      | error fault =>
        rw [send, admitted] at sends
        cases sends
    obtain ⟨isOpen, checked⟩ := (checkSendable_eq_ok_iff c m).mp admitted
    obtain ⟨_, refused⟩ | ⟨_, _, stamps, ⟨fine, -⟩ | ⟨_, _, spent⟩⟩ := c.send_cases m now
    · rw [refused] at sends
      cases sends
    · exact ⟨isOpen, checked, ((Session.stamp_eq_ok_iff ..).mp stamps).1, fine⟩
    · rw [spent] at sends
      cases sends
  · rintro ⟨isOpen, checked, may, fine⟩
    have admitted := (checkSendable_eq_ok_iff c m).mpr ⟨isOpen, checked⟩
    obtain ⟨stamped, session, stamps⟩ :
        ∃ stamped session, c.session.stamp m now = .ok (stamped, session) :=
      ⟨_, _, (Session.stamp_eq_ok_iff ..).mpr ⟨may, rfl, rfl⟩⟩
    obtain ⟨bytes, encodes⟩ := (Session.encode_stamped_iff checked stamps).mpr fine
    refine ⟨stamped.seqNum?.getD 0, ?_⟩
    rw [send, admitted]
    simp only [stamp, stamps, write, put, encodes]

/-- **Refused before anything is spent, but for the header.** In a session that a configuration leads
to, a message that has been checked and is let pass can be written under its header if and only if
the configuration's texts can. With such a configuration a call that fails has changed nothing, and
with any configuration a call that finds a value of the message unfit has changed nothing. -/
theorem send_refuses_first (config : SessionConfig) (c : Connection)
    (reached : Session.Reached config c.session) (m : Message) (now : Moment) :
    (∀ stamped session, Wire.checkValues m = .ok () →
        c.session.stamp m now = .ok (stamped, session) →
          ((∃ bytes, Wire.encode stamped = .ok bytes) ↔ config.HeaderWritable)) ∧
      (config.HeaderWritable → ∀ fault, (c.send m now).1 = .error fault → (c.send m now).2 = c) ∧
      ∀ cause, (c.send m now).1 = .error (.unencodable cause) → (c.send m now).2 = c := by
  refine ⟨?_, ?_, ?_⟩
  · intro stamped session checked stamps
    rw [Session.encode_stamped_iff checked stamps, reached.headerWritable_iff]
  · intro fine fault failed
    obtain ⟨_, refused⟩ | ⟨_, _, _, ⟨_, _, _, sent⟩ | ⟨unfit, _⟩⟩ := c.send_cases m now
    · rw [refused]
    · rw [sent] at failed
      cases failed
    · exact absurd (reached.headerWritable_iff.mpr fine) unfit
  · intro cause failed
    obtain ⟨_, refused⟩ | ⟨_, _, _, ⟨_, _, _, sent⟩ | ⟨_, _, spent⟩⟩ := c.send_cases m now
    · rw [refused]
    · rw [sent] at failed
      cases failed
    · rw [spent] at failed
      cases failed

/-- A client with a sub-identifier logs on. Its logon can be written, and a logon whose text would be
read as two fields leaves no trace. -/
theorem send_refuses_first_logon :
    let config : SessionConfig :=
      { SessionConfig.default ⟨"CLIENT", by decide, by decide⟩ ⟨"SERVER", by decide, by decide⟩
          "FIX.4.4" with senderSubId := some "W1" }
    let now : Moment := ⟨⟨0⟩, 0⟩
    let logon := Message.ofType "FIX.4.4" .logon
    let smuggled := logon.set Tag.text "note\x01100=INJECTED"
    ∃ session, Session.opened config now now = .ok session ∧
      let c := Connection.create 1 session
      Session.Reached config c.session ∧ Wire.checkValues logon = .ok () ∧
        (∃ stamped after bytes, c.session.stamp logon now = .ok (stamped, after) ∧
          Wire.encode stamped = .ok bytes) ∧
        (c.send logon now).1 = .ok 1 ∧
        (∃ cause, (c.send smuggled now).1 = .error (.unencodable cause)) ∧
        (c.send smuggled now).2 = c := by
  intro config now logon smuggled
  obtain ⟨session, opened⟩ : ∃ session, Session.opened config now now = .ok session := ⟨_, rfl⟩
  refine ⟨session, opened, ?_⟩
  intro c
  have reached : Session.Reached config c.session := .opened opened
  have checked : Wire.checkValues logon = .ok () := by decide
  have fine : config.HeaderWritable := by
    refine ⟨?_, ?_, ?_, ?_⟩
    · exact (Wire.checkValue_eq_ok_iff _ _).mp (by decide)
    · exact (Wire.checkValue_eq_ok_iff _ _).mp (by decide)
    · rintro _ ⟨⟩
      exact (Wire.checkValue_eq_ok_iff _ _).mp (by decide)
    · rintro _ ⟨⟩
  have refused : (c.send smuggled now).1 =
      .error (.unencodable (.fieldValue Tag.text "value contains SOH")) := by
    rw [Session.opened_eq] at opened
    cases opened
    decide +kernel
  have accepted : (c.send logon now).1 = .ok 1 := by
    rw [Session.opened_eq] at opened
    cases opened
    decide +kernel
  have may : session.maySend logon.msgType = true := by
    rw [Session.opened_eq] at opened
    cases opened
    decide
  have stamps := (Session.stamp_eq_ok_iff c.session logon now _ _).mpr ⟨may, rfl, rfl⟩
  obtain ⟨bytes, encodes⟩ :=
    ((send_refuses_first config c reached logon now).1 _ _ checked stamps).mpr fine
  exact ⟨reached, checked, ⟨_, _, bytes, stamps, encodes⟩, accepted, ⟨_, refused⟩,
    (send_refuses_first config c reached smuggled now).2.2 _ refused⟩

/-- Validation lets an empty sub-identifier pass. Every value of the logon is fine and the session
stamps it, yet it cannot be written: its number is spent, nothing has been sent, the fault is not
named as one of encoding, and the connection is gone. -/
theorem send_spends_on_empty_sub_id :
    let config : SessionConfig :=
      { SessionConfig.default ⟨"CLIENT", by decide, by decide⟩ ⟨"SERVER", by decide, by decide⟩
          "FIX.4.4" with senderSubId := some "" }
    let now : Moment := ⟨⟨0⟩, 0⟩
    let logon := Message.ofType "FIX.4.4" .logon
    config.validate = .ok () ∧ ∃ session, Session.opened config now now = .ok session ∧
      Wire.checkValues logon = .ok () ∧
      (∃ stamped after, session.stamp logon now = .ok (stamped, after) ∧
        Wire.encode stamped = .error (.fieldValue Tag.senderSubId "empty value")) ∧
      let (result, after) := (Connection.create 1 session).send logon now
      result = .error (.connection
          "unencodable message: invalid field value for tag 50: empty value") ∧
        after.session.sequences.nextOut = 2 ∧ after.sent = [] ∧ after.closed = true := by
  intro config now logon
  refine ⟨by decide, _, Session.opened_eq .., by decide, ⟨_, _, rfl, by decide +kernel⟩, ?_⟩
  decide +kernel

end FixBench.Connection
