import FixBench.Proofs.Link.Admission
import FixBench.Proofs.Link.Progress
import FixBench.Proofs.Wire.Arrival

/-!
# Greetings

The first thing either side of a connection has to say is a logon. A `Greeting` is the frame of a logon
that asks for a number of seconds and that the other side can read. An endpoint that reads one, in
whatever pieces it arrives, still waits for the rest of it or has settled: its session works with that
number of seconds or has ended (`Endpoint.Hears.receive`, `Acceptor.Phase.Hears.receive`). An acceptor
that accepts a greeting answers with a greeting of the same number.
-/
namespace FixBench

/-! ### Logons on the wire -/

/-- The header makes a message of a known type complete. -/
theorem Session.deliverable_addHeader (s : Session) {m : Message} (composed : m.Composed)
    (version : [70, 73, 88] <+: Utf8.encode m.beginString) {type : String}
    (typed : m.get Tag.msgType = some type) (seq : Nat) (now : Moment) :
    Wire.Deliverable (s.addHeader m seq now) := by
  have headed := Wire.deliverable_headed composed version typed s.config.sender.text
    s.config.target.text (toString seq) now.timestamp.toText
  have named := headed.setIfSome Tag.senderSubId s.config.senderSubId (by decide)
  exact named.setIfSome Tag.targetSubId _ (by decide)

/-- The frame of a logon that asks for so many seconds. -/
structure Sent.Greeting (seconds : Nat) (frame : Sent) : Prop where
  deliverable : Wire.Deliverable frame.message
  encoded : Wire.encode frame.message = .ok frame.bytes
  logon : frame.message.get Tag.msgType = some MsgType.logon.text
  asks : frame.message.get Tag.heartBtInt = some (toString seconds)

theorem Session.greeting_addHeader (s : Session) {version : String}
    (fix : [70, 73, 88] <+: Utf8.encode version) (seconds seq : Nat) (now : Moment)
    {bytes : List UInt8}
    (encodes : Wire.encode (s.addHeader (.logonAt version seconds) seq now) = .ok bytes) :
    Sent.Greeting seconds ⟨s.addHeader (.logonAt version seconds) seq now, bytes⟩ := by
  have composed : (Message.logonAt version seconds).Composed :=
    ((Message.composed_ofType version .logon).set Tag.encryptMethod "0" (by decide)).set Tag.heartBtInt
      (toString seconds) (by decide)
  have typed : (Message.logonAt version seconds).get Tag.msgType = some MsgType.logon.text := by
    simp (disch := decide) only [Message.logonAt, Message.get_set_of_ne]
    rfl
  have asks : (Message.logonAt version seconds).get Tag.heartBtInt = some (toString seconds) :=
    Message.get_set_same ..
  have conveys := s.conveys_addHeader (.logonAt version seconds) seq now encodes
  refine ⟨s.deliverable_addHeader composed fix typed seq now, encodes, ?_, ?_⟩
  · rw [conveys.get (by decide)]
    exact typed
  · rw [conveys.get (by decide)]
    exact asks

/-- Who has said nothing and sends a logon says a greeting first, if anything. -/
theorem Connection.first_of_send_logon {c : Connection} (silent : c.sent = []) {version : String}
    (fix : [70, 73, 88] <+: Utf8.encode version) (seconds : Nat) (now : Moment) :
    ∀ frame ∈ (c.send (.logonAt version seconds) now).2.sent.head?, frame.Greeting seconds := by
  obtain ⟨fault, refused⟩ | ⟨stamped, session, stamps, written⟩ :=
    c.send_cases (.logonAt version seconds) now
  · rw [refused, silent]
    nofun
  · obtain ⟨-, rfl, -⟩ := (Session.stamp_eq_ok_iff ..).mp stamps
    rcases written with ⟨-, bytes, encodes, sends⟩ | ⟨-, reason, spent⟩
    · rw [sends, silent]
      rintro _ ⟨⟩
      exact c.session.greeting_addHeader fix seconds _ now encodes
    · rw [spent]
      show ∀ frame ∈ c.sent.head?, _
      rw [silent]
      nofun

/-! ### Having settled -/

namespace Connection

/-- The session works with so many seconds, or has ended. -/
structure Settled (seconds : Nat) (c : Connection) : Prop where
  begun : c.session.state = .active ∨ c.session.state = .disconnected
  interval : c.session.state = .active → c.session.liveness.interval = .ofSeconds seconds

/-- What is said first is a greeting, and whoever has said nothing has ended. -/
structure Greets (seconds : Nat) (c : Connection) : Prop where
  spoken : c.session.state = .disconnected ∨ c.sent ≠ []
  first : ∀ frame ∈ c.sent.head?, frame.Greeting seconds

variable {seconds : Nat} {c c' : Connection}

theorem Settled.of_disconnected (ended : c.session.state = .disconnected) : c.Settled seconds where
  begun := .inr ended
  interval active := by
    rw [active] at ended
    cases ended

theorem Settled.continue (settled : c.Settled seconds) (continues : c.Continues c') :
    c'.Settled seconds := by
  rcases continues.state with same | ended
  · refine ⟨?_, fun active => ?_⟩
    · rw [same]
      exact settled.begun
    · rw [continues.interval]
      exact settled.interval (same ▸ active)
  · exact .of_disconnected ended

theorem Settled.ne_logonPending (settled : c.Settled seconds) : c.session.state ≠ .logonPending := by
  rcases settled.begun with active | ended
  · rw [active]
    decide
  · rw [ended]
    decide

theorem Greets.grow (greets : c.Greets seconds) (grows : c.Grows c') : c'.Greets seconds := by
  obtain ⟨rest, longer⟩ := grows.sent
  -- What has been said first stays first, and who ended without a word says nothing more.
  rcases greets.spoken with ended | spoken
  · obtain ⟨still, same⟩ := grows.ended ended
    refine ⟨.inl still, ?_⟩
    rw [same]
    exact greets.first
  · refine ⟨.inr ?_, ?_⟩
    · rw [← longer]
      exact List.append_ne_nil_of_left_ne_nil spoken rest
    · rw [← longer, List.head?_append_of_ne_nil _ spoken]
      exact greets.first

end Connection

/-! ### Reading a greeting -/

theorem Session.seconds_of_negotiated {seconds asked : Nat} (small : asked < Numeral.limit64)
    (negotiated : negotiatedInterval (some (toString asked)) = .ok seconds) : seconds = asked := by
  obtain ⟨none, -⟩ | ⟨text, found, read, -⟩ := (negotiatedInterval_eq_ok_iff _ _).mp negotiated
  · cases none
  · cases found
    have value : ValueFormat.u64.read? (toString asked) = some asked := by
      show (Numeral.unsigned Numeral.limit64 (toString asked)).toOption = some asked
      rw [Numeral.unsigned_toString small]
      rfl
    exact Option.some.inj (read.symm.trans value)

/-- A message is the logon of a greeting. -/
structure Message.Greets (m : Message) (seconds : Nat) : Prop where
  logon : m.msgType = .logon
  asks : m.get Tag.heartBtInt = some (toString seconds)

section Reading

variable {seconds : Nat} (positive : 0 < seconds) (small : seconds < Numeral.limit64)
include positive small

theorem Connection.settled_noticing {c : Connection} (pending : c.session.state = .logonPending)
    {m : Message} (greets : m.Greets seconds) (now : Moment) :
    (c.noticing m now).Settled seconds := by
  have connected : c.session.state.isConnected = true := by
    rw [pending]
    rfl
  unfold noticing
  rcases answered : c.session.inbound m now with ⟨fault | answer, after⟩
  · exact .of_disconnected (Session.inbound_of_error connected answered).1
  · obtain ⟨-, -, means⟩ := (Session.inbound_eq_ok_iff ..).mp answered
    cases means with
    | @logon asked typed _ negotiated =>
      -- The number is positive, so the session takes it over in place of its own interval.
      rw [greets.asks] at negotiated
      obtain rfl := Session.seconds_of_negotiated small negotiated
      exact ⟨.inl rfl, fun _ => if_pos positive⟩
    | logout typed | heartbeat typed | testRequest typed =>
      rw [greets.logon] at typed
      cases typed
    | business typed => exact absurd greets.logon typed.not_logon

omit positive small in
/-- Whatever part has arrived of what was sent after a greeting: a first frame in it is the greeting,
and can be read. -/
theorem Sent.first_frame {sent : List Sent} (first : ∀ frame ∈ sent.head?, frame.Greeting seconds)
    {part : List UInt8} (front : part <+: sent.flatMap Sent.bytes) {limit length : Nat}
    (found : Wire.frameLength limit part = .ok (some length)) :
    ∃ m, Wire.decode (part.take length) = .ok m ∧ m.Greets seconds ∧
      [70, 73, 88] <+: Utf8.encode m.beginString := by
  cases sent with
  | nil =>
    -- Nothing has been sent, so nothing has arrived that could announce a frame.
    obtain rfl : part = [] := List.prefix_nil.mp front
    cases found
  | cons frame others =>
    have greeting : frame.Greeting seconds := first frame rfl
    obtain ⟨whole, m, decoded, version, same⟩ :=
      greeting.deliverable.first_frame greeting.encoded front found
    rw [whole]
    refine ⟨m, decoded, ⟨?_, ?_⟩, ?_⟩
    · rw [Message.msgType_of_get ((same _).trans greeting.logon)]
      rfl
    · rw [same]
      exact greeting.asks
    · rw [version]
      exact greeting.deliverable.version

/-- What an endpoint has made of the opening of a stream: it awaits the rest, or has settled. -/
def Endpoint.Hears (seconds : Nat) (heard : List UInt8) (e : Endpoint) : Prop :=
  e.connection.session.state = .logonPending ∧ e.ended = false ∧ e.buffer = heard ∨
    e.connection.Settled seconds

/-- The same for an acceptor, whose session is opened by the greeting and greets in return. -/
def Acceptor.Phase.Hears (seconds : Nat) (heard : List UInt8) : Acceptor.Phase → Prop
  | .awaitingLogon buffer => buffer = heard
  | .live e _ => e.connection.Settled seconds ∧ e.connection.Greets seconds
  | .dropped _ => True

/-- An endpoint reads on in what was sent after a greeting. -/
theorem Endpoint.Hears.receive {σ : Type} {role : Role σ} (continues : role.Continues)
    {e : Endpoint} {heard : List UInt8} (hears : e.Hears seconds heard)
    {sent : List Sent} (first : ∀ frame ∈ sent.head?, frame.Greeting seconds) {chunk : List UInt8}
    (front : heard ++ chunk <+: sent.flatMap Sent.bytes) (now : Moment) (s : σ) :
    (e.receive role now chunk s).2.Hears seconds (heard ++ chunk) := by
  rcases hears with ⟨pending, goesOn, rfl⟩ | settled
  swap
  · exact .inr (settled.continue (receive_continues continues settled.ne_logonPending chunk))
  cases framed : Wire.frameLength e.limit (e.buffer ++ chunk) with
  | error fault =>
    right
    rw [Endpoint.receive, goesOn, Wire.drain_of_error framed]
    exact .of_disconnected rfl
  | ok answer =>
    cases answer with
    | none =>
      left
      rw [Endpoint.receive, goesOn, Wire.drain_of_none framed]
      exact ⟨pending, rfl, rfl⟩
    | some length =>
      right
      obtain ⟨m, decoded, greets, -⟩ := Sent.first_frame first front framed
      refine Connection.Settled.continue ?_ (receive_continues_frames goesOn chunk)
      rw [Wire.drain_of_some framed]
      -- The greeting is handled with what is left over at the end already in the buffer.
      let rest := Wire.drain e.limit ((e.buffer ++ chunk).drop length)
      let drained : Endpoint := ⟨e.connection, rest.left, false⟩
      have taken : (drained.takeMessage role now m s).2.connection.Settled seconds :=
        (Connection.settled_noticing positive small pending greets now).continue
          (takeMessage_continues_noticing (e := drained) continues m)
      simp only [takeFrames, goesOn, Bool.false_eq_true, if_false, decoded]
      exact taken.continue (takeFrames_continues continues taken.ne_logonPending rest.frames)

namespace Acceptor

variable {σ : Type} {config : AcceptorConfig} {app : Application σ} {id : Nat} {now : Moment} {s : σ}

omit positive small in
theorem Phase.Hears.receive_live {e : Endpoint} {loggedOn : Bool} {heard : List UInt8}
    (hears : (Phase.live e loggedOn).Hears seconds heard) (chunk heard' : List UInt8) :
    (receive config app id now chunk s (.live e loggedOn)).2.Hears seconds heard' := by
  obtain ⟨settled, greets⟩ := hears
  have continues :
      e.connection.Continues (e.receive (role app) now chunk ⟨s, loggedOn⟩).2.connection :=
    Endpoint.receive_continues (role_continues app) settled.ne_logonPending chunk
  exact ⟨settled.continue continues, greets.grow continues.toGrows⟩

/-- An acceptor handles a greeting, and whatever has arrived behind it. -/
theorem hears_begin {input : List UInt8} {m : Message} (decoded : Wire.decode input = .ok m)
    (greets : m.Greets seconds) (version : [70, 73, 88] <+: Utf8.encode m.beginString)
    (behind heard : List UInt8) : (begin config app id now m behind s).2.Hears seconds heard := by
  -- What is behind the greeting is read on whatever connection the greeting has left.
  rw [begin_eq_receive]
  by_cases admissible : ∃ asked, Admissible config m asked
  · obtain ⟨asked, admits⟩ := admissible
    obtain rfl : asked = seconds := by
      apply Session.seconds_of_negotiated small
      rw [← greets.asks]
      exact (Session.negotiatedInterval_eq_ok_iff ..).mpr admits.interval
    obtain ⟨client, c, frame, begins, sends, -, sent, -⟩ :=
      begin_of_admissible app id now s decoded admits
    have opened : (admitted config client id m now asked).Settled asked :=
      ⟨.inl rfl, fun _ => if_pos positive⟩
    have continues : (admitted config client id m now asked).Continues c :=
      sends ▸ Connection.continues_send _ _ now
    have first : ∀ frame ∈ c.sent.head?, frame.Greeting asked :=
      sends ▸ Connection.first_of_send_logon rfl version asked now
    have spoken : c.sent ≠ [] := by
      rw [sent]
      exact List.cons_ne_nil _ _
    have hears : (Phase.live ⟨c, [], false⟩ true).Hears asked heard :=
      ⟨opened.continue continues, .inr spoken, first⟩
    rw [begins]
    exact hears.receive_live behind heard
  · obtain ⟨phase, begins, turnedAway⟩ := begin_of_not_admissible app id now s (not_exists.mp admissible)
    rw [begins]
    cases turnedAway with
    | unheard fault => trivial
    | @ended c fault closed silent reason disconnected =>
      have first : ∀ frame ∈ c.sent.head?, frame.Greeting seconds := by
        rw [silent]
        nofun
      have hears : (Phase.live ⟨c, [], true⟩ false).Hears seconds heard :=
        ⟨.of_disconnected disconnected, .inl disconnected, first⟩
      exact hears.receive_live behind heard

/-- An acceptor reads on in what was sent after a greeting. -/
theorem Phase.Hears.receive {phase : Phase} {heard : List UInt8} (hears : phase.Hears seconds heard)
    {sent : List Sent} (first : ∀ frame ∈ sent.head?, frame.Greeting seconds) {chunk : List UInt8}
    (front : heard ++ chunk <+: sent.flatMap Sent.bytes) :
    (Acceptor.receive config app id now chunk s phase).2.Hears seconds (heard ++ chunk) := by
  cases phase with
  | dropped failure => trivial
  | live e loggedOn => exact hears.receive_live chunk _
  | awaitingLogon buffer =>
    obtain rfl : buffer = heard := hears
    cases framed : Wire.frameLength config.maxMessageSize (buffer ++ chunk) with
    | error fault =>
      simp only [Acceptor.receive, framed]
      trivial
    | ok answer =>
      cases answer with
      | none =>
        simp only [Acceptor.receive, framed]
        rfl
      | some length =>
        obtain ⟨m, decoded, greets, version⟩ := Sent.first_frame first front framed
        simp only [Acceptor.receive, framed, decoded]
        exact hears_begin positive small decoded greets version _ _

end Acceptor

end Reading

end FixBench
