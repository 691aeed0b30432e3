import FixBench.Proofs.Link.Standing
import FixBench.Proofs.Session.Gate
import FixBench.Proofs.Wire.Framing

/-!
# Who is let in

Whether a first message logs its client on is decided in four places: the acceptor checks type and
identifiers, configures a session from the message itself, and lets the session check the number, the
identifiers once more and the interval asked for. Taken together the message must be `Admissible`, and
this is all: no check stands in the way of another, and the reply can always be written
(`begin_of_admissible`). Whoever else calls is `TurnedAway` without a word.

What arrives behind the first message makes no difference to this: it is read as if it had arrived
later (`begin_eq_receive`).
-/
namespace FixBench

/-! ### Reading on -/

namespace Endpoint

variable {σ : Type} {role : Role σ} {now : Moment} {m : Message} {s : σ} {e : Endpoint}

/-- Handling a message leaves what has been read of the next one as it is. -/
theorem buffer_takeMessage : (e.takeMessage role now m s).2.buffer = e.buffer := by
  have finished (fault : Option SessionFault) (s : σ) (e : Endpoint) :
      (e.finish role fault s).2.buffer = e.buffer := rfl
  have reacted (event : SessionEvent) (e : Endpoint) :
      (e.react role now event s).2.buffer = e.buffer := by
    unfold react
    dsimp only
    split
    · rfl
    · split <;> rfl
  unfold takeMessage
  dsimp only
  split
  · rfl
  · rfl
  · split <;> rfl
  · exact reacted ..
  · exact reacted ..
  · exact reacted ..

theorem receive_nil (empty : e.buffer = []) : e.receive role now [] s = (s, e) := by
  have drained : Wire.drain e.limit [] = ⟨[], none, []⟩ := Wire.drain_of_none rfl
  unfold receive
  rw [empty, List.append_nil, drained]
  split
  · rfl
  · rw [← empty]
    rfl

end Endpoint

namespace Acceptor

variable {σ : Type} {config : AcceptorConfig} {app : Application σ} {id : Nat} {now : Moment}
  {s : σ} {m : Message}

/-- What was read behind the first message might as well have arrived after it had been handled. -/
theorem begin_eq_receive (rest : List UInt8) :
    begin config app id now m rest s =
      receive config app id now rest (begin config app id now m [] s).1
        (begin config app id now m [] s).2 := by
  unfold begin
  cases openConnection config id m now with
  | error fault => rfl
  | ok c =>
    have empty : ((Endpoint.create c).takeMessage (role app) now m ⟨s, false⟩).2.buffer = [] :=
      Endpoint.buffer_takeMessage
    simp only [onEndpoint, Endpoint.receive_nil empty]
    rfl

/-! ### The decision -/

/-- A first message that logs its client on, and the interval in seconds that it asks for. -/
structure Admissible (config : AcceptorConfig) (m : Message) (seconds : Nat) : Prop where
  logon : m.msgType = .logon
  target : m.get Tag.targetCompId = some config.compId.text
  sender : ∃ client, m.get Tag.senderCompId = some client ∧
    1 ≤ client.utf8ByteSize ∧ client.utf8ByteSize ≤ 32 ∧
      ∀ expected ∈ config.expectedClient, client = expected.text
  number : ∃ text, m.get Tag.msgSeqNum = some text ∧ SequenceNumbers.Denotes text 1
  interval : (m.get Tag.heartBtInt = none ∧ seconds = 0) ∨
    ∃ text, m.get Tag.heartBtInt = some text ∧ ValueFormat.u64.read? text = some seconds ∧
      seconds ≤ 86400

/-- The session a logon opens, as it awaits this very logon. -/
def awaiting (config : AcceptorConfig) (client : CompId) (m : Message) (now : Moment) : Session where
  config := sessionConfig config client m
  state := .logonPending
  sequences := .initial
  liveness := .start config.heartbeatInterval now
  counterpartySubId := none

theorem openConnection_eq (config : AcceptorConfig) (id : Nat) (m : Message) (now : Moment) :
    openConnection config id m now =
      (checkLogon config m).map fun client => .create id (awaiting config client m now) := by
  unfold openConnection
  cases checkLogon config m <;> rfl

/-- What the acceptor checks, together with what the session it configures checks. -/
theorem admissible_iff (now : Moment) (seconds : Nat) :
    Admissible config m seconds ↔
      ∃ client, checkLogon config m = .ok client ∧ (awaiting config client m now).Admits m seconds := by
  constructor
  · rintro ⟨logon, target, ⟨text, named, nonempty, short, only⟩, number, interval⟩
    have some_text : text ≠ "" := by
      rintro rfl
      cases nonempty
    let client : CompId := ⟨text, some_text, short⟩
    refine ⟨client, (checkLogon_eq_ok_iff ..).mpr ⟨logon, target, named, only⟩, rfl, logon, ?_, interval⟩
    exact ⟨(SequenceNumbers.read?_eq_some_iff _ _).mpr number, named, target⟩
  · rintro ⟨client, admitted, admits⟩
    obtain ⟨logon, target, named, only⟩ := (checkLogon_eq_ok_iff ..).mp admitted
    have nonempty : 1 ≤ client.text.utf8ByteSize := by
      rw [Nat.one_le_iff_ne_zero]
      exact fun zero => client.nonempty (String.utf8ByteSize_eq_zero_iff.mp zero)
    refine ⟨logon, target, ⟨client.text, named, nonempty, client.length_le, only⟩, ?_, admits.asked⟩
    exact (SequenceNumbers.read?_eq_some_iff _ _).mp admits.inOrder.number

/-- A client that is not let in: its connection is dropped, or the session opened for it ends with a
fault before anything has been sent. -/
inductive TurnedAway : Phase → Prop
  | unheard (fault : SessionFault) : TurnedAway (.dropped (.session fault))
  | ended {c : Connection} {fault : SessionFault} (closed : c.closed = true)
      (silent : c.sent = []) (reason : c.closeReason = some fault)
      (disconnected : c.session.state = .disconnected) : TurnedAway (.live ⟨c, [], true⟩ false)

/-- The session of the connection is active. -/
def Phase.IsActive (phase : Phase) : Prop :=
  ∃ c, phase.connection? = some c ∧ c.session.state = .active

theorem TurnedAway.not_isActive {phase : Phase} (turnedAway : TurnedAway phase) :
    ¬ phase.IsActive := by
  rintro ⟨c, there, active⟩
  cases turnedAway with
  | unheard => cases there
  | ended _ _ _ disconnected =>
    cases there
    rw [disconnected] at active
    cases active

theorem checkValues_logonReply {c : Connection}
    (version : Wire.Writable Tag.beginString c.session.config.version) (seconds : Nat) :
    Wire.checkValues (logonReply c seconds) = .ok () :=
  (Message.checkValues_logonAt_iff _ seconds).mpr version

variable (app now) in
/-- Accepting a logon is answered with one frame, and the application hears of it. -/
theorem react_logonAccepted {settings : SessionConfig} {e : Endpoint} {d : Desk σ}
    (service : e.connection.InService settings id) (speaks : settings.Speaks) (seconds : Nat) :
    ∃ frame c, e.react (role app) now (.logonAccepted seconds) d =
        (⟨app.onLogon c d.application, true⟩, { e with connection := c }) ∧
      (e.connection.send (logonReply e.connection seconds) now).2 = c ∧
      c.InService settings id ∧ c.sent = e.connection.sent ++ [frame] ∧
      frame.Conveys (logonReply e.connection seconds) := by
  have version : Wire.Writable Tag.beginString e.connection.session.config.version := by
    rw [service.config_eq]
    exact speaks.version
  obtain ⟨seq, frame, c, sends, sent, conveys, serves, -⟩ :=
    Connection.send_inService service speaks (checkValues_logonReply version seconds) now
  refine ⟨frame, c, ?_, congrArg Prod.snd sends, serves, sent, conveys⟩
  have goesOn : c.closed = false := serves.isOpen
  simp only [Endpoint.react, role, handle, sends, goesOn]
  rfl

/-- Nothing is left to be read behind a message that has been handled alone. -/
theorem begin_of_takeMessage {c : Connection} {d : Desk σ} {e : Endpoint}
    (opens : openConnection config id m now = .ok c)
    (takes : (Endpoint.create c).takeMessage (role app) now m ⟨s, false⟩ = (d, e)) :
    begin config app id now m [] s = (d.application, .live e d.loggedOn) := by
  have empty : e.buffer = [] := by
    have kept : ((Endpoint.create c).takeMessage (role app) now m ⟨s, false⟩).2.buffer = [] :=
      Endpoint.buffer_takeMessage
    rw [takes] at kept
    exact kept
  simp only [begin, opens, onEndpoint, takes, Endpoint.receive_nil empty]

/-- The connection of a logon that has just been accepted. -/
def admitted (config : AcceptorConfig) (client : CompId) (id : Nat) (m : Message) (now : Moment)
    (seconds : Nat) : Connection :=
  .create id (((awaiting config client m now).noticed m now).welcomed m seconds)

variable (app id now s) in
/-- What is admissible is accepted by the session, and nothing stands in the way of the reply. -/
theorem begin_of_admissible {input : List UInt8} (decoded : Wire.decode input = .ok m) {seconds : Nat}
    (admissible : Admissible config m seconds) :
    ∃ client c frame, begin config app id now m [] s = (app.onLogon c s, .live ⟨c, [], false⟩ true) ∧
      ((admitted config client id m now seconds).send
        (logonReply (admitted config client id m now seconds) seconds) now).2 = c ∧
      c.session.state = .active ∧ c.sent = [frame] ∧
      frame.Conveys (logonReply (admitted config client id m now seconds) seconds) := by
  obtain ⟨client, checked, admits⟩ := (admissible_iff now seconds).mp admissible
  let waiting := awaiting config client m now
  let active := (waiting.noticed m now).welcomed m seconds
  have accepts : waiting.inbound m now = (.ok (.logonAccepted seconds), active) :=
    Session.inbound_of_admits admits now
  have service : Connection.InService (sessionConfig config client m) id (.create id active) := by
    have opened : Session.Reached (sessionConfig config client m) waiting :=
      .opened (Session.opened_eq _ now now)
    have reached := Session.Reached.inbound now opened decoded
    rw [accepts] at reached
    exact ⟨⟨rfl, reached, by rintro ⟨⟩, fun _ => rfl⟩, rfl⟩
  -- The reply is written by a session that is active already, so it is sent like any other message.
  obtain ⟨frame, c, reacts, sends, serves, sent, conveys⟩ :=
    react_logonAccepted app now (e := .create (.create id active))
      (d := ⟨s, false⟩) service (speaks_sessionConfig decoded checked) seconds
  have opens : openConnection config id m now = .ok (.create id waiting) := by
    rw [openConnection_eq, checked]
    rfl
  have takes : (Endpoint.create (.create id waiting)).takeMessage (role app) now m ⟨s, false⟩ =
      (⟨app.onLogon c s, true⟩, ⟨c, [], false⟩) := by
    rw [Endpoint.takeMessage]
    simp only [Endpoint.create, Connection.create, accepts]
    exact reacts
  exact ⟨client, c, frame, begin_of_takeMessage opens takes, sends, serves.active, sent, conveys⟩

/-- The reply is a logon at the interval that was asked for. -/
theorem get_of_conveys_logonReply {frame : Sent} {c : Connection} {seconds : Nat}
    (conveys : frame.Conveys (logonReply c seconds)) :
    frame.message.get Tag.msgType = some MsgType.logon.text ∧
      frame.message.get Tag.heartBtInt = some (toString seconds) := by
  rw [conveys.get (by decide), conveys.get (by decide)]
  refine ⟨?_, Message.get_set_same ..⟩
  simp (disch := decide) only [logonReply, Message.get_set_of_ne]
  rfl

variable (app id now s) in
/-- Whatever is not admissible ends the connection before anything has been sent, and the application
never hears of it. -/
theorem begin_of_not_admissible (refused : ∀ seconds, ¬ Admissible config m seconds) :
    ∃ phase, begin config app id now m [] s = (s, phase) ∧ TurnedAway phase := by
  cases checked : checkLogon config m with
  | error fault =>
    refine ⟨_, ?_, .unheard fault⟩
    rw [begin, openConnection_eq, checked]
    rfl
  | ok client =>
    let waiting := awaiting config client m now
    -- A logon is either accepted or a fault.
    obtain ⟨fault, ended, faulty⟩ : ∃ fault ended, waiting.inbound m now = (.error fault, ended) := by
      obtain ⟨logon, -⟩ := (checkLogon_eq_ok_iff ..).mp checked
      rcases answered : waiting.inbound m now with ⟨fault | answer, after⟩
      · exact ⟨fault, after, rfl⟩
      · obtain ⟨-, -, means⟩ := (Session.inbound_eq_ok_iff ..).mp answered
        cases means with
        | @logon seconds =>
          have admits := (Session.inbound_logonAccepted_iff waiting m now seconds).mp
            (congrArg Prod.fst answered)
          exact absurd ((admissible_iff now seconds).mpr ⟨client, checked, admits⟩)
            (refused seconds)
        | logout typed | heartbeat typed | testRequest typed =>
          rw [logon] at typed
          cases typed
        | business typed => exact absurd logon typed.not_logon
    obtain ⟨disconnected, -⟩ := Session.inbound_of_error rfl faulty
    let c : Connection := Connection.fail { Connection.create id waiting with session := ended } fault
    have opens : openConnection config id m now = .ok (.create id waiting) := by
      rw [openConnection_eq, checked]
      rfl
    have takes : (Endpoint.create (.create id waiting)).takeMessage (role app) now m ⟨s, false⟩ =
        (⟨s, false⟩, ⟨c, [], true⟩) := by
      rw [Endpoint.takeMessage]
      simp only [Endpoint.create, Connection.create, faulty]
      rfl
    exact ⟨_, begin_of_takeMessage opens takes, .ended rfl rfl rfl rfl⟩

/-- **Who is let in.** Whatever bytes have arrived, once they open with a frame that decodes, the
acceptor handles the message as if nothing had arrived behind it, and the rest as if it had arrived
later. By handling the message its session becomes active if and only if the message is admissible. If
it is, the one frame sent is a logon with the interval asked for, and the application hears of the
client. If it is not, the connection ends with a fault, nothing is sent and the application hears
nothing. -/
theorem first_message_decides (config : AcceptorConfig) (app : Application σ) (id : Nat)
    (now : Moment) (s : σ) {buffer chunk : List UInt8} {length : Nat} {m : Message}
    (framed : Wire.frameLength config.maxMessageSize (buffer ++ chunk) = .ok (some length))
    (decoded : Wire.decode ((buffer ++ chunk).take length) = .ok m) :
    let alone := begin config app id now m [] s
    receive config app id now chunk s (.awaitingLogon buffer) =
        receive config app id now ((buffer ++ chunk).drop length) alone.1 alone.2 ∧
      (alone.2.IsActive ↔ ∃ seconds, Admissible config m seconds) ∧
      (∀ seconds, Admissible config m seconds →
        ∃ c frame, alone = (app.onLogon c s, .live ⟨c, [], false⟩ true) ∧ c.sent = [frame] ∧
          frame.message.get Tag.msgType = some MsgType.logon.text ∧
          frame.message.get Tag.heartBtInt = some (toString seconds) ∧
          Wire.encode frame.message = .ok frame.bytes) ∧
      ((∀ seconds, ¬ Admissible config m seconds) → alone.1 = s ∧ TurnedAway alone.2) := by
  intro alone
  have arrives : receive config app id now chunk s (.awaitingLogon buffer) =
      begin config app id now m ((buffer ++ chunk).drop length) s := by
    simp only [receive, framed, decoded]
  refine ⟨arrives.trans (begin_eq_receive _), ?_⟩
  by_cases admissible : ∃ seconds, Admissible config m seconds
  · refine ⟨?_, ?_, fun refused => absurd admissible (not_exists.mpr refused)⟩
    · obtain ⟨asked, admits⟩ := admissible
      obtain ⟨-, c, -, begins, -, active, -⟩ :=
        begin_of_admissible app id now s decoded admits
      have isActive : alone.2.IsActive := ⟨c, congrArg (fun result => result.2.connection?) begins, active⟩
      exact iff_of_true isActive ⟨asked, admits⟩
    · intro seconds admits
      obtain ⟨_, c, frame, begins, -, -, sent, conveys⟩ :=
        begin_of_admissible app id now s decoded admits
      obtain ⟨typed, interval⟩ := get_of_conveys_logonReply conveys
      exact ⟨c, frame, begins, sent, typed, interval, conveys.encoded⟩
  · obtain ⟨phase, begins, turnedAway⟩ := begin_of_not_admissible app id now s (not_exists.mp admissible)
    have here : alone = (s, phase) := begins
    rw [here]
    exact ⟨iff_of_false turnedAway.not_isActive admissible,
      fun seconds admits => absurd ⟨seconds, admits⟩ admissible, fun _ => ⟨rfl, turnedAway⟩⟩

/-- An acceptor expects one client. The logon it sends shows its number with leading zeros and the
interval with a sign, and a heartbeat has arrived behind it. It is let in, at the interval it asks
for. -/
theorem first_message_decides_signed :
    let config : AcceptorConfig :=
      { AcceptorConfig.default "" ⟨"S", by decide, by decide⟩ with
        expectedClient := some ⟨"CLIENT", by decide, by decide⟩ }
    let message (type : MsgType) (number : String) : Message :=
      ((((Message.ofType "FIX.4.2" type).set Tag.senderCompId "CLIENT").set Tag.targetCompId "S").set
        Tag.msgSeqNum number).set Tag.sendingTime "-"
    let frame (m : Message) : List UInt8 := (Wire.encode m).toOption.getD []
    let logon := frame ((message .logon "001").set Tag.heartBtInt "+5")
    let behind := frame (message .heartbeat "2")
    let now : Moment := ⟨⟨0⟩, 0⟩
    let arrives := receive config .silent 1 now (logon ++ behind) () (.awaitingLogon [])
    ∃ c reply, arrives = receive config .silent 1 now behind () (.live ⟨c, [], false⟩ true) ∧
      c.sent = [reply] ∧ reply.message.get Tag.heartBtInt = some "5" := by
  intro config message frame logon behind now arrives
  let m := (Wire.decode logon).toOption.getD (message .logon "001")
  have framed : Wire.frameLength config.maxMessageSize ([] ++ (logon ++ behind)) =
      .ok (some logon.length) := by decide +kernel
  have decoded : Wire.decode (([] ++ (logon ++ behind)).take logon.length) = .ok m := by
    decide +kernel
  have admissible : Admissible config m 5 := by
    refine ⟨by decide +kernel, by decide +kernel, ⟨"CLIENT", by decide +kernel, by decide, by decide, ?_⟩,
      (SequenceNumbers.read?_eq_some_iff _ _).mp (by decide +kernel),
      .inr ⟨"+5", by decide +kernel, by decide +kernel, by decide⟩⟩
    rintro _ ⟨⟩
    rfl
  obtain ⟨reads, -, letIn, -⟩ := first_message_decides config .silent 1 now () framed decoded
  obtain ⟨c, reply, alone, sent, -, interval, -⟩ := letIn 5 admissible
  have rest : ([] ++ (logon ++ behind)).drop logon.length = behind := List.drop_left
  rw [alone, rest] at reads
  exact ⟨c, reply, reads, sent, interval⟩

end Acceptor

end FixBench
