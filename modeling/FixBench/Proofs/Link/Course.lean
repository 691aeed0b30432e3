import FixBench.Proofs.Link.Conversation
import FixBench.Proofs.Link.Service

/-!
# How a conversation goes on

The reader stands somewhere in its conversation, and its `Course` says where: there is one case for each
duty, and two for the ways in which a conversation ends, when the client logs out and when it keeps
silent and is given up. A step of the reader goes on with the conversation and writes what there is to
be said (`Course.advance`); a look at the clock leaves it where it is and writes a sign of life at most
(`Course.look`).
-/
namespace FixBench.Acceptor

variable {σ : Type}

namespace Service

/-! ### Where the reader stands -/

def nextIn (v : Service σ) : Nat := v.connection.session.sequences.nextIn

/-- The reader can go on, and what has arrived is in sequence. -/
structure GoesOn (visit : Visit σ) (v : Service σ) : Prop where
  service : v.connection.InService visit.settings visit.id
  goesOn : v.endpoint.ended = false
  due : InSequence visit.settings v.nextIn (messagesOf v.frames)

/-- All that has been taken has been answered, but for what the reader has in hand. -/
structure Answering (visit : Visit σ) (messages : List Message) (rest : List Message)
    (leaving : Bool) (v : Service σ) (frames : List Sent) : Prop extends GoesOn visit v where
  writable : ∀ m ∈ rest, Wire.checkValues m = .ok ()
  course : ∃ taken answers, messages = taken ++ messagesOf v.frames ∧
    visit.Conversation taken answers v.nextIn v.desk.application ∧
    (leaving = true ↔ ∃ m ∈ taken, m.msgType = .logout) ∧ Told answers rest frames

/-- All that has been taken has been answered, but for a message to be put to the application. -/
structure Consulting (visit : Visit σ) (messages : List Message) (m : Message) (v : Service σ)
    (frames : List Sent) : Prop extends GoesOn visit v where
  decoded : ∃ frame, Wire.decode frame = .ok m
  business : m.msgType.IsBusiness
  course : ∃ taken answers number, messages = taken ++ m :: messagesOf v.frames ∧
    IsDue visit.settings number m ∧ v.nextIn = SequenceNumbers.following number ∧
    visit.Conversation taken answers number v.desk.application ∧
    (∀ earlier ∈ taken, earlier.msgType ≠ .logout) ∧ Told answers [] frames

/-- The client has been told all there was to say, and has left. -/
structure Left (visit : Visit σ) (messages : List Message) (v : Service σ) (frames : List Sent) :
    Prop where
  free : v.duty = .free
  ended : v.endpoint.ended = true
  disconnected : v.connection.session.state = .disconnected
  closed : v.connection.closed = true
  orderly : v.connection.closeReason = none
  course : ∃ taken waiting answers number s, messages = taken ++ waiting ∧
    visit.Conversation taken answers number s ∧ (∃ m ∈ taken, m.msgType = .logout) ∧
    Told answers [] frames

/-- The client has kept silent, and nothing more is said. -/
structure Abandoned (visit : Visit σ) (messages : List Message) (v : Service σ)
    (frames : List Sent) : Prop where
  givenUp : v.connection.GivenUp
  course : ∃ taken waiting answers number s unsaid, messages = taken ++ waiting ∧
    visit.Conversation taken answers number s ∧ Told answers unsaid frames

/-- Where the reader stands among the messages, when `frames` have been written to answer them. -/
inductive Course (visit : Visit σ) (messages : List Message) (v : Service σ) (frames : List Sent) :
    Prop
  | free : v.duty = .free → Answering visit messages [] false v frames → Course visit messages v frames
  | consult {m : Message} : v.duty = .consult m → Consulting visit messages m v frames →
      Course visit messages v frames
  | reply {rest : List Message} {leaving : Bool} : v.duty = .reply rest leaving →
      Answering visit messages rest leaving v frames → Course visit messages v frames
  | left : Left visit messages v frames → Course visit messages v frames
  | abandoned : Abandoned visit messages v frames → Course visit messages v frames

variable {visit : Visit σ} {messages : List Message} {v : Service σ} {frames : List Sent}
  {m : Message}

/-! ### Taking a message -/

theorem messagesOf_cons {frame : List UInt8} {m : Message} (decoded : Wire.decode frame = .ok m)
    (rest : List (List UInt8)) : messagesOf (frame :: rest) = m :: messagesOf rest := by
  simp [messagesOf, decoded, Except.toOption]

/-- The answer to a message is added to those before it. -/
theorem answering_of_answer {taken : List Message} {answers : List (List Message)} {number : Nat}
    {s : σ} {m : Message} {answer : List Message} {leaving : Bool} (goesOn : GoesOn visit v)
    (all : messages = taken ++ m :: messagesOf v.frames)
    (conversation : visit.Conversation taken answers number s)
    (staying : ∀ earlier ∈ taken, earlier.msgType ≠ .logout) (told : Told answers [] frames)
    (isDue : IsDue visit.settings number m)
    (next : v.nextIn = SequenceNumbers.following number)
    (answered : visit.Answer m number s answer v.desk.application)
    (writable : ∀ response ∈ answer, Wire.checkValues response = .ok ())
    (leaves : leaving = true ↔ m.msgType = .logout) :
    Answering visit messages answer leaving v frames := by
  refine ⟨goesOn, writable, taken ++ [m], answers ++ [answer], ?_, ?_, ?_, told.owe answer⟩
  · rw [all, List.append_assoc, List.singleton_append]
  · rw [next]
    exact .take conversation staying isDue answered
  · rw [leaves]
    constructor
    · intro logout
      exact ⟨m, by simp, logout⟩
    · rintro ⟨other, member, logout⟩
      rcases List.mem_append.mp member with earlier | last
      · exact absurd logout (staying other earlier)
      · rwa [List.mem_singleton.mp last] at logout

/-- The next message is the one that is due. -/
theorem GoesOn.next (goesOn : GoesOn visit v) {frame : List UInt8} {rest : List (List UInt8)}
    (arrived : v.frames = frame :: rest) (decoded : Wire.decode frame = .ok m) :
    IsDue visit.settings v.nextIn m ∧ v.connection.session.InOrder m ∧
      InSequence visit.settings (SequenceNumbers.following v.nextIn) (messagesOf rest) := by
  have due := goesOn.due
  rw [arrived, messagesOf_cons decoded] at due
  obtain ⟨isDue, later⟩ := due
  have settings := goesOn.service.config_eq
  exact ⟨isDue, ⟨(SequenceNumbers.read?_eq_some_iff ..).mpr isDue.number, settings ▸ isDue.sender,
    settings ▸ isDue.target⟩, later⟩

/-- The reader has taken notice of a message and has yet to do something about it. -/
def noticing (v : Service σ) (m : Message) (rest : List (List UInt8)) (now : Moment) : Service σ :=
  withConnection { v with frames := rest }
    { v.connection with session := v.connection.session.noticed m now }

/-- What is the session's own business is ready to be answered, and the rest is put to the
application. -/
theorem Answering.take (answering : Answering visit messages [] false v frames)
    (speaks : visit.settings.Speaks) (free : v.duty = .free) {frame : List UInt8}
    {rest : List (List UInt8)} (arrived : v.frames = frame :: rest)
    (decoded : Wire.decode frame = .ok m) (now : Moment) :
    ({ v with frames := rest }.take visit.app now m).connection.sent = v.connection.sent ∧
      Course visit messages ({ v with frames := rest }.take visit.app now m) frames := by
  obtain ⟨isDue, inOrder, later⟩ := answering.toGoesOn.next arrived decoded
  -- The session has no fault to find with it.
  obtain ⟨answer, answered, meaning⟩ :=
    Session.inbound_of_active answering.service.active inOrder isDue.no_logon now
  have consistent := answering.service.toConsistent.inbound decoded now
  rw [answered] at consistent
  have service := consistent.inService answering.service.active
  obtain ⟨taken, answers, all, conversation, staying, told⟩ := answering.course
  rw [arrived, messagesOf_cons decoded] at all
  simp only [Bool.false_eq_true, false_iff, not_exists, not_and] at staying
  have version : Wire.Writable Tag.beginString (v.connection.session.noticed m now).config.version := by
    show Wire.Writable Tag.beginString v.connection.session.config.version
    rw [answering.service.config_eq]
    exact speaks.version
  have answering_with {reply : List Message} {leaving : Bool} {duty : Duty}
      (told_to : visit.Answer m v.nextIn v.desk.application reply v.desk.application)
      (writable : ∀ response ∈ reply, Wire.checkValues response = .ok ())
      (leaves : leaving = true ↔ m.msgType = .logout) :
      Answering visit messages reply leaving { v.noticing m rest now with duty } frames :=
    answering_of_answer ⟨service, answering.goesOn, later⟩ all conversation staying told isDue rfl
      told_to writable leaves
  have same : connection { v with frames := rest } = v.connection := rfl
  rcases meaning with ⟨typed, rfl⟩ | ⟨typed, rfl⟩ | ⟨typed, rfl⟩ | ⟨business, rfl⟩
  · have takes : { v with frames := rest }.take visit.app now m =
        { v.noticing m rest now with
          duty := .reply [(v.connection.session.noticed m now).logoutMessage none] true } := by
      simp only [Service.take, same, answered]
      rfl
    rw [takes]
    refine ⟨rfl, .reply rfl (answering_with (.logout typed rfl) ?_ (by simp [typed]))⟩
    simpa using Session.checkValues_logoutMessage version
  · have takes : { v with frames := rest }.take visit.app now m =
        { v.noticing m rest now with duty := .free } := by
      simp only [Service.take, same, answered]
      rw [← free]
      rfl
    rw [takes]
    exact ⟨rfl, .free rfl (answering_with (.heartbeat typed) (by simp) (by simp [typed]))⟩
  · have takes : { v with frames := rest }.take visit.app now m =
        { v.noticing m rest now with
          duty := .reply [(v.connection.session.noticed m now).heartbeatReply m] false } := by
      simp only [Service.take, same, answered]
      rfl
    rw [takes]
    refine ⟨rfl, .reply rfl (answering_with (.testRequest typed ?_ ?_) ?_ (by simp [typed]))⟩
    · rw [Session.heartbeatReply, Message.get_setIfSome_of_ne _ _ (by decide)]
      rfl
    · rw [Session.heartbeatReply, Message.get_setIfSome_same]
      exact Option.or_none
    · simpa using Session.checkValues_heartbeatReply version decoded
  · have takes : { v with frames := rest }.take visit.app now m =
        { v.noticing m rest now with duty := .consult m } := by
      simp only [Service.take, same, answered]
      rfl
    rw [takes]
    exact ⟨rfl, .consult rfl ⟨⟨service, answering.goesOn, later⟩, ⟨frame, decoded⟩, business, taken,
      answers, v.nextIn, all, isDue, rfl, conversation, staying, told⟩⟩

/-- The answer to a message that is not the session's own can be written. -/
theorem answer_consult {c : Connection} {frame : List UInt8} {number : Nat}
    (encodable : visit.app.Encodable) (service : c.InService visit.settings visit.id)
    (decoded : Wire.decode frame = .ok m) (business : m.msgType.IsBusiness)
    (isDue : IsDue visit.settings number m) (s : σ) :
    visit.Answer m number s (responsesTo m (Acceptor.consult visit.app m c s).1)
        (Acceptor.consult visit.app m c s).2 ∧
      ∀ response ∈ responsesTo m (Acceptor.consult visit.app m c s).1,
        Wire.checkValues response = .ok () := by
  have rejects := rejects_rejectFor (Wire.get_msgType_of_decode decoded)
    (Message.seqNum?_of_read? ((SequenceNumbers.read?_eq_some_iff ..).mpr isDue.number))
  have fit {reason : RejectReason} (fit : Wire.soh ∉ Utf8.encode reason.text) :
      ∀ response ∈ [rejectFor m reason], Wire.checkValues response = .ok () := by
    simpa using checkValues_rejectFor decoded fit
  by_cases known : ∀ code, m.msgType ≠ .custom code
  · have asked : Acceptor.consult visit.app m c s = visit.app.onMessage m c s := by
      unfold Acceptor.consult
      split
      · rename_i typed
        exact absurd typed (known _)
      · rfl
    rw [asked]
    rcases answered : visit.app.onMessage m c s with ⟨reason | responses, after⟩
    · exact ⟨.refusal business known service answered (rejects reason),
        fit (encodable.refusal answered)⟩
    · exact ⟨.responses business known service answered, fun response member =>
        (Wire.exists_encode_iff _).mp (encodable.response answered response member)⟩
  · push Not at known
    obtain ⟨code, typed⟩ := known
    have refused : Acceptor.consult visit.app m c s = (.error (unsupported code), s) := by
      rw [Acceptor.consult, typed]
    rw [refused]
    have reject := rejects (unsupported code)
    have eleven : toString Reject.invalidMsgType = "11" := by decide
    refine ⟨.unsupported typed reject (reject.code.trans (congrArg some eleven)), fit ?_⟩
    -- The type has been on the wire before.
    have named : code = m.msgTypeText := by
      rw [← MsgType.text_ofText m.msgTypeText]
      exact (congrArg MsgType.text typed).symm
    have clean : Wire.soh ∉ Utf8.encode code := by
      rw [named]
      exact (Wire.writable_of_get_decode decoded (Wire.get_msgType_of_decode decoded)).soh_notMem
    have front : Wire.soh ∉ Utf8.encode "unsupported MsgType " := by decide
    have text : (unsupported code).text = "unsupported MsgType " ++ code := rfl
    rw [text, Utf8.encode_append, List.mem_append, not_or]
    exact ⟨front, clean⟩

/-- The application's answer, or its refusal, is a matter of sending now. -/
theorem Consulting.consult (consulting : Consulting visit messages m v frames)
    (encodable : visit.app.Encodable) (duty : v.duty = .consult m) (now : Moment) :
    (v.advance visit.app now).connection.sent = v.connection.sent ∧
      Course visit messages (v.advance visit.app now) frames := by
  obtain ⟨frame, decoded⟩ := consulting.decoded
  obtain ⟨taken, answers, number, all, isDue, next, conversation, staying, told⟩ := consulting.course
  obtain ⟨answered, writable⟩ := answer_consult encodable consulting.service decoded
    consulting.business isDue v.desk.application
  have asks : v.advance visit.app now =
      { v with
        desk := { v.desk with
          application := (Acceptor.consult visit.app m v.connection v.desk.application).2 }
        duty := .reply (responsesTo m
          (Acceptor.consult visit.app m v.connection v.desk.application).1) false } := by
    simp only [Service.advance, duty]
  rw [asks]
  have goesOn := consulting.toGoesOn
  exact ⟨rfl, .reply rfl (answering_of_answer ⟨goesOn.service, goesOn.goesOn, goesOn.due⟩ all
    conversation staying told isDue next answered writable
    (by simp [consulting.business.not_logout]))⟩

/-! ### Sending -/

section WithConnection

-- Nothing else is said of a connection than that it is in service and which number is due on it.
variable {c : Connection} (service : c.InService visit.settings visit.id)
  (nextIn : c.session.sequences.nextIn = v.nextIn)
include service nextIn

theorem GoesOn.withConnection (goesOn : GoesOn visit v) : GoesOn visit (v.withConnection c) := by
  refine ⟨service, goesOn.goesOn, ?_⟩
  show InSequence visit.settings c.session.sequences.nextIn (messagesOf v.frames)
  rw [nextIn]
  exact goesOn.due

theorem Answering.withConnection {rest : List Message} {leaving : Bool}
    (answering : Answering visit messages rest leaving v frames) :
    Answering visit messages rest leaving (v.withConnection c) frames := by
  obtain ⟨taken, answers, all, conversation, leaves, told⟩ := answering.course
  refine ⟨answering.toGoesOn.withConnection service nextIn, answering.writable, taken, answers, all,
    ?_, leaves, told⟩
  show visit.Conversation taken answers c.session.sequences.nextIn v.desk.application
  rw [nextIn]
  exact conversation

theorem Consulting.withConnection (consulting : Consulting visit messages m v frames) :
    Consulting visit messages m (v.withConnection c) frames := by
  obtain ⟨taken, answers, number, all, isDue, next, course⟩ := consulting.course
  exact ⟨consulting.toGoesOn.withConnection service nextIn, consulting.decoded, consulting.business,
    taken, answers, number, all, isDue, nextIn.trans next, course⟩

end WithConnection

/-- Sending always succeeds, and takes a message out of hand. -/
theorem Answering.say {rest : List Message} {leaving : Bool}
    (answering : Answering visit messages (m :: rest) leaving v frames)
    (speaks : visit.settings.Speaks) (duty : v.duty = .reply (m :: rest) leaving) (now : Moment) :
    ∃ frame, (v.advance visit.app now).connection.sent = v.connection.sent ++ [frame] ∧
      Course visit messages (v.advance visit.app now) (frames ++ [frame]) := by
  obtain ⟨checked, writable⟩ := List.forall_mem_cons.mp answering.writable
  obtain ⟨seq, frame, after, sends, sent, conveys, service, nextIn⟩ :=
    Connection.send_inService answering.service speaks checked now
  have advances : v.advance visit.app now =
      { v.withConnection after with duty := .reply rest leaving } := by
    simp only [Service.advance, duty, sends]
  have still := answering.withConnection service nextIn
  obtain ⟨taken, answers, all, conversation, leaves, told⟩ := still.course
  rw [advances]
  exact ⟨frame, sent, .reply rfl ⟨⟨service, still.goesOn, still.due⟩, writable, taken, answers, all,
    conversation, leaves, told.say conveys⟩⟩

/-- When all has been said, a client that has logged out is left alone. -/
theorem Answering.rest {leaving : Bool} (answering : Answering visit messages [] leaving v frames)
    (duty : v.duty = .reply [] leaving) (now : Moment) :
    (v.advance visit.app now).connection.sent = v.connection.sent ∧
      Course visit messages (v.advance visit.app now) frames := by
  cases leaving with
  | true =>
    obtain ⟨taken, answers, all, conversation, leaves, told⟩ := answering.course
    have closes : v.advance visit.app now =
        (v.withConnection v.connection.close).finish visit.app none := by
      simp only [Service.advance, duty]
    rw [closes]
    have blameless := answering.service.blameless answering.service.isOpen
    exact ⟨rfl, .left ⟨rfl, rfl, rfl, rfl, blameless, taken, _, answers, _, _, all, conversation,
      leaves.mp rfl, told⟩⟩
  | false =>
    have frees : v.advance visit.app now = { v with duty := .free } := by
      simp only [Service.advance, duty, answering.service.isOpen, Bool.false_eq_true, if_false]
    rw [frees]
    have goesOn := answering.toGoesOn
    exact ⟨rfl, .free rfl ⟨⟨goesOn.service, goesOn.goesOn, goesOn.due⟩, answering.writable,
      answering.course⟩⟩

/-! ### After the end -/

/-- Once the other side has been given up, a step of the reader sends nothing. -/
theorem givenUp_advance (app : Application σ) (now : Moment) (givenUp : v.connection.GivenUp) :
    (v.advance app now).connection.sent = v.connection.sent ∧
      (v.advance app now).connection.GivenUp := by
  unfold Service.advance
  cases v.duty with
  | free =>
    dsimp only
    split
    · exact ⟨rfl, givenUp⟩
    · split
      · exact ⟨rfl, givenUp⟩
      · split
        · exact ⟨rfl, givenUp⟩
        · rename_i m _
          -- The session has ended, so whatever arrives is refused.
          have apart : v.connection.session.state.isConnected = false := by
            rw [givenUp.ended]
            rfl
          have refused := Session.inbound_of_not_connected m now apart
          unfold Service.connection at refused
          simp only [Service.take, Service.connection, refused]
          exact ⟨rfl, givenUp.fail _⟩
  | consult m => exact ⟨rfl, givenUp⟩
  | reply rest leaving =>
    cases rest with
    | cons m rest =>
      dsimp only
      rw [Connection.send_of_closed givenUp.closed]
      exact ⟨rfl, givenUp.fail _⟩
    | nil =>
      cases leaving with
      | true => exact ⟨rfl, givenUp.close.close⟩
      | false =>
        dsimp only
        rw [if_pos givenUp.closed]
        exact ⟨rfl, givenUp.close⟩

/-! ### Turns -/

theorem Course.advance (course : Course visit messages v frames)
    (speaks : visit.settings.Speaks) (encodable : visit.app.Encodable) (now : Moment) :
    ∃ new, (v.advance visit.app now).connection.sent = v.connection.sent ++ new ∧
      Course visit messages (v.advance visit.app now) (frames ++ new) := by
  -- Only sending makes a frame.
  have nothing {w : Service σ} (same : w.connection.sent = v.connection.sent ∧
      Course visit messages w frames) :
      ∃ new, w.connection.sent = v.connection.sent ++ new ∧
        Course visit messages w (frames ++ new) :=
    ⟨[], by simpa using same.1, by simpa using same.2⟩
  cases course with
  | free free answering =>
    apply nothing
    cases arrived : v.frames with
    | nil =>
      have idles : v.advance visit.app now = v := by simp only [Service.advance, free, arrived]
      rw [idles]
      exact ⟨rfl, .free free answering⟩
    | cons frame rest =>
      cases decoded : Wire.decode frame with
      | error fault =>
        have skips : v.advance visit.app now = { v with frames := rest } := by
          simp only [Service.advance, free, arrived, answering.goesOn, Bool.false_eq_true, if_false,
            decoded]
        have skipped : messagesOf v.frames = messagesOf rest := by
          rw [arrived]
          simp [messagesOf, decoded, Except.toOption]
        obtain ⟨goesOn, writable, course⟩ := answering
        rw [skipped] at course
        have due := goesOn.due
        rw [skipped] at due
        rw [skips]
        exact ⟨rfl, .free free ⟨⟨goesOn.service, goesOn.goesOn, due⟩, writable, course⟩⟩
      | ok m =>
        have takes : v.advance visit.app now = { v with frames := rest }.take visit.app now m := by
          simp only [Service.advance, free, arrived, answering.goesOn, Bool.false_eq_true, if_false,
            decoded]
        rw [takes]
        exact answering.take speaks free arrived decoded now
  | consult duty consulting => exact nothing (consulting.consult encodable duty now)
  | @reply rest leaving duty answering =>
    cases rest with
    | nil => exact nothing (answering.rest duty now)
    | cons m rest =>
      obtain ⟨frame, sent, course⟩ := answering.say speaks duty now
      exact ⟨[frame], sent, course⟩
  | left left =>
    apply nothing
    have idles : v.advance visit.app now = v := by
      unfold Service.advance
      rw [left.free]
      dsimp only
      split
      · rfl
      · rw [if_pos left.ended]
    rw [idles]
    exact ⟨rfl, .left left⟩
  | abandoned abandoned =>
    obtain ⟨sent, givenUp⟩ := givenUp_advance visit.app now abandoned.givenUp
    exact nothing ⟨sent, .abandoned ⟨givenUp, abandoned.course⟩⟩

theorem settle_cases (app : Application σ) (d : Desk σ) (e : Endpoint) :
    e.settle (role app) d = (d, e) ∨
      (e.connection.closed = true ∧ e.ended = false ∧
        e.settle (role app) d = e.finish (role app) none d) := by
  unfold Endpoint.settle
  split
  · rename_i settles
    rw [Bool.and_eq_true, Bool.not_eq_true'] at settles
    exact Or.inr ⟨settles.1, settles.2, rfl⟩
  · exact Or.inl rfl

/-- A look sees to the connection, and while the reader is free, ends what has been closed. -/
theorem look_cases (app : Application σ) (now : Moment) (v : Service σ) :
    v.look app now = v.withConnection (v.connection.tick now) ∨
      ((v.connection.tick now).closed = true ∧ v.endpoint.ended = false ∧
        v.look app now = (v.withConnection (v.connection.tick now)).finish app none) := by
  rcases v with ⟨d, e, frames, duty⟩
  cases duty with
  | consult | reply => exact Or.inl rfl
  | free =>
    have looks : look app now ⟨d, e, frames, .free⟩ =
        between frames (({ e with connection := e.connection.tick now } : Endpoint).settle (role app) d) :=
      rfl
    rw [looks]
    rcases settle_cases app d { e with connection := e.connection.tick now } with
      settled | ⟨closed, ended, settled⟩
    · rw [settled]
      exact Or.inl rfl
    · rw [settled]
      exact Or.inr ⟨closed, ended, rfl⟩

/-- While the reader goes on, a look shows a sign of life at most, or gives the client up. -/
theorem GoesOn.look (app : Application σ) (goesOn : GoesOn visit v)
    (speaks : visit.settings.Speaks) (now : Moment) :
    (∃ c new, v.look app now = v.withConnection c ∧ c.sent = v.connection.sent ++ new ∧
        (∀ frame ∈ new, frame.IsSignOfLife) ∧ c.InService visit.settings visit.id ∧
        c.session.sequences.nextIn = v.nextIn) ∨
      ((v.look app now).connection.sent = v.connection.sent ∧ (v.look app now).connection.GivenUp) := by
  rcases Connection.tick_inService goesOn.service speaks now with
    ⟨service, nextIn, new, sent, signs⟩ | ⟨sent, givenUp⟩
  · left
    rcases v.look_cases app now with looks | ⟨closed, -⟩
    · exact ⟨_, new, looks, sent, signs, service, nextIn⟩
    · rw [service.isOpen] at closed
      cases closed
  · right
    rcases v.look_cases app now with looks | ⟨-, -, looks⟩
    · rw [looks]
      exact ⟨sent, givenUp⟩
    · rw [looks]
      exact ⟨sent, givenUp.close⟩

theorem Answering.abandoned {rest : List Message} {leaving : Bool}
    (answering : Answering visit messages rest leaving v frames) {w : Service σ}
    (givenUp : w.connection.GivenUp) : Abandoned visit messages w frames := by
  obtain ⟨taken, answers, all, conversation, -, told⟩ := answering.course
  exact ⟨givenUp, taken, _, answers, _, _, _, all, conversation, told⟩

theorem Consulting.abandoned (consulting : Consulting visit messages m v frames) {w : Service σ}
    (givenUp : w.connection.GivenUp) : Abandoned visit messages w frames := by
  obtain ⟨taken, answers, number, all, -, -, conversation, -, told⟩ := consulting.course
  exact ⟨givenUp, taken, _, answers, _, _, _, all, conversation, told⟩

theorem Course.look (course : Course visit messages v frames) (speaks : visit.settings.Speaks)
    (now : Moment) :
    ∃ new, (v.look visit.app now).connection.sent = v.connection.sent ++ new ∧
      (∀ frame ∈ new, frame.IsSignOfLife) ∧ Course visit messages (v.look visit.app now) frames := by
  have abandon {w : Service σ} (same : w.connection.sent = v.connection.sent)
      (abandoned : Abandoned visit messages w frames) :
      ∃ new, w.connection.sent = v.connection.sent ++ new ∧
        (∀ frame ∈ new, frame.IsSignOfLife) ∧ Course visit messages w frames :=
    ⟨[], by simpa using same, by simp, .abandoned abandoned⟩
  -- As long as the session is in service, a look either writes signs of life or gives the other
  -- side up, whatever the reader is doing; what has ended stays as it is.
  cases course with
  | free free answering =>
    rcases answering.toGoesOn.look visit.app speaks now with
      ⟨c, new, looks, sent, signs, service, nextIn⟩ | ⟨sent, givenUp⟩
    · rw [looks]
      exact ⟨new, sent, signs, .free free (answering.withConnection service nextIn)⟩
    · exact abandon sent (answering.abandoned givenUp)
  | consult duty consulting =>
    rcases consulting.toGoesOn.look visit.app speaks now with
      ⟨c, new, looks, sent, signs, service, nextIn⟩ | ⟨sent, givenUp⟩
    · rw [looks]
      exact ⟨new, sent, signs, .consult duty (consulting.withConnection service nextIn)⟩
    · exact abandon sent (consulting.abandoned givenUp)
  | reply duty answering =>
    rcases answering.toGoesOn.look visit.app speaks now with
      ⟨c, new, looks, sent, signs, service, nextIn⟩ | ⟨sent, givenUp⟩
    · rw [looks]
      exact ⟨new, sent, signs, .reply duty (answering.withConnection service nextIn)⟩
    · exact abandon sent (answering.abandoned givenUp)
  | left left =>
    have idles : v.look visit.app now = v := by
      have ticks := Connection.tick_of_closed left.closed now
      rcases v.look_cases visit.app now with looks | ⟨-, goesOn, -⟩
      · rw [looks, ticks]
        rfl
      · rw [left.ended] at goesOn
        cases goesOn
    rw [idles]
    exact ⟨[], by simp, by simp, .left left⟩
  | abandoned abandoned =>
    have ticks := Connection.tick_of_closed abandoned.givenUp.closed now
    rcases v.look_cases visit.app now with looks | ⟨-, -, looks⟩
    · rw [looks, ticks]
      exact abandon rfl abandoned
    · rw [looks, ticks]
      exact abandon rfl ⟨abandoned.givenUp.close, abandoned.course⟩

theorem Answering.elsewhere {rest : List Message} {leaving : Bool}
    (answering : Answering visit messages rest leaving v frames) {change : σ → σ}
    (known : visit.others change) (now : Moment) :
    Answering visit messages rest leaving (v.turn visit.app now (.elsewhere change)) frames := by
  obtain ⟨goesOn, writable, taken, answers, all, conversation, leaves, told⟩ := answering
  exact ⟨⟨goesOn.service, goesOn.goesOn, goesOn.due⟩, writable, taken, answers, all,
    conversation.elsewhere known, leaves, told⟩

/-- What happens elsewhere changes nothing but the application. -/
theorem Course.elsewhere (course : Course visit messages v frames) {change : σ → σ}
    (known : visit.others change) (now : Moment) :
    Course visit messages (v.turn visit.app now (.elsewhere change)) frames := by
  cases course with
  | free free answering => exact .free free (answering.elsewhere known now)
  | reply duty answering => exact .reply duty (answering.elsewhere known now)
  | consult duty consulting =>
    obtain ⟨goesOn, decoded, business, taken, answers, number, all, isDue, next, conversation,
      staying, told⟩ := consulting
    exact .consult duty ⟨⟨goesOn.service, goesOn.goesOn, goesOn.due⟩, decoded, business, taken,
      answers, number, all, isDue, next, conversation.elsewhere known, staying, told⟩
  | left left =>
    exact .left ⟨left.free, left.ended, left.disconnected, left.closed, left.orderly, left.course⟩
  | abandoned abandoned => exact .abandoned ⟨abandoned.givenUp, abandoned.course⟩

end Service

end FixBench.Acceptor
