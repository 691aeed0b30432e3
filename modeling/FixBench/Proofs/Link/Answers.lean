import FixBench.Proofs.Link.Course
import FixBench.Proofs.Link.WireOrder

/-!
# What an acceptor answers

The answers of an acceptor follow the requests, message by message and in order
(`answers_follow_requests`), whatever the turns in which the reader and the clock get to work. The log
of a run tells which turn has written which frame, so what the reader has written can be held against
the conversation.
-/
namespace FixBench.Acceptor

variable {σ : Type}

namespace Service

variable {visit : Visit σ} {messages : List Message} {v : Service σ} {frames : List Sent}

/-! ### Runs -/

/-- The frames written over a run, with the turn that has written each. -/
def written (app : Application σ) (v : Service σ) : List (Moment × Turn σ) → List (Turn σ × Sent)
  | [] => []
  | (now, turn) :: rest =>
    (v.connection.framesWritten (v.turn app now turn).connection).map (turn, ·) ++
      (v.turn app now turn).written app rest

/-- The frames that the reader has written. -/
def answersIn (log : List (Turn σ × Sent)) : List Sent :=
  (log.filter fun entry => entry.1.isAdvance).map Prod.snd

theorem framesWritten_of_append {before after : Connection} {new : List Sent}
    (sent : after.sent = before.sent ++ new) : before.framesWritten after = new := by
  rw [Connection.framesWritten, sent, List.drop_left]

theorem answersIn_append (log more : List (Turn σ × Sent)) :
    answersIn (log ++ more) = answersIn log ++ answersIn more := by
  rw [answersIn, List.filter_append, List.map_append]
  rfl

theorem answersIn_map_advance (new : List Sent) :
    answersIn (new.map ((.advance : Turn σ), ·)) = new := by
  simp [answersIn, List.filter_map, Function.comp_def, Turn.isAdvance]

theorem answersIn_map_of_not_advance {turn : Turn σ} (other : turn.isAdvance = false)
    (new : List Sent) : answersIn (new.map (turn, ·)) = [] := by
  simp [answersIn, List.filter_map, Function.comp_def, other]

theorem Course.turn (course : Course visit messages v frames) (speaks : visit.settings.Speaks)
    (encodable : visit.app.Encodable) (now : Moment) (turn : Turn σ)
    (known : ∀ change, turn = .elsewhere change → visit.others change) :
    ∃ new, (v.turn visit.app now turn).connection.sent = v.connection.sent ++ new ∧
      (turn.isAdvance = false → ∀ frame ∈ new, frame.IsSignOfLife) ∧
      Course visit messages (v.turn visit.app now turn) (frames ++ answersIn (new.map (turn, ·))) := by
  cases turn with
  | advance =>
    obtain ⟨new, sent, course⟩ := course.advance speaks encodable now
    refine ⟨new, sent, by rintro ⟨⟩, ?_⟩
    rw [answersIn_map_advance]
    exact course
  | look =>
    obtain ⟨new, sent, signs, course⟩ := course.look speaks now
    refine ⟨new, sent, fun _ => signs, ?_⟩
    rw [answersIn_map_of_not_advance rfl, List.append_nil]
    exact course
  | elsewhere change =>
    refine ⟨[], (List.append_nil _).symm, by simp, ?_⟩
    rw [answersIn_map_of_not_advance rfl, List.append_nil]
    exact course.elsewhere (known change rfl) now

/-- Whatever the turns, the log tells all that is written, and the reader's part of it keeps up with
the messages. -/
theorem Course.run (course : Course visit messages v frames) (speaks : visit.settings.Speaks)
    (encodable : visit.app.Encodable) (schedule : List (Moment × Turn σ))
    (known : ∀ now change, (now, .elsewhere change) ∈ schedule → visit.others change) :
    (v.run visit.app schedule).connection.sent =
        v.connection.sent ++ (v.written visit.app schedule).map Prod.snd ∧
      (∀ entry ∈ v.written visit.app schedule, entry.1.isAdvance = false → entry.2.IsSignOfLife) ∧
      Course visit messages (v.run visit.app schedule)
        (frames ++ answersIn (v.written visit.app schedule)) := by
  -- The frames written so far are part of the invariant: one turn appends its own answers to them.
  induction schedule generalizing v frames with
  | nil =>
    refine ⟨(List.append_nil _).symm, by simp [written], ?_⟩
    have nothing : answersIn (v.written visit.app []) = [] := rfl
    rw [nothing, List.append_nil]
    exact course
  | cons event rest ih =>
    obtain ⟨now, turn⟩ := event
    obtain ⟨new, sent, signs, next⟩ := course.turn speaks encodable now turn
      fun change own => known now change (by simp [own])
    obtain ⟨later, more, final⟩ := ih next fun now change member =>
      known now change (List.mem_cons_of_mem _ member)
    rw [Service.run, written, framesWritten_of_append sent]
    refine ⟨?_, ?_, ?_⟩
    · rw [later, sent, List.map_append, List.map_map, List.append_assoc]
      simp [Function.comp_def]
    · intro entry member
      rcases List.mem_append.mp member with first | other
      · obtain ⟨frame, written, rfl⟩ := List.mem_map.mp first
        exact fun aside => signs aside frame written
      · exact more entry other
    · rw [answersIn_append, ← List.append_assoc]
      exact final

end Service

/-! ### The answer stream -/

/-- How a conversation stands when some messages have been taken and others are waiting. -/
inductive Stands (v : Service σ) (taken waiting unsaid : List Message) : Prop
  /-- The reader goes on until it has taken and answered all, or a logout. -/
  | active : v.connection.session.state = .active →
      (v.AtRest → waiting = [] ∧ unsaid = [] ∧ ∀ m ∈ taken, m.msgType ≠ .logout) →
      Stands v taken waiting unsaid
  /-- The client has logged out, and the logout has been answered. -/
  | left : v.connection.session.state = .disconnected → v.connection.closeReason = none →
      unsaid = [] → (∃ m ∈ taken, m.msgType = .logout) → Stands v taken waiting unsaid
  /-- The client has kept silent for too long. -/
  | givenUp : v.connection.GivenUp → Stands v taken waiting unsaid

theorem Service.Course.stands {visit : Visit σ} {messages : List Message} {v : Service σ}
    {frames : List Sent} (course : Course visit messages v frames) :
    ∃ taken waiting answers number s unsaid, messages = taken ++ waiting ∧
      visit.Conversation taken answers number s ∧ Told answers unsaid frames ∧
      Stands v taken waiting unsaid := by
  cases course with
  | free free answering =>
    obtain ⟨taken, answers, all, conversation, leaves, told⟩ := answering.course
    refine ⟨taken, _, answers, _, _, [], all, conversation, told, .active answering.service.active ?_⟩
    -- A reader is at rest if there is nothing more to read or it has ended; this one goes on.
    rintro ⟨-, arrived | ended⟩
    · rw [arrived]
      exact ⟨rfl, rfl, by simpa using leaves⟩
    · rw [answering.goesOn] at ended
      cases ended
  | consult duty consulting =>
    obtain ⟨taken, answers, number, all, -, -, conversation, -, told⟩ := consulting.course
    refine ⟨taken, _, answers, _, _, [], all, conversation, told, .active consulting.service.active ?_⟩
    rintro ⟨free, -⟩
    rw [duty] at free
    cases free
  | @reply rest leaving duty answering =>
    obtain ⟨taken, answers, all, conversation, -, told⟩ := answering.course
    refine ⟨taken, _, answers, _, _, rest, all, conversation, told,
      .active answering.service.active ?_⟩
    rintro ⟨free, -⟩
    rw [duty] at free
    cases free
  | left left =>
    obtain ⟨taken, waiting, answers, number, s, all, conversation, logout, told⟩ := left.course
    exact ⟨taken, waiting, answers, number, s, [], all, conversation, told,
      .left left.disconnected left.orderly rfl logout⟩
  | abandoned abandoned =>
    obtain ⟨taken, waiting, answers, number, s, unsaid, all, conversation, told⟩ := abandoned.course
    exact ⟨taken, waiting, answers, number, s, unsaid, all, conversation, told,
      .givenUp abandoned.givenUp⟩

/-- **The answers follow the requests.** On a connection that a logon has opened and that is active,
messages in sequence arrive, none of them a logon, and the application's words can be written. In
whatever order the reader, the clock and others who use the application take their turns, the log
tells all that is written. What is not the reader's is a sign of life. The reader has taken some of the
messages in their order, has an answer to each, and has written the answers in this order but for what
it has in hand: nothing to a heartbeat, a heartbeat of the same identifier to a test request, a logout
to a logout, behind which it takes no more, a reject to a message of an unknown type, and to any other
what the application responds, or a reject if it refuses. A reject names the number and the type of its
message. The session stays active until the client has logged out or has been silent for too long. Left
to itself the reader comes to rest, and if the session is active then, all has been taken and said;
left to itself from the beginning, it does what an endpoint does with the frames. -/
theorem answers_follow_requests (app : Application σ) (encodable : app.Encodable) {v : Service σ}
    (opened : v.Opened app) (active : v.connection.session.state = .active) (free : v.duty = .free)
    (inSequence : InSequence v.connection.session.config v.nextIn (messagesOf v.frames))
    (schedule : List (Moment × Turn σ)) :
    let visit : Visit σ :=
      { app
        settings := v.connection.session.config
        id := v.connection.id
        others := fun change => ∃ now, (now, .elsewhere change) ∈ schedule
        first := v.nextIn
        start := v.desk.application }
    let after := v.run app schedule
    let log := v.written app schedule
    after.connection.sent = v.connection.sent ++ log.map Prod.snd ∧
      (∀ entry ∈ log, entry.1.isAdvance = false → entry.2.IsSignOfLife) ∧
      (∃ taken waiting answers number s unsaid, messagesOf v.frames = taken ++ waiting ∧
        visit.Conversation taken answers number s ∧ Told answers unsaid (Service.answersIn log) ∧
        Stands after taken waiting unsaid) ∧
      (∀ now, ∃ count, (v.run app (schedule ++ List.replicate count (now, .advance))).AtRest) ∧
      ∀ now, ∃ count rest, v.run app (List.replicate count (now, .advance)) =
        Service.between rest (v.endpoint.takeFrames (role app) now v.desk v.frames) := by
  intro visit after log
  obtain ⟨settings, id, speaks, consistent⟩ := opened.consistent
  have service := consistent.connection.inService active
  obtain rfl : id = v.connection.id := service.id_eq.symm
  obtain rfl : settings = v.connection.session.config := service.config_eq.symm
  have goesOn : v.endpoint.ended = false := by
    rw [← Bool.not_eq_true]
    intro ended
    have closed := consistent.closed ended
    rw [service.isOpen] at closed
    cases closed
  -- At first nothing is taken and nothing is written; `Course` is what every turn keeps.
  have course : Service.Course visit (messagesOf v.frames) v [] :=
    .free free ⟨⟨service, goesOn, inSequence⟩, by simp, [], [], rfl, .start, by simp, [], rfl, .nil⟩
  obtain ⟨sent, signs, final⟩ := course.run speaks encodable schedule fun now _ member => ⟨now, member⟩
  refine ⟨sent, signs, final.stands, fun now => ?_, fun now => ?_⟩
  -- The reader comes to rest after finitely many steps of its own.
  · obtain ⟨w, ⟨count, leads⟩, atRest⟩ := Service.exists_leads_atRest app now after
    refine ⟨count, ?_⟩
    rw [Service.run_append, Service.run_replicate_advance, leads]
    exact atRest
  -- Undisturbed, these steps are the ones of the reader as a whole.
  · obtain ⟨rest, ⟨count, leads⟩, -⟩ :=
      Service.exists_leads_takeFrames app now v.desk v.endpoint v.frames
    rw [← free] at leads
    exact ⟨count, rest, (v.run_replicate_advance app now count).trans leads⟩

/-- A shop takes orders for as long as it is open. Its client also sends a test request, a message of
a type nobody knows and something that is no frame, and logs out too early. A look at the clock comes
between the two reports of one order and writes a heartbeat. -/
theorem answers_follow_requests_until_logout :
    let message (type : MsgType) (number : String) : Message :=
      ((((Message.ofType "FIX.4.4" type).set Tag.senderCompId "C").set Tag.targetCompId "S").set
        Tag.msgSeqNum number).set Tag.sendingTime "-"
    let frame (m : Message) : List UInt8 := (Wire.encode m).toOption.getD []
    let now : Moment := ⟨⟨0⟩, 0⟩
    let later : Moment := ⟨⟨30000000000⟩, 30000000000⟩
    let config : AcceptorConfig := .default "" ⟨"S", by decide, by decide⟩
    let first := (Wire.decode (frame (message .logon "1"))).toOption.getD (message .logon "1")
    let session : Session :=
      ⟨sessionConfig config ⟨"C", by decide, by decide⟩ first, .logonPending, .initial,
        .start config.heartbeatInterval now, none⟩
    let app : Application Nat :=
      { onLogon := fun _ s => s
        onLogout := fun _ s => s
        onMessage := fun m _ s =>
          if m.msgType = .newOrderSingle then
            (.ok [.ofType "FIX.4.4" .executionReport, .ofType "FIX.4.4" .executionReport], s + 1)
          else (.error ⟨99, "closed", none⟩, s) }
    let frames := frame ((message .testRequest "2").set Tag.testReqId "T") ::
      frame (message (.custom "ZZ") "3") :: [] ::
      [message .newOrderSingle "4", message .orderCancelRequest "5", message .heartbeat "6",
        message .logout "7", message .testRequest "8"].map frame
    let v := Service.advance app now
      ⟨⟨0, false⟩, .create (.create 1 session), frame (message .logon "1") :: frames, .free⟩
    let schedule := List.replicate 11 (now, .advance) ++ (later, .look) ::
      List.replicate 10 (later, .advance)
    v.Opened app ∧ v.connection.session.state = .active ∧
      InSequence v.connection.session.config v.nextIn (messagesOf v.frames) ∧
      ((v.run app schedule).connection.sent.map fun frame => frame.message.msgTypeText) =
        ["A", "0", "3", "8", "0", "8", "3", "5"] ∧
      ∃ answers, Told answers [] (Service.answersIn (v.written app schedule)) := by
  intro message frame now later config first session app frames v schedule
  have decoded : Wire.decode (frame (message .logon "1")) = .ok first := by decide +kernel
  have opens : openConnection config 1 first now = .ok (.create 1 session) := by decide +kernel
  have opened : v.Opened app := .turn now .advance (.logon 0 frames decoded opens)
  have active : v.connection.session.state = .active := by decide +kernel
  have free : v.duty = .free := by decide +kernel
  have inSequence : InSequence v.connection.session.config v.nextIn (messagesOf v.frames) := by
    decide +kernel
  have writable : ∃ bytes, Wire.encode (.ofType "FIX.4.4" .executionReport) = .ok bytes :=
    (Wire.exists_encode_iff _).mpr (by decide +kernel)
  have encodable : app.Encodable := by
    constructor
    · intro m c s after responses answered response member
      simp only [app] at answered
      split at answered
      · cases answered
        obtain rfl : response = .ofType "FIX.4.4" .executionReport := by simpa using member
        exact writable
      · cases answered
    · intro m c s after reason refused
      simp only [app] at refused
      split at refused
      · cases refused
      · cases refused
        decide
  obtain ⟨-, -, ⟨taken, waiting, answers, number, s, unsaid, -, -, told, stands⟩, -, -⟩ :=
    answers_follow_requests app encodable opened active free inSequence schedule
  refine ⟨opened, active, inSequence, by decide +kernel, answers, ?_⟩
  have ended : (v.run app schedule).connection.session.state = .disconnected ∧
      (v.run app schedule).connection.closeReason = none := by decide +kernel
  cases stands with
  | active active =>
    rw [ended.1] at active
    cases active
  | left _ _ allSaid _ =>
    rw [allSaid] at told
    exact told
  | givenUp givenUp =>
    obtain ⟨millis, reason⟩ := givenUp.silence
    rw [ended.2] at reason
    cases reason

end FixBench.Acceptor
