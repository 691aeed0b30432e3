import FixBench.Proofs.Exchange.Run
import FixBench.Proofs.Exchange.Writable
import FixBench.Proofs.Link.Service

/-!
# The exchange keeps its connections

An answer that cannot be written ends the session it was meant for, so an exchange had better have
none. The texts of its orders have come in frames or are its own (`Book.Written`), and so is all that
a refusal quotes. There is one exception: an exchange that turns every new order down does so with a
text of its configuration, which nothing has looked at. `Speechless` says when that text is needed and
cannot be written. In all other cases an order request is answered and its connection goes on, and in
this one the client gets no answer and loses its session (`answers_unless_speechless`).
-/
namespace FixBench

namespace Exchange

variable {x after : State} {m : Message} {owner : Owner} {frame : List UInt8}

/-! ### Orders in the book -/

/-- The texts of every order can be written. -/
def Book.Written (b : Book) : Prop := ∀ e ∈ b.entries, e.order.Written

/-- A message has come in a frame. -/
def Event.Received : Event → Prop
  | .message m _ => ∃ frame, Wire.decode frame = .ok m
  | .fill .. | .logout _ => True

theorem State.written_incoming (x : State) (decoded : Wire.decode frame = .ok m)
    {request : NewOrderSingle} (reads : MessageView.ofMessage m = .ok request) :
    (x.incoming request).Written := by
  obtain ⟨id, symbol⟩ := NewOrderSingle.carried reads
  exact ⟨IdCounters.writable_orderId _, Wire.writable_of_get_decode decoded id,
    Wire.writable_of_get_decode decoded symbol⟩

/-- A replaced order goes under the identifier of the request. -/
theorem RestingOrder.Written.replaced {o : RestingOrder} (written : o.Written)
    (decoded : Wire.decode frame = .ok m) {request : OrderCancelReplaceRequest}
    (reads : MessageView.ofMessage m = .ok request) : (o.replaced request).Written :=
  ⟨written.orderId,
    Wire.writable_of_get_decode decoded (OrderCancelReplaceRequest.get_clOrdId reads),
    written.symbol⟩

namespace Book.Written

variable {b : Book} {o : RestingOrder}

theorem insert (written : b.Written) (fresh : b.Fresh o.orderId) (order : o.Written) (owner : Owner) :
    (b.insert o owner).Written := by
  intro e member
  obtain old | rfl := (mem_insert fresh).mp member
  · exact written e old
  · exact order

theorem update (written : b.Written) (order : o.Written) : (b.update o).Written := by
  intro e member
  obtain ⟨old, -⟩ | ⟨former, -, -, rfl⟩ := mem_update.mp member
  · exact written e old
  · exact order

theorem holds (written : b.Written) (holds : b.Holds o) : o.Written := by
  obtain ⟨owner, member⟩ := holds
  exact written _ member

theorem handled (written : x.book.Written) (sound : x.Sound) (decoded : Wire.decode frame = .ok m)
    {reports : List Message} (handles : Handles x m owner reports after) : after.book.Written := by
  cases handles with
  | rejected | refused => exact written
  | @accepted request leaves reads =>
    exact written.insert (sound.fresh request) (x.written_incoming decoded reads) owner
  | @filledAtOnce request leaves reads =>
    have incoming := x.written_incoming decoded reads
    have filled : (x.incoming request).filledAtOnce.Written :=
      ⟨incoming.orderId, incoming.clOrdId, incoming.symbol⟩
    exact written.insert (o := (x.incoming request).filledAtOnce) (sound.fresh request) filled owner
  | canceled reads found =>
    have order := written.holds (holds_of_locate? found)
    exact written.update ⟨order.orderId, order.clOrdId, order.symbol⟩
  | replaced reads found =>
    have order := written.holds (holds_of_locate? found)
    -- Entering an identifier leaves the orders as they are.
    exact written.update (order.replaced decoded reads)

theorem filled (written : x.book.Written) {orderId : String} {qty px : Decimal} {report : Message}
    (fills : Fills x orderId qty px report owner after) : after.book.Written := by
  cases fills with
  | executed found opened known positive within executes =>
    have order := written _ (mem_of_find? found).1
    obtain ⟨_, _, -, -, rfl⟩ := (execute_eq_ok_iff ..).mp executes
    exact written.update ⟨order.orderId, order.clOrdId, order.symbol⟩

theorem step (written : x.book.Written) (sound : x.Sound) {event : Event}
    (received : event.Received) : (x.step event).book.Written := by
  generalize reaches : x.step event = y
  have moves := reaches ▸ moves_step sound.funded event
  cases moves with
  | idle => exact written
  | handled handles =>
    obtain ⟨frame, decoded⟩ := received
    exact written.handled sound decoded handles
  -- Executions and departures bring no texts in.
  | filled fills => exact written.filled fills
  | removed => exact fun e member => written e (mem_removeOwner.mp member).1

theorem reached (settings : Settings) {events : List Event}
    (received : ∀ event ∈ events, event.Received) :
    (State.reached settings events).book.Written := by
  induction events using List.reverseRecOn with
  | nil => exact fun _ none => (List.not_mem_nil none).elim
  | append_singleton events event ih =>
    have before := ih fun event member => received event (List.mem_append_left _ member)
    rw [State.reached_append_singleton]
    exact before.step (State.Sound.reached settings events) (received event (by simp))

end Book.Written

/-! ### Settings -/

theorem Moves.settings_eq {event : Event} (moves : Moves x event after) :
    after.settings = x.settings := by
  cases moves with
  | idle | removed => rfl
  | handled handles => cases handles <;> rfl
  | filled fills => cases fills; rfl

theorem State.settings_reached (settings : Settings) (events : List Event) :
    (State.reached settings events).settings = settings := by
  induction events using List.reverseRecOn with
  | nil => rfl
  | append_singleton events event ih =>
    rw [reached_append_singleton]
    exact (moves_step (Sound.reached settings events).funded event).settings_eq.trans ih

/-! ### Answers -/

/-- A new order is to be turned down like every other, with a text that cannot be written. -/
structure Speechless (settings : Settings) (b : Book) (m : Message) (owner : Owner) : Prop where
  turnsDown : settings.rejectNewOrders = true
  unfit : ¬ Wire.Writable Tag.text settings.rejectText
  /-- An identifier that is in use is a reason of its own. -/
  request : ∃ request : NewOrderSingle, MessageView.ofMessage m = .ok request ∧
    b.hasOpen owner.id request.clOrdId = false

theorem speechless_iff {request : NewOrderSingle} (reads : MessageView.ofMessage m = .ok request) :
    Speechless x.settings x.book m owner ↔
      ∃ text, rejection? x owner.id request.clOrdId = some text ∧
        ¬ Wire.Writable Tag.text text := by
  constructor
  · rintro ⟨turnsDown, unfit, other, same, free⟩
    rw [reads] at same
    cases same
    exact ⟨_, by simp [rejection?, free, turnsDown], unfit⟩
  · rintro ⟨text, why, unfit⟩
    rw [rejection?] at why
    split at why
    · -- The identifier is in use, and the text that says so can be written.
      cases why
      exact absurd ((Wire.checkValue_eq_ok_iff _ _).mp (by decide +kernel)) unfit
    · rename_i free
      split at why
      · rename_i turnsDown
        cases why
        exact ⟨turnsDown, unfit, request, reads, Bool.eq_false_iff.mpr free⟩
      · cases why

theorem not_speechless_of_free {request : NewOrderSingle}
    (reads : MessageView.ofMessage m = .ok request)
    (free : rejection? x owner.id request.clOrdId = none) :
    ¬ Speechless x.settings x.book m owner := by
  rw [speechless_iff reads]
  rintro ⟨text, why, -⟩
  rw [free] at why
  cases why

theorem Speechless.msgType {settings : Settings} {b : Book}
    (speechless : Speechless settings b m owner) : m.msgType = .newOrderSingle := by
  obtain ⟨request, reads, -⟩ := speechless.request
  exact MessageView.msgType_of_ofMessage reads

theorem Speechless.requestFault? {settings : Settings} {b : Book}
    (speechless : Speechless settings b m owner) : requestFault? m = none := by
  have typed := speechless.msgType
  obtain ⟨request, reads, -⟩ := speechless.request
  rw [Exchange.requestFault?, typed]
  exact (fault?_eq_none_iff _).mpr ⟨request, reads⟩

theorem invalidRequest_text (fault : BuildFault) : (invalidRequest fault).text = fault.message := by
  cases fault <;> rfl

/-- What is answered to a request can be written, if the exchange does not lack words. -/
theorem Handles.fits {reports : List Message} (handles : Handles x m owner reports after)
    (decoded : Wire.decode frame = .ok m) (written : x.book.Written)
    (spoken : ¬ Speechless x.settings x.book m owner) :
    ∀ report ∈ reports, Wire.checkValues report = .ok () := by
  have version := Wire.writable_version_of_decode decoded
  have execId (n : Nat) : Wire.Writable Tag.execId (x.execId n) := IdCounters.writable_execId _
  have carried {tag : Tag} {value : String} (found : m.get tag = some value) :
      Wire.Writable tag value := Wire.writable_of_get_decode decoded found
  cases handles with
  -- The one report whose occasion brings in a text that no frame has carried.
  | @rejected request text reads why =>
    have incoming := x.written_incoming decoded reads
    rw [List.forall_mem_singleton,
      Notice.fits_iff version ⟨incoming.orderId, incoming.clOrdId, incoming.symbol⟩ (execId 0)]
    by_contra unfit
    exact spoken ((speechless_iff reads).mpr ⟨text, why, unfit⟩)
  | @accepted request leaves reads =>
    have incoming := x.written_incoming decoded reads
    rw [List.forall_mem_singleton, Notice.fits_iff version incoming (execId 0)]
    trivial
  | @filledAtOnce request leaves reads =>
    have incoming := x.written_incoming decoded reads
    rw [List.forall_mem_cons, List.forall_mem_singleton, Notice.fits_iff version incoming (execId 0),
      Notice.fits_iff version ⟨incoming.orderId, incoming.clOrdId, incoming.symbol⟩ (execId 1)]
    exact ⟨trivial, trivial⟩
  | refused typed id orig found =>
    rw [List.forall_mem_singleton]
    exact Refused.fits version (fun o named => written.holds (found o named)) (carried id)
      (carried orig)
  | @canceled request o reads found =>
    have order := written.holds (Book.holds_of_locate? found)
    rw [List.forall_mem_singleton,
      Notice.fits_iff version ⟨order.orderId, order.clOrdId, order.symbol⟩ (execId 0)]
    exact carried (OrderCancelRequest.get_clOrdId reads)
  | @replaced request o leaves reads found =>
    have order := written.holds (Book.holds_of_locate? found)
    rw [List.forall_mem_singleton, Notice.fits_iff version (order.replaced decoded reads) (execId 0)]
    exact order.clOrdId.of_tag (by decide)

/-- An exchange that lacks words answers with one report, and it cannot be written. -/
theorem Speechless.unfit_report {reports : List Message} (handles : Handles x m owner reports after)
    (speechless : Speechless x.settings x.book m owner) (decoded : Wire.decode frame = .ok m) :
    ∃ report, reports = [report] ∧ Wire.checkValues report ≠ .ok () := by
  have typed := speechless.msgType
  cases handles with
  | @rejected request text reads why =>
    have incoming := x.written_incoming decoded reads
    obtain ⟨_, same, unfit⟩ := (speechless_iff reads).mp speechless
    rw [why] at same
    cases same
    refine ⟨_, rfl, mt (Notice.fits_iff (Wire.writable_version_of_decode decoded) ?_ ?_).mp unfit⟩
    · exact ⟨incoming.orderId, incoming.clOrdId, incoming.symbol⟩
    · exact IdCounters.writable_execId _
  | accepted reads free | filledAtOnce reads free =>
    exact absurd speechless (not_speechless_of_free reads free)
  -- Only a new order can be turned down, and this is a request of another kind.
  | refused other =>
    rw [typed] at other
    exact absurd other (by decide)
  | canceled reads | replaced reads =>
    have other := MessageView.msgType_of_ofMessage reads
    exact absurd (typed.symm.trans other) (by decide)

/-- The same goes for a request that cannot be read: its refusal quotes nothing but the request. -/
theorem onMessage_fits (sound : x.Sound) (written : x.book.Written)
    (decoded : Wire.decode frame = .ok m) (request : IsOrderRequest m) (owner : Owner) :
    ∃ answer after, onMessage x m owner = .ok (answer, after) ∧
      (¬ Speechless x.settings x.book m owner →
        ∀ response ∈ Acceptor.responsesTo m answer, Wire.checkValues response = .ok ()) ∧
      (Speechless x.settings x.book m owner →
        ∃ response, Acceptor.responsesTo m answer = [response] ∧
          Wire.checkValues response ≠ .ok ()) := by
  cases readable : requestFault? m with
  | some fault =>
    refine ⟨_, x, (onMessage_of_unreadable x owner readable).1, fun _ => ?_, fun speechless => ?_⟩
    · rw [Acceptor.responsesTo, List.forall_mem_singleton]
      apply Acceptor.checkValues_rejectFor decoded
      rw [invalidRequest_text]
      exact (orderFault_of_requestFault? readable).inline fun tag text found =>
        (Wire.writable_of_get_decode decoded found).soh_notMem
    · rw [speechless.requestFault?] at readable
      cases readable
  | none =>
    obtain ⟨reports, after, answers, handles⟩ :=
      onMessage_of_readable x owner request readable sound.funded
    exact ⟨_, after, answers, handles.fits decoded written,
      fun speechless => speechless.unfit_report handles decoded⟩

end Exchange

/-! ### The connection of a request -/

namespace Acceptor

variable {σ : Type} {app : Application σ} {settings : SessionConfig} {id : Nat}
  {d : Desk σ} {e : Endpoint} {m : Message} {answer : Except RejectReason (List Message)} {s : σ}

/-- An endpoint goes on behind an answer that can be written. -/
theorem react_of_fits (service : e.connection.InService settings id) (speaks : settings.Speaks)
    (answers : consult app m e.connection d.application = (answer, s))
    (fits : ∀ response ∈ responsesTo m answer, Wire.checkValues response = .ok ()) (now : Moment) :
    ∃ frames connection,
      e.react (role app) now (.deliver m) d =
        ({ d with application := s }, { e with connection }) ∧
      connection.sent = e.connection.sent ++ frames ∧
      List.Forall₂ Sent.Conveys frames (responsesTo m answer) ∧
      connection.InService settings id := by
  obtain ⟨frames, after, sends, sent, conveys, still⟩ :=
    Connection.sendAll_inService service speaks fits now
  refine ⟨frames, after, ?_, sent, conveys, still⟩
  simp [Endpoint.react, role, Service.handle_deliver, answers, sends, still.isOpen]

/-- An answer that cannot be written ends the endpoint, and nothing has been sent. -/
theorem react_of_unfit (service : e.connection.InService settings id)
    (answers : consult app m e.connection d.application = (answer, s)) {response : Message}
    (only : responsesTo m answer = [response]) {fault : BuildFault}
    (unfit : Wire.checkValues response = .error fault) (now : Moment) :
    (e.react (role app) now (.deliver m) d).2 =
      { e with connection := e.connection.fail (.unencodable fault), ended := true } := by
  have sends := Connection.send_of_unfit service.isOpen unfit now
  simp [Endpoint.react, role, Service.handle_deliver, answers, only, Connection.sendAll, sends,
    Endpoint.finish]

end Acceptor

namespace Exchange

/-- The exchange is asked about every order request, and its answer is the acceptor's. -/
theorem consult_application {m : Message} (request : IsOrderRequest m) {c : Connection} {x : State}
    {result : Answer × State} (answers : onMessage x m (ownerOf c) = .ok result) :
    Acceptor.consult application m c x = result := by
  have asked : Acceptor.consult application m c x = application.onMessage m c x := by
    rcases request with typed | typed | typed <;> rw [Acceptor.consult, typed]
  rw [asked, application]
  simp only [answers]

/-- **The exchange breaks no connection, unless it is speechless.** Whatever an exchange has received
and executed before, it has an answer to every order request that arrives in a frame. All messages of
the answer can be written, the session reject of a refusal included, if and only if the exchange is not
`Speechless`. If it is not, the endpoint of a client that has logged on sends them all and goes on with
its session active. If it is, the endpoint sends nothing, fails for a message that cannot be encoded and
ends. -/
theorem answers_unless_speechless (settings : Settings) (events : List Event)
    (received : ∀ event ∈ events, event.Received) {frame : List UInt8} {m : Message}
    (decoded : Wire.decode frame = .ok m) (request : IsOrderRequest m) :
    let x := State.reached settings events
    (∀ owner, ∃ answer after, onMessage x m owner = .ok (answer, after) ∧
      ((∀ response ∈ Acceptor.responsesTo m answer, Wire.checkValues response = .ok ()) ↔
        ¬ Speechless settings x.book m owner)) ∧
    ∀ (v : Acceptor.Service State) (now : Moment), v.Opened application →
      v.connection.session.state = .active → v.desk.application = x →
      let speechless := Speechless settings x.book m (ownerOf v.connection)
      let after := (v.endpoint.react (Acceptor.role application) now (.deliver m) v.desk).2
      (¬ speechless →
        after.ended = false ∧ after.connection.session.state = .active ∧
          ∃ answer y frames, onMessage x m (ownerOf v.connection) = .ok (answer, y) ∧
            after.connection.sent = v.connection.sent ++ frames ∧
            List.Forall₂ Sent.Conveys frames (Acceptor.responsesTo m answer)) ∧
      (speechless →
        after.ended = true ∧ after.connection.sent = v.connection.sent ∧
          ∃ fault, after.connection.closeReason = some (.unencodable fault)) := by
  intro x
  have sound := State.Sound.reached settings events
  have written := Book.Written.reached settings received
  have fits (owner : Owner) := onMessage_fits sound written decoded request owner
  rw [State.settings_reached] at fits
  constructor
  · intro owner
    obtain ⟨answer, after, answers, sayable, speechless⟩ := fits owner
    refine ⟨answer, after, answers, ?_, sayable⟩
    intro all never
    obtain ⟨response, only, unfit⟩ := speechless never
    exact unfit (all response (by rw [only]; exact List.mem_singleton_self response))
  · intro v now opened active current
    obtain ⟨config, id, speaks, consistent⟩ := opened.consistent
    have service := consistent.connection.inService active
    have goesOn := consistent.goesOn active
    obtain ⟨answer, y, answers, sayable, speechless⟩ := fits (ownerOf v.connection)
    have consulted : Acceptor.consult application m v.connection v.desk.application = (answer, y) := by
      rw [current]
      exact consult_application request answers
    constructor
    · intro spoken
      obtain ⟨frames, connection, reacts, sent, conveys, still⟩ :=
        Acceptor.react_of_fits service speaks consulted (sayable spoken) now
      rw [reacts]
      exact ⟨goesOn, still.active, answer, y, frames, answers, sent, conveys⟩
    · intro never
      obtain ⟨response, only, unfit⟩ := speechless never
      -- The check that fails is the first thing done to the message, so nothing has been spent on it.
      cases checks : Wire.checkValues response with
      | ok => exact absurd checks unfit
      | error fault =>
        rw [Acceptor.react_of_unfit service consulted only checks now]
        refine ⟨rfl, rfl, fault, ?_⟩
        show v.connection.closeReason.or _ = _
        rw [service.blameless service.isOpen, Option.none_or]

/-- An exchange that fills every order has taken one order before. Its second client logs on and sends
another, and gets two reports on it. -/
theorem answers_unless_speechless_twice :
    let message (type : MsgType) (number : String) : Message :=
      ((((Message.ofType "FIX.4.4" type).set Tag.senderCompId "C").set Tag.targetCompId "S").set
        Tag.msgSeqNum number).set Tag.sendingTime "-"
    let frame (m : Message) : List UInt8 := (Wire.encode m).toOption.getD []
    let arrived (m : Message) : Message := (Wire.decode (frame m)).toOption.getD m
    let order (id : String) : Message :=
      arrived (((((message .newOrderSingle "2").set Tag.clOrdId id).set Tag.symbol "ACME").set Tag.side
        "1").set Tag.orderQty "100" |>.set Tag.ordType "1")
    let now : Moment := ⟨⟨0⟩, 0⟩
    let config : AcceptorConfig := .default "" ⟨"S", by decide, by decide⟩
    let first := arrived (message .logon "1")
    let session : Session :=
      ⟨Acceptor.sessionConfig config ⟨"C", by decide, by decide⟩ first, .logonPending, .initial,
        .start config.heartbeatInterval now, none⟩
    let settings : Settings := ⟨true, false, ""⟩
    let events : List Event := [.message (order "A1") ⟨1, "FIX.4.4"⟩]
    let v := Acceptor.Service.advance application now
      ⟨⟨State.reached settings events, false⟩, .create (.create 2 session),
        [frame (message .logon "1")], .free⟩
    let after := (v.endpoint.react (Acceptor.role application) now (.deliver (order "B1")) v.desk).2
    (∀ event ∈ events, event.Received) ∧ v.Opened application ∧
      after.ended = false ∧ after.connection.session.state = .active ∧
      ∃ ack fill, after.connection.sent = v.connection.sent ++ [ack, fill] := by
  intro message frame arrived order now config first session settings events v after
  have decoded (id : String) (known : id = "A1" ∨ id = "B1") :
      ∃ bytes, Wire.decode bytes = .ok (order id) := by
    refine ⟨frame (((((message .newOrderSingle "2").set Tag.clOrdId id).set Tag.symbol "ACME").set
      Tag.side "1").set Tag.orderQty "100" |>.set Tag.ordType "1"), ?_⟩
    rcases known with rfl | rfl <;> decide +kernel
  have received : ∀ event ∈ events, event.Received := by
    intro event member
    rw [List.mem_singleton.mp member]
    exact decoded "A1" (.inl rfl)
  have opens : Acceptor.openConnection config 2 first now = .ok (.create 2 session) := by
    decide +kernel
  have opened : v.Opened application := .turn now .advance (.logon _ [] (by decide +kernel) opens)
  obtain ⟨bytes, comes⟩ := decoded "B1" (.inr rfl)
  obtain ⟨-, connections⟩ :=
    answers_unless_speechless settings events received comes (.inl (by decide +kernel))
  obtain ⟨goesOn, active, answer, y, frames, answers, sent, conveys⟩ :=
    (connections v now opened (by decide +kernel) (by decide +kernel)).1 fun speechless => by
      cases speechless.turnsDown
  have twice : ((onMessage (State.reached settings events) (order "B1")
      (ownerOf v.connection)).toOption.map fun answered =>
        (Acceptor.responsesTo (order "B1") answered.1).length) = some 2 := by
    decide +kernel
  rw [answers] at twice
  obtain ⟨ack, fill, rfl⟩ := List.length_eq_two.mp (conveys.length_eq.trans (Option.some.inj twice))
  -- The endpoint is the one the theorem speaks of; nothing is to be evaluated here.
  refine ⟨received, opened, ?_, ?_, ack, fill, ?_⟩
  · with_reducible exact goesOn
  · with_reducible exact active
  · with_reducible exact sent

/-- An exchange is to turn every new order down and has been given no text for it. The report has an
empty field, so the client's first order ends its session, and the logon is all it has been sent. -/
theorem speechless_without_text :
    let message (type : MsgType) (number : String) : Message :=
      ((((Message.ofType "FIX.4.4" type).set Tag.senderCompId "C").set Tag.targetCompId "S").set
        Tag.msgSeqNum number).set Tag.sendingTime "-"
    let frame (m : Message) : List UInt8 := (Wire.encode m).toOption.getD []
    let order := (((((message .newOrderSingle "2").set Tag.clOrdId "A1").set Tag.symbol "ACME").set
      Tag.side "1").set Tag.orderQty "100").set Tag.ordType "1"
    let now : Moment := ⟨⟨0⟩, 0⟩
    let config : AcceptorConfig := .default "" ⟨"S", by decide, by decide⟩
    let settings : Settings := ⟨false, true, ""⟩
    let cause : BuildFault := .fieldValue Tag.text "empty value"
    (∃ m report after, Wire.decode (frame order) = .ok m ∧ IsOrderRequest m ∧
      onMessage (.start settings) m ⟨1, "FIX.4.4"⟩ = .ok (.ok [report], after) ∧
        Wire.checkValues report = .error cause) ∧
      let arriving := frame (message .logon "1") ++ frame order
      let phase := (Acceptor.receive config application 1 now arriving (.start settings)
        (.awaitingLogon [])).2
      phase.hasEnded = true ∧
        phase.connection?.bind Connection.closeReason = some (.unencodable cause) ∧
        (phase.connection?.map fun c => c.sent.map fun frame => frame.message.msgTypeText) =
          some ["A"] := by
  intro message frame order now config settings cause
  constructor
  · let m := (Wire.decode (frame order)).toOption.getD order
    let answered := (onMessage (.start settings) m ⟨1, "FIX.4.4"⟩).toOption.getD (.ok [], .start settings)
    let report := (answered.1.toOption.bind List.head?).getD m
    exact ⟨m, report, answered.2, by decide +kernel, .inl (by decide +kernel), by decide +kernel,
      by decide +kernel⟩
  · exact ⟨by decide +kernel, by decide +kernel, by decide +kernel⟩

end Exchange

end FixBench
