import FixBench.Proofs.Decimal.Overflow
import FixBench.Proofs.Decimal.Value
import FixBench.Proofs.Exchange.Book
import FixBench.Proofs.Exchange.Reports
import FixBench.Proofs.Failing

/-!
# How the exchange handles a request

A request is either refused because it cannot be read, and then nothing changes, or it is handled in
one of the ways listed by `Handles`: a new order is rejected, accepted or filled at once, a request to
cancel or replace is refused or carried out. Each way says what is answered and what becomes of the
exchange. The answer is never an internal refusal, because every report can be built.

Only the arithmetic may stand in the way. It cannot for new orders and cancellations, and not for
replacements of orders whose executed quantity is not negative (`onMessage_of_readable`). Unsolicited
executions are described in the same way by `Fills`, and `Declines` lists why there is none.
-/
namespace FixBench.Exchange

/-! ### Reading requests -/

def fault? {α : Type} : Except BuildFault α → Option BuildFault
  | .ok _ => none
  | .error fault => some fault

theorem fault?_eq_some_iff {α : Type} (result : Except BuildFault α) (fault : BuildFault) :
    fault? result = some fault ↔ result = .error fault := by
  cases result <;> simp [fault?]

theorem fault?_eq_none_iff {α : Type} (result : Except BuildFault α) :
    fault? result = none ↔ ∃ a, result = .ok a := by
  cases result <;> simp [fault?]

/-- Why an order request cannot be read, if it cannot. -/
def requestFault? (m : Message) : Option BuildFault :=
  match m.msgType with
  | .newOrderSingle => fault? (MessageView.ofMessage m : Except BuildFault NewOrderSingle)
  | .orderCancelRequest => fault? (MessageView.ofMessage m : Except BuildFault OrderCancelRequest)
  | .orderCancelReplaceRequest =>
    fault? (MessageView.ofMessage m : Except BuildFault OrderCancelReplaceRequest)
  | _ => none

def IsOrderRequest (m : Message) : Prop :=
  m.msgType = .newOrderSingle ∨ m.msgType = .orderCancelRequest ∨
    m.msgType = .orderCancelReplaceRequest

/-! ### Ways to handle a request -/

/-- The order a new order becomes, under the next identifier. -/
def State.incoming (x : State) (request : NewOrderSingle) : RestingOrder :=
  .ofRequest request x.ids.nextOrderId.1

/-- The identifier of the next report but `n`. -/
def State.execId (x : State) (n : Nat) : String := IdCounters.execId (x.ids.executions + n + 1)

/-- The exchange after it has used up identifiers for orders and reports. -/
def State.counted (x : State) (orders reports : Nat) : State :=
  { x with ids := ⟨x.ids.orders + orders, x.ids.executions + reports⟩ }

/-- No open order has executed less than nothing. -/
def Book.Funded (b : Book) : Prop :=
  ∀ e ∈ b.entries, e.order.isOpen = true → 0 ≤ e.order.cumQty.value

/-- The order is in the book, whoever owns it. -/
def Book.Holds (b : Book) (o : RestingOrder) : Prop := ∃ owner, ⟨o, owner⟩ ∈ b.entries

theorem Book.holds_of_locate? {b : Book} {ownerId : Nat} {name : Option String} {clOrdId : String}
    {o : RestingOrder} (found : b.locate? ownerId name clOrdId = some o) : b.Holds o := by
  obtain ⟨owner, member, -⟩ := mem_of_locate? found
  exact ⟨owner, member⟩

/-- An order at the terms of a request to replace it. -/
def RestingOrder.replaced (o : RestingOrder) (request : OrderCancelReplaceRequest) : RestingOrder :=
  { o with
    clOrdId := request.clOrdId
    orderQty := request.orderQty
    ordType := request.ordType
    price := request.price.or o.price }

def RestingOrder.canceled (o : RestingOrder) : RestingOrder := { o with status := .canceled }

/-- An order that trades all of its quantity at once, at its price if it has one. -/
def RestingOrder.filledAtOnce (o : RestingOrder) : RestingOrder :=
  { o with avgPx := o.price.getD .zero, cumQty := o.orderQty, status := .filled }

inductive Handles (x : State) (m : Message) (owner : Owner) : List Message → State → Prop where
  | rejected {request : NewOrderSingle} {text : String}
      (reads : MessageView.ofMessage m = .ok request)
      (why : rejection? x owner.id request.clOrdId = some text) :
      Handles x m owner
        [(Notice.mk m.beginString { x.incoming request with status := .rejected } .zero (x.execId 0)
          (.rejected text)).message]
        (x.counted 1 1)
  | accepted {request : NewOrderSingle} {leaves : Decimal}
      (reads : MessageView.ofMessage m = .ok request)
      (free : rejection? x owner.id request.clOrdId = none) (manual : x.settings.autoFill = false)
      (known : (x.incoming request).leavesQty = .ok leaves) :
      Handles x m owner
        [(Notice.mk m.beginString (x.incoming request) leaves (x.execId 0) .acknowledged).message]
        { x.counted 1 1 with book := x.book.insert (x.incoming request) owner }
  | filledAtOnce {request : NewOrderSingle} {leaves : Decimal}
      (reads : MessageView.ofMessage m = .ok request)
      (free : rejection? x owner.id request.clOrdId = none) (auto : x.settings.autoFill = true)
      (known : (x.incoming request).leavesQty = .ok leaves) :
      Handles x m owner
        [(Notice.mk m.beginString (x.incoming request) leaves (x.execId 0) .acknowledged).message,
         (Notice.mk m.beginString (x.incoming request).filledAtOnce .zero (x.execId 1)
          (.executed request.orderQty (request.price.getD .zero))).message]
        { x.counted 1 2 with book := x.book.insert (x.incoming request).filledAtOnce owner }
  | refused {o : Option RestingOrder} {clOrdId origClOrdId : String} {responseTo : CxlRejResponseTo}
      {refusal : CancelRefusal}
      (typed : m.msgType = .orderCancelRequest ∨ m.msgType = .orderCancelReplaceRequest)
      (id : m.get Tag.clOrdId = some clOrdId) (orig : m.get Tag.origClOrdId = some origClOrdId)
      (found : ∀ r ∈ o, x.book.Holds r) :
      Handles x m owner
        [(Refused.mk m.beginString o clOrdId origClOrdId responseTo refusal).message] x
  | canceled {request : OrderCancelRequest} {o : RestingOrder}
      (reads : MessageView.ofMessage m = .ok request)
      (found : x.book.locate? owner.id request.orderId request.origClOrdId = some o)
      (opened : o.isOpen = true) :
      Handles x m owner
        [(Notice.mk m.beginString o.canceled .zero (x.execId 0) (.canceled request.clOrdId)).message]
        { x.counted 0 1 with book := x.book.update o.canceled }
  | replaced {request : OrderCancelReplaceRequest} {o : RestingOrder} {leaves : Decimal}
      (reads : MessageView.ofMessage m = .ok request)
      (found : x.book.locate? owner.id none request.origClOrdId = some o)
      (opened : o.isOpen = true) (above : o.cumQty < request.orderQty)
      (known : (o.replaced request).leavesQty = .ok leaves) :
      Handles x m owner
        [(Notice.mk m.beginString (o.replaced request) leaves (x.execId 0)
          (.replaced o.clOrdId)).message]
        { x.counted 0 1 with
          book := (x.book.update (o.replaced request)).point owner.id request.clOrdId o.orderId }

/-! ### New orders -/

theorem exists_leavesQty_ofRequest (request : NewOrderSingle) (orderId : String) :
    ∃ leaves, (RestingOrder.ofRequest request orderId).leavesQty = .ok leaves :=
  Decimal.exists_sub_zero _

theorem execute_eq_ok_iff (o after : RestingOrder) (qty px : Decimal) :
    o.execute qty px = .ok after ↔
      ∃ filled avgPx, o.cumQty.add qty = .ok filled ∧
        averagePrice o.avgPx o.cumQty px qty filled = .ok avgPx ∧
        after = { o with avgPx, cumQty := filled,
                         status := if o.orderQty ≤ filled then .filled else .partiallyFilled } := by
  simp only [RestingOrder.execute, bind_eq_ok_iff]
  constructor
  · rintro ⟨filled, sums, avgPx, averages, made⟩
    cases made
    exact ⟨filled, avgPx, sums, averages, rfl⟩
  · rintro ⟨filled, avgPx, sums, averages, rfl⟩
    exact ⟨filled, sums, avgPx, averages, rfl⟩

/-- An order without executions that trades all of its quantity is filled. -/
theorem execute_ofRequest (request : NewOrderSingle) (orderId : String) :
    (RestingOrder.ofRequest request orderId).execute request.orderQty (request.price.getD .zero) =
      .ok (RestingOrder.ofRequest request orderId).filledAtOnce := by
  rw [execute_eq_ok_iff]
  refine ⟨request.orderQty, request.price.getD .zero, rfl, rfl, ?_⟩
  have full : (RestingOrder.ofRequest request orderId).orderQty ≤ request.orderQty :=
    Decimal.le_self _
  rw [if_pos full]
  rfl

theorem rejectNew_eq (x : State) (version : String) (o : RestingOrder) (text : String) :
    rejectNew x version o text =
      .ok (.ok [(Notice.mk version { o with status := .rejected } .zero (x.execId 0)
        (.rejected text)).message], x.counted 0 1) := by
  let n : Notice := ⟨version, { o with status := .rejected }, .zero, x.execId 0, .rejected text⟩
  have drafted := n.reportDraft_eq rfl
  show (do
    let draft ← reportDraft n.version n.order n.execId n.execType n.ordStatus
    return (answerOf ((draft.text text).build.map fun report => [report.message]),
      x.counted 0 1) : Outcome) = _
  rw [drafted]
  show Except.ok (answerOf (n.draft.build.map _), _) = _
  rw [n.build_draft]
  rfl

theorem acceptNew_manual {x : State} (version : String) (owner : Owner) {o : RestingOrder}
    {leaves : Decimal} (manual : x.settings.autoFill = false)
    (known : o.leavesQty = .ok leaves) :
    acceptNew x version owner o =
      .ok (.ok [(Notice.mk version o leaves (x.execId 0) .acknowledged).message],
        { x.counted 0 1 with book := x.book.insert o owner }) := by
  let n : Notice := ⟨version, o, leaves, x.execId 0, .acknowledged⟩
  have drafted : reportDraft version o x.ids.nextExecId.1 .new .new = .ok n.standing :=
    n.reportDraft_eq known
  have built : n.standing.build = .ok n.view := n.build_draft
  simp only [acceptNew, drafted, manual, bind, Except.bind, built]
  rfl

theorem acceptNew_auto {x : State} (version : String) (owner : Owner) (request : NewOrderSingle)
    (orderId : String) {leaves : Decimal} (auto : x.settings.autoFill = true)
    (known : (RestingOrder.ofRequest request orderId).leavesQty = .ok leaves) :
    acceptNew x version owner (.ofRequest request orderId) =
      .ok (.ok [(Notice.mk version (.ofRequest request orderId) leaves (x.execId 0)
            .acknowledged).message,
          (Notice.mk version (RestingOrder.ofRequest request orderId).filledAtOnce .zero (x.execId 1)
            (.executed request.orderQty (request.price.getD .zero))).message],
        { x.counted 0 2 with
          book := x.book.insert (RestingOrder.ofRequest request orderId).filledAtOnce owner }) := by
  let ack : Notice := ⟨version, .ofRequest request orderId, leaves, x.execId 0, .acknowledged⟩
  let fill : Notice := ⟨version, (RestingOrder.ofRequest request orderId).filledAtOnce, .zero,
    x.execId 1, .executed request.orderQty (request.price.getD .zero)⟩
  have acknowledged : reportDraft version (.ofRequest request orderId) x.ids.nextExecId.1 .new .new =
      .ok ack.standing := ack.reportDraft_eq known
  have filled : reportDraft version (RestingOrder.ofRequest request orderId).filledAtOnce
      x.ids.nextExecId.2.nextExecId.1 .fill .filled = .ok fill.standing := fill.reportDraft_eq rfl
  have executed := execute_ofRequest request orderId
  have first : ack.standing.build = .ok ack.view := ack.build_draft
  have second : ((fill.standing.lastQty request.orderQty).lastPx (request.price.getD .zero)).build =
      .ok fill.view := fill.build_draft
  simp only [acceptNew, acknowledged, auto, bind, Except.bind]
  simp only [RestingOrder.ofRequest] at executed first second filled ⊢
  simp only [executed, filled, first, second]
  rfl

theorem onNewOrder_of_reads (x : State) {m : Message} (owner : Owner) {request : NewOrderSingle}
    (reads : MessageView.ofMessage m = .ok request) :
    ∃ reports after, onNewOrder x m owner = .ok (.ok reports, after) ∧
      Handles x m owner reports after := by
  obtain ⟨leaves, known⟩ := exists_leavesQty_ofRequest request x.ids.nextOrderId.1
  -- The identifier of the order has been taken before it is decided whether it is accepted.
  have decided : rejection? { x with ids := x.ids.nextOrderId.2 } owner.id
      (RestingOrder.ofRequest request x.ids.nextOrderId.1).clOrdId =
        rejection? x owner.id request.clOrdId := rfl
  cases why : rejection? x owner.id request.clOrdId with
  | some text =>
    simp only [onNewOrder, reads, decided.trans why]
    exact ⟨_, _, rejectNew_eq .., .rejected reads why⟩
  | none =>
    simp only [onNewOrder, reads, decided.trans why]
    cases mode : x.settings.autoFill with
    | false => exact ⟨_, _, acceptNew_manual _ _ mode known, .accepted reads why mode known⟩
    | true => exact ⟨_, _, acceptNew_auto _ _ _ _ mode known, .filledAtOnce reads why mode known⟩

/-! ### Cancellation and replacement -/

theorem refuse_eq (x : State) (version : String) (o : Option RestingOrder)
    (clOrdId origClOrdId : String) (responseTo : CxlRejResponseTo) (refusal : CancelRefusal) :
    refuse x version o clOrdId origClOrdId responseTo refusal =
      .ok (.ok [(Refused.mk version o clOrdId origClOrdId responseTo refusal).message], x) := by
  let n : Refused := ⟨version, o, clOrdId, origClOrdId, responseTo, refusal⟩
  have built : cancelReject version o clOrdId origClOrdId responseTo refusal = .ok n.message :=
    n.cancelReject_eq
  rw [refuse, built]
  rfl

/-- An open order that is found is canceled. -/
theorem onCancel_of_open {x : State} {m : Message} {owner : Owner} {request : OrderCancelRequest}
    {o : RestingOrder} (reads : MessageView.ofMessage m = .ok request)
    (found : x.book.locate? owner.id request.orderId request.origClOrdId = some o)
    (opened : o.isOpen = true) :
    onCancel x m owner =
      .ok (.ok [(Notice.mk m.beginString o.canceled .zero (x.execId 0)
          (.canceled request.clOrdId)).message],
        { x.counted 0 1 with book := x.book.update o.canceled }) := by
  let n : Notice := ⟨m.beginString, o.canceled, .zero, x.execId 0, .canceled request.clOrdId⟩
  have drafted : reportDraft m.beginString { o with status := .canceled } x.ids.nextExecId.1
      .canceled .canceled = .ok n.standing := n.reportDraft_eq rfl
  have built : ((n.standing.clOrdId request.clOrdId).origClOrdId o.clOrdId).build = .ok n.view :=
    n.build_draft
  simp only [onCancel, reads, found, if_pos opened, drafted, bind, Except.bind, built]
  rfl

theorem onCancel_of_reads (x : State) {m : Message} (owner : Owner) {request : OrderCancelRequest}
    (reads : MessageView.ofMessage m = .ok request) :
    ∃ reports after, onCancel x m owner = .ok (.ok reports, after) ∧
      Handles x m owner reports after := by
  obtain ⟨id, orig⟩ := OrderCancelRequest.carried reads
  have refused (o : Option RestingOrder) (refusal : CancelRefusal)
      (found : ∀ r ∈ o, x.book.Holds r) :
      Handles x m owner [(Refused.mk m.beginString o request.clOrdId request.origClOrdId
        .cancelRequest refusal).message] x :=
    .refused (.inl (MessageView.msgType_of_ofMessage reads)) id orig found
  cases found : x.book.locate? owner.id request.orderId request.origClOrdId with
  | none =>
    simp only [onCancel, reads, found]
    exact ⟨_, _, refuse_eq .., refused none .unknownOrder (fun _ none => by cases none)⟩
  | some o =>
    have holds : ∀ r ∈ some o, x.book.Holds r := by
      rintro r ⟨⟩
      exact Book.holds_of_locate? found
    cases opened : o.isOpen with
    | true => exact ⟨_, _, onCancel_of_open reads found opened, .canceled reads found opened⟩
    | false =>
      simp only [onCancel, reads, found, opened, Bool.false_eq_true, ↓reduceIte]
      exact ⟨_, _, refuse_eq .., refused (some o) .tooLate holds⟩

/-- What is left of a replaced order can be told, as it has executed less than it is to trade. -/
theorem RestingOrder.exists_leavesQty_replaced (o : RestingOrder)
    {request : OrderCancelReplaceRequest} (opened : o.isOpen = true)
    (nonneg : 0 ≤ o.cumQty.value) (above : o.cumQty < request.orderQty) :
    ∃ leaves, (o.replaced request).leavesQty = .ok leaves := by
  rw [Decimal.lt_iff] at above
  obtain ⟨leaves, known⟩ := Decimal.exists_sub nonneg above.le
  have still : (o.replaced request).isOpen = true := opened
  rw [leavesQty, if_pos still]
  exact ⟨leaves, known⟩

/-- An open order that is found is replaced under a quantity above what it has executed. -/
theorem onReplace_of_open {x : State} {m : Message} {owner : Owner}
    {request : OrderCancelReplaceRequest} {o : RestingOrder} {leaves : Decimal}
    (reads : MessageView.ofMessage m = .ok request)
    (found : x.book.locate? owner.id none request.origClOrdId = some o)
    (opened : o.isOpen = true) (above : o.cumQty < request.orderQty)
    (known : (o.replaced request).leavesQty = .ok leaves) :
    onReplace x m owner =
      .ok (.ok [(Notice.mk m.beginString (o.replaced request) leaves (x.execId 0)
          (.replaced o.clOrdId)).message],
        { x.counted 0 1 with
          book := (x.book.update (o.replaced request)).point owner.id request.clOrdId
            o.orderId }) := by
  let n : Notice := ⟨m.beginString, o.replaced request, leaves, x.execId 0, .replaced o.clOrdId⟩
  have drafted : reportDraft m.beginString (o.replaced request) x.ids.nextExecId.1
      .replaced .replaced = .ok n.standing := n.reportDraft_eq known
  have built : (n.standing.origClOrdId o.clOrdId).build = .ok n.view := n.build_draft
  simp only [RestingOrder.replaced] at drafted
  simp only [onReplace, reads, found, opened, Bool.not_true, Bool.false_eq_true, ↓reduceIte,
    if_pos above, drafted, bind, Except.bind, built]
  rfl

theorem onReplace_of_reads (x : State) {m : Message} (owner : Owner)
    {request : OrderCancelReplaceRequest} (reads : MessageView.ofMessage m = .ok request)
    (funded : x.book.Funded) :
    ∃ reports after, onReplace x m owner = .ok (.ok reports, after) ∧
      Handles x m owner reports after := by
  obtain ⟨id, orig⟩ := OrderCancelReplaceRequest.carried reads
  have refused (o : Option RestingOrder) (refusal : CancelRefusal)
      (found : ∀ r ∈ o, x.book.Holds r) :
      Handles x m owner [(Refused.mk m.beginString o request.clOrdId request.origClOrdId
        .cancelReplaceRequest refusal).message] x :=
    .refused (.inr (MessageView.msgType_of_ofMessage reads)) id orig found
  cases found : x.book.locate? owner.id none request.origClOrdId with
  | none =>
    simp only [onReplace, reads, found]
    exact ⟨_, _, refuse_eq .., refused none .unknownOrder (fun _ none => by cases none)⟩
  | some o =>
    have holds : ∀ r ∈ some o, x.book.Holds r := by
      rintro r ⟨⟩
      exact Book.holds_of_locate? found
    cases opened : o.isOpen with
    | false =>
      simp only [onReplace, reads, found, opened, Bool.not_false, ↓reduceIte]
      exact ⟨_, _, refuse_eq .., refused (some o) .tooLate holds⟩
    | true =>
      by_cases above : o.cumQty < request.orderQty
      · -- Only here does the arithmetic matter: what is left has to be a decimal.
        obtain ⟨resting, member, -⟩ := Book.mem_of_locate? found
        have nonneg : 0 ≤ o.cumQty.value := funded ⟨o, resting⟩ member opened
        obtain ⟨leaves, known⟩ := o.exists_leavesQty_replaced opened nonneg above
        exact ⟨_, _, onReplace_of_open reads found opened above known,
          .replaced reads found opened above known⟩
      · simp only [onReplace, reads, found, opened, Bool.not_true, Bool.false_eq_true, ↓reduceIte,
          if_neg above]
        exact ⟨_, _, refuse_eq .., refused (some o) .tooSmall holds⟩

/-! ### Order requests -/

theorem orderFault_of_requestFault? {m : Message} {fault : BuildFault}
    (unreadable : requestFault? m = some fault) : m.OrderFault fault := by
  unfold requestFault? at unreadable
  split at unreadable
  · rename_i typed
    rw [fault?_eq_some_iff] at unreadable
    exact NewOrderSingle.orderFault (Message.get_msgType (by decide) typed) unreadable
  · rename_i typed
    rw [fault?_eq_some_iff] at unreadable
    exact OrderCancelRequest.orderFault (Message.get_msgType (by decide) typed) unreadable
  · rename_i typed
    rw [fault?_eq_some_iff] at unreadable
    exact OrderCancelReplaceRequest.orderFault (Message.get_msgType (by decide) typed) unreadable
  · cases unreadable

theorem onMessage_of_unreadable (x : State) {m : Message} (owner : Owner) {fault : BuildFault}
    (unreadable : requestFault? m = some fault) :
    onMessage x m owner = .ok (.error (invalidRequest fault), x) ∧ fault.IsOfField := by
  refine ⟨?_, (orderFault_of_requestFault? unreadable).isOfField⟩
  unfold requestFault? at unreadable
  split at unreadable
  · rename_i typed
    rw [fault?_eq_some_iff] at unreadable
    simp [onMessage, typed, onNewOrder, unreadable]
  · rename_i typed
    rw [fault?_eq_some_iff] at unreadable
    simp [onMessage, typed, onCancel, unreadable]
  · rename_i typed
    rw [fault?_eq_some_iff] at unreadable
    simp [onMessage, typed, onReplace, unreadable]
  · cases unreadable

theorem onMessage_of_readable (x : State) {m : Message} (owner : Owner) (request : IsOrderRequest m)
    (readable : requestFault? m = none)
    (funded : x.book.Funded) :
    ∃ reports after, onMessage x m owner = .ok (.ok reports, after) ∧
      Handles x m owner reports after := by
  obtain typed | typed | typed := request
  · simp only [requestFault?, typed, fault?_eq_none_iff] at readable
    obtain ⟨request, reads⟩ := readable
    rw [onMessage, typed]
    exact onNewOrder_of_reads x owner reads
  · simp only [requestFault?, typed, fault?_eq_none_iff] at readable
    obtain ⟨request, reads⟩ := readable
    rw [onMessage, typed]
    exact onCancel_of_reads x owner reads
  · simp only [requestFault?, typed, fault?_eq_none_iff] at readable
    obtain ⟨request, reads⟩ := readable
    rw [onMessage, typed]
    exact onReplace_of_reads x owner reads funded

/-- A message always comes to an end. Nothing is told and nothing changes, or it is an order request
that is handled. -/
theorem onMessage_ends (x : State) (m : Message) (owner : Owner) (funded : x.book.Funded) :
    (∃ answer, onMessage x m owner = .ok (answer, x) ∧
      ∀ reports, answer = .ok reports → reports = []) ∨
    ∃ reports after, onMessage x m owner = .ok (.ok reports, after) ∧
      Handles x m owner reports after := by
  by_cases request : IsOrderRequest m
  · cases readable : requestFault? m with
    | some fault =>
      refine .inl ⟨_, (onMessage_of_unreadable x owner readable).1, ?_⟩
      intro reports refused
      cases refused
    | none => exact .inr (onMessage_of_readable x owner request readable funded)
  · left
    rw [IsOrderRequest, not_or, not_or] at request
    unfold onMessage
    split
    · rename_i typed
      exact absurd typed request.1
    · rename_i typed
      exact absurd typed request.2.1
    · rename_i typed
      exact absurd typed request.2.2
    · refine ⟨_, rfl, ?_⟩
      intro reports answered
      cases answered
      rfl
    · refine ⟨_, rfl, ?_⟩
      intro reports refused
      cases refused

/-- Whatever a message does to the exchange, it does as an order request that is handled. -/
theorem onMessage_cases {x : State} {m : Message} {owner : Owner} {answer : Answer} {after : State}
    (funded : x.book.Funded)
    (answers : onMessage x m owner = .ok (answer, after)) :
    after = x ∨ ∃ reports, answer = .ok reports ∧ Handles x m owner reports after := by
  obtain ⟨idle, ends, -⟩ | ⟨reports, reached, ends, handled⟩ := onMessage_ends x m owner funded
  · cases answers.symm.trans ends
    exact .inl rfl
  · cases answers.symm.trans ends
    exact .inr ⟨reports, rfl, handled⟩

/-! ### Executions -/

/-- The execution of an open order, within what is left of it. -/
inductive Fills (x : State) (orderId : String) (qty px : Decimal) :
    Message → Owner → State → Prop where
  | executed {e : Entry} {leaves left : Decimal} {filled : RestingOrder}
      (found : x.book.find? orderId = some e) (opened : e.order.isOpen = true)
      (known : e.order.leavesQty = .ok leaves) (positive : .zero < qty) (within : qty ≤ leaves)
      (executes : e.order.execute qty px = .ok filled) (remains : filled.leavesQty = .ok left) :
      Fills x orderId qty px
        (Notice.mk e.owner.version filled left (x.execId 0) (.executed qty px)).message e.owner
        { x.counted 0 1 with book := x.book.update filled }

/-- Why an order is not executed. -/
inductive Declines (x : State) (orderId : String) (qty : Decimal) : FillFault → Prop where
  | unknown (absent : x.book.find? orderId = none) : Declines x orderId qty (.unknownOrder orderId)
  | finished {e : Entry} (found : x.book.find? orderId = some e) (closed : e.order.isOpen = false) :
      Declines x orderId qty (.orderClosed orderId e.order.status)
  | outside {e : Entry} {leaves : Decimal} (found : x.book.find? orderId = some e)
      (opened : e.order.isOpen = true) (known : e.order.leavesQty = .ok leaves)
      (unusable : qty ≤ .zero ∨ leaves < qty) :
      Declines x orderId qty (.invalidQty orderId qty leaves)

theorem executeFill_cases {x after : State} {orderId : String} {qty px : Decimal}
    {result : Except FillFault (Message × Owner)}
    (executes : executeFill x orderId qty px = .ok (result, after)) :
    (∃ fault, result = .error fault ∧ Declines x orderId qty fault) ∧ after = x ∨
      ∃ report owner, result = .ok (report, owner) ∧
        Fills x orderId qty px report owner after := by
  unfold executeFill at executes
  split at executes
  · rename_i absent
    cases executes
    exact .inl ⟨⟨_, rfl, .unknown absent⟩, rfl⟩
  · rename_i e found
    split at executes
    · rename_i closed
      rw [Bool.not_eq_true'] at closed
      cases executes
      exact .inl ⟨⟨_, rfl, .finished found closed⟩, rfl⟩
    · rename_i opened
      rw [Bool.not_eq_true', Bool.not_eq_false] at opened
      rw [bind_eq_ok_iff] at executes
      obtain ⟨leaves, known, executes⟩ := executes
      split at executes
      · rename_i unusable
        cases executes
        exact .inl ⟨⟨_, rfl, .outside found opened known unusable⟩, rfl⟩
      · rename_i usable
        rw [not_or] at usable
        rw [bind_eq_ok_iff] at executes
        obtain ⟨filled, trades, executes⟩ := executes
        rw [bind_eq_ok_iff] at executes
        obtain ⟨draft, drafted, executes⟩ := executes
        -- That the report could be drafted shows that the open quantity after the trade is known.
        obtain ⟨left, remains⟩ : ∃ left, filled.leavesQty = .ok left := by
          rw [reportDraft, bind_eq_ok_iff] at drafted
          exact drafted.imp fun _ both => both.1
        let n : Notice := ⟨e.owner.version, filled, left, x.execId 0, .executed qty px⟩
        have standing : draft = n.standing := by
          have same := n.reportDraft_eq remains
          exact Except.ok.inj (drafted.symm.trans same)
        have built : ((draft.lastQty qty).lastPx px).build = .ok n.view := by
          rw [standing]
          exact n.build_draft
        rw [built] at executes
        cases executes
        exact .inr ⟨_, _, rfl, .executed found opened known (Decimal.lt_of_not_le usable.1)
          (Decimal.le_of_not_lt usable.2) trades remains⟩

/-! ### Executions out of range -/

variable {fault : Decimal.ArithmeticError}

theorem RestingOrder.leavesQty_fault {o : RestingOrder} (fails : o.leavesQty = .error fault) :
    fault.IsOverflow := by
  rw [leavesQty] at fails
  split at fails
  · exact Decimal.sub_fault fails
  · cases fails

theorem weighed_fault {a : Averaging} (fails : a.weighed = .error fault)
    (nonzero : a.filled.isZero = false) : fault.IsOverflow := by
  simp only [Averaging.weighed, bind_eq_error_iff] at fails
  obtain before | ⟨_, -, added | ⟨_, -, total | ⟨_, -, average⟩⟩⟩ := fails
  · exact Decimal.mul_fault before
  · exact Decimal.mul_fault added
  · exact Decimal.add_fault total
  · exact Decimal.div_fault average nonzero

theorem averagePrice_fault {avgPx cumQty px qty filled : Decimal}
    (fails : averagePrice avgPx cumQty px qty filled = .error fault)
    (nonzero : filled.isZero = false) : fault.IsOverflow := by
  rw [averagePrice] at fails
  split at fails
  · cases fails
  · exact weighed_fault fails nonzero

/-- An execution fails only by overflow, provided that the total it would lead to is not zero. -/
theorem executeFill_fault {x : State} {orderId : String} {qty px : Decimal}
    (fails : executeFill x orderId qty px = .error fault)
    (nonzero : ∀ e filled, x.book.find? orderId = some e → e.order.isOpen = true → .zero < qty →
      e.order.cumQty.add qty = .ok filled → filled.isZero = false) :
    fault.IsOverflow := by
  unfold executeFill at fails
  split at fails
  · cases fails
  · rename_i e found
    split at fails
    · cases fails
    · rename_i opened
      rw [Bool.not_eq_true', Bool.not_eq_false] at opened
      rw [bind_eq_error_iff] at fails
      obtain leaves | ⟨leaves, -, fails⟩ := fails
      · exact RestingOrder.leavesQty_fault leaves
      · split at fails
        · cases fails
        · rename_i usable
          rw [not_or] at usable
          rw [bind_eq_error_iff] at fails
          obtain trades | ⟨filled, -, fails⟩ := fails
          -- Of the three places where arithmetic can fail, only the average divides.
          · simp only [RestingOrder.execute, bind_eq_error_iff] at trades
            obtain total | ⟨total, sums, average | ⟨_, -, made⟩⟩ := trades
            · exact Decimal.add_fault total
            · exact averagePrice_fault average
                (nonzero e total found opened (Decimal.lt_of_not_le usable.1) sums)
            · cases made
          · rw [bind_eq_error_iff] at fails
            obtain drafted | ⟨draft, -, fails⟩ := fails
            · rw [reportDraft, bind_eq_error_iff] at drafted
              obtain left | ⟨_, -, made⟩ := drafted
              · exact RestingOrder.leavesQty_fault left
              · cases made
            · split at fails <;> cases fails

end FixBench.Exchange
