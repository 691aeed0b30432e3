import FixBench.Proofs.Exchange.Isolation
import FixBench.Proofs.Exchange.Mirror
import FixBench.Proofs.Exchange.Pair
import FixBench.Proofs.Order.Requests

/-!
# An order in lockstep with the exchange

An order goes through any run with the exchange, alone on its connection. Then the two never disagree
(`lockstep`): every report fits the order, and after every step the order has been rejected and the
exchange does not have it, or both have the same identifiers, quantities and prices and corresponding
states. Only arithmetic can end such a run, by overflow; and the sums in which executions are counted
have to be exact.

The invariant is `Linked`. What the connection has in the book is exactly the image of the order
(`Mirrors`), and the index leads to it. Every step keeps the image by the lemmas on reports, and the
book by the lemmas on its operations.
-/
namespace FixBench.Exchange

/-! ### The link between order and book -/

/-- An order that has not been sent and can be. -/
structure Sendable (o : Order) : Prop where
  state : o.state = .unsent
  cumQty : o.cumQty = .zero
  avgPx : o.avgPx = .zero
  positive : 0 < o.orderQty.value
  priced : o.ordType.requiresPrice = true → o.price.isSome = true

/-- The order is the only one its connection has, and the index leads to it. -/
structure Rests (owner : Owner) (o : Order) (r : RestingOrder) (b : Book) : Prop where
  orders : ∀ e : Entry, e.owner.id = owner.id → (e ∈ b.entries ↔ e = ⟨r, owner⟩)
  index : b.resolve? owner.id o.clOrdId = some r.orderId
  mirrors : Mirrors o r

def Absent (owner : Owner) (b : Book) : Prop := ∀ e ∈ b.entries, e.owner.id ≠ owner.id

inductive Linked (owner : Owner) (o : Order) (b : Book) : Prop where
  | unsent (sendable : Sendable o) (absent : Absent owner b)
  | rejected (state : o.state = .rejected) (absent : Absent owner b)
  | resting (r : RestingOrder) (rests : Rests owner o r b)

variable {owner : Owner} {o : Order} {r : RestingOrder} {b b' : Book} {p : Pair}

theorem Absent.transfer (absent : Absent owner b) (same : b.SameFor owner.id b') :
    Absent owner b' :=
  fun e member own => absent e ((same.orders e own).mp member) own

theorem Rests.transfer (rests : Rests owner o r b) (same : b.SameFor owner.id b') :
    Rests owner o r b' where
  orders e own := (same.orders e own).trans (rests.orders e own)
  index := (same.index _).trans rests.index
  mirrors := rests.mirrors

theorem Linked.transfer (linked : Linked owner o b) (same : b.SameFor owner.id b') :
    Linked owner o b' := by
  cases linked with
  | unsent sendable absent => exact .unsent sendable (absent.transfer same)
  | rejected state absent => exact .rejected state (absent.transfer same)
  | resting r rests => exact .resting r (rests.transfer same)

/-- Whatever the connection has in the book is its order. -/
theorem Linked.of_mem (linked : Linked owner o b) {e : Entry} (member : e ∈ b.entries)
    (own : e.owner.id = owner.id) : ∃ r, Rests owner o r b ∧ e = ⟨r, owner⟩ := by
  cases linked with
  | unsent _ absent => exact absurd own (absent e member)
  | rejected _ absent => exact absurd own (absent e member)
  | resting r rests => exact ⟨r, rests, (rests.orders e own).mp member⟩

/-- An order that works has an open image in the book. -/
theorem Linked.of_new (linked : Linked owner o b) (working : o.state = .new) :
    ∃ r, Rests owner o r b ∧ r.isOpen = true := by
  cases linked with
  | unsent sendable => rw [sendable.state] at working; cases working
  | rejected state => rw [state] at working; cases working
  | resting r rests => exact ⟨r, rests, rests.mirrors.open_of_new working⟩

theorem Rests.state_ne_unsent (rests : Rests owner o r b) : o.state ≠ .unsent := by
  have never (status : OrdStatus) : stateOf status ≠ some .unsent := by
    cases status <;> simp [stateOf]
  exact fun unsent => never r.status (unsent ▸ rests.mirrors.state)

theorem Rests.mem (rests : Rests owner o r b) : ⟨r, owner⟩ ∈ b.entries :=
  (rests.orders _ rfl).mpr rfl

/-- What the connection finds is its order. -/
theorem Rests.eq_of_locate? (rests : Rests owner o r b) {name : Option String} {clOrdId : String}
    {found : RestingOrder} (finds : b.locate? owner.id name clOrdId = some found) : found = r := by
  obtain ⟨resting, member, own, -⟩ := Book.mem_of_locate? finds
  exact congrArg Entry.order ((rests.orders ⟨found, resting⟩ own).mp member)

/-- The order enters the book of a connection that has none. -/
theorem Rests.insert (absent : Absent owner b) (fresh : b.Fresh r.orderId) (mirrors : Mirrors o r) :
    Rests owner o r (b.insert r owner) where
  orders e own := by
    rw [Book.mem_insert fresh]
    exact ⟨fun member => member.resolve_left fun old => absent e old own, .inr⟩
  index := by rw [Book.resolve?_insert, if_pos ⟨rfl, mirrors.clOrdId.symm⟩]
  mirrors := mirrors

/-- The order changes in the book, and so does the owner's. -/
theorem Rests.update (rests : Rests owner o r b) {o' : Order} {r' : RestingOrder}
    (named : r'.orderId = r.orderId) (mirrors : Mirrors o' r')
    (index : b'.resolve? owner.id o'.clOrdId = some r.orderId)
    (entries : b'.entries = (b.update r').entries) : Rests owner o' r' b' where
  orders e own := by
    rw [entries, Book.mem_update]
    constructor
    · rintro (⟨member, other⟩ | ⟨former, member, same, rfl⟩)
      · rw [(rests.orders e own).mp member] at other
        exact absurd named.symm other
      · rw [(rests.orders former own).mp member]
    · rintro rfl
      exact .inr ⟨⟨r, owner⟩, rests.mem, named.symm, rfl⟩
  index := named ▸ index
  mirrors := mirrors

/-- The owner's order changes, and the one in the book is still its image. -/
theorem Rests.of_mirrors (rests : Rests owner o r b) {o' : Order} (mirrors : Mirrors o' r) :
    Rests owner o' r b where
  orders := rests.orders
  index := by
    rw [mirrors.clOrdId, ← rests.mirrors.clOrdId]
    exact rests.index
  mirrors := mirrors

/-! ### Requests -/

theorem applyReports_singleton (o : Order) (m : Message) :
    applyReports o [m] = o.applyReport m := by
  rw [applyReports]
  cases o.applyReport m <;> rfl

theorem act_refused {action : OrderAction} (refused : o.state.next action = none) :
    o.act action = .error (.transition action.text o.state.text) := by
  simp only [Order.act, OrderState.after, refused]
  rfl

/-- Only a working order can be canceled or replaced. -/
theorem next_eq_none_of_ne_new {state : OrderState} {action : OrderAction} (idle : state ≠ .new)
    (change : action = .issueCancel ∨ action = .issueReplace) : state.next action = none := by
  obtain rfl | rfl := change <;> cases state <;> first | rfl | exact absurd rfl idle

/-- A new order is acknowledged and traded in one answer. -/
theorem Requested.filledAtOnce {request : NewOrderSingle} (requested : Requested o request)
    (version orderId execId execId' : String) {leaves : Decimal}
    (known : (RestingOrder.ofRequest request orderId).leavesQty = .ok leaves) :
    ∃ o', applyReports o
        [(Notice.mk version (.ofRequest request orderId) leaves execId .acknowledged).message,
         (Notice.mk version (RestingOrder.ofRequest request orderId).filledAtOnce .zero execId'
          (.executed request.orderQty (request.price.getD .zero))).message] = .ok o' ∧
      Mirrors o' (RestingOrder.ofRequest request orderId).filledAtOnce := by
  obtain ⟨acknowledged, applies, mirrors⟩ := requested.acknowledged orderId
  have whole : leaves.value = request.orderQty.value := Decimal.value_of_sub_zero known
  have positive : 0 < request.orderQty.value := requested.orderQty ▸ requested.positive
  -- Nothing has been executed before, so the sums of a first execution are always exact.
  have remaining : leaves.value = request.orderQty.value - Decimal.zero.value := by
    rw [whole, Decimal.value_zero, sub_zero]
  have total : request.orderQty.value = Decimal.zero.value + request.orderQty.value := by
    rw [Decimal.value_zero, zero_add]
  obtain ⟨o', fills, image⟩ := mirrors.execute rfl known
    ((Decimal.lt_iff ..).mpr (by rwa [Decimal.value_zero]))
    ((Decimal.le_iff ..).mpr whole.ge) (execute_ofRequest request orderId)
    remaining total
  refine ⟨o', ?_, image⟩
  rw [applyReports, applies]
  exact (applyReports_singleton ..).trans fills

/-! ### Answers to requests -/

section Answers

variable {x after : State} {m : Message} {reports : List Message}

/-- The answer to a new order links it with the book. -/
theorem Requested.linked {request : NewOrderSingle} (requested : Requested o request)
    (sound : x.Sound) (absent : Absent owner x.book) (reads : MessageView.ofMessage m = .ok request)
    (handles : Handles x m owner reports after) :
    ∃ o', applyReports o reports = .ok o' ∧ o'.state ≠ .unsent ∧ Linked owner o' after.book := by
  have typed : m.msgType = .newOrderSingle := MessageView.msgType_of_ofMessage reads
  cases handles with
  | rejected =>
    obtain ⟨o', applies, state⟩ := requested.rejected _ _
    refine ⟨o', (applyReports_singleton ..).trans applies, ?_, .rejected state absent⟩
    rw [state]
    simp
  | accepted reads' =>
    cases reads'.symm.trans reads
    obtain ⟨o', applies, mirrors⟩ := requested.acknowledged _
    -- The exchange had nothing of this connection, so the order is now all it has.
    have rests := Rests.insert absent (sound.fresh request) mirrors
    exact ⟨o', (applyReports_singleton ..).trans applies, rests.state_ne_unsent, .resting _ rests⟩
  | filledAtOnce reads' _ _ known =>
    cases reads'.symm.trans reads
    obtain ⟨o', applies, mirrors⟩ := requested.filledAtOnce _ _ _ _ known
    have fresh : x.book.Fresh (x.incoming request).filledAtOnce.orderId := sound.fresh request
    have rests := Rests.insert absent fresh mirrors
    exact ⟨o', applies, rests.state_ne_unsent, .resting _ rests⟩
  -- The other answers are to other kinds of requests.
  | refused other => rw [typed] at other; simp at other
  | canceled other => cases typed.symm.trans (MessageView.msgType_of_ofMessage other)
  | replaced other => cases typed.symm.trans (MessageView.msgType_of_ofMessage other)

/-- So does the answer to a request to cancel it. -/
theorem Rests.canceled {request : OrderCancelRequest} (rests : Rests owner o r x.book)
    (opened : r.isOpen = true) (reads : MessageView.ofMessage m = .ok request) :
    ∃ issued, o.issueCancel request.clOrdId = .ok issued ∧
      ∀ {reports after}, Handles x m owner reports after →
        ∃ o', applyReports issued reports = .ok o' ∧ o'.state ≠ .unsent ∧
          Linked owner o' after.book := by
  have typed : m.msgType = .orderCancelRequest := MessageView.msgType_of_ofMessage reads
  obtain ⟨issued, issues, confirmed, refused⟩ := rests.mirrors.cancel opened request.clOrdId
  refine ⟨issued, issues, fun handles => ?_⟩
  cases handles with
  | refused =>
    obtain ⟨o', applies, mirrors⟩ := refused _
    have rests' := rests.of_mirrors mirrors
    exact ⟨o', (applyReports_singleton ..).trans applies, rests'.state_ne_unsent, .resting _ rests'⟩
  | canceled reads' found =>
    cases reads'.symm.trans reads
    cases rests.eq_of_locate? found
    obtain ⟨o', applies, mirrors⟩ := confirmed _ _ _
    have index : (x.book.update r.canceled).resolve? owner.id o'.clOrdId = some r.orderId := by
      rw [Book.resolve?_update, mirrors.clOrdId]
      exact rests.mirrors.clOrdId ▸ rests.index
    have rests' : Rests owner o' r.canceled _ := rests.update rfl mirrors index rfl
    exact ⟨o', (applyReports_singleton ..).trans applies, rests'.state_ne_unsent, .resting _ rests'⟩
  | rejected other => cases typed.symm.trans (MessageView.msgType_of_ofMessage other)
  | accepted other => cases typed.symm.trans (MessageView.msgType_of_ofMessage other)
  | filledAtOnce other => cases typed.symm.trans (MessageView.msgType_of_ofMessage other)
  | replaced other => cases typed.symm.trans (MessageView.msgType_of_ofMessage other)

/-- And the answer to a request to replace it. -/
theorem Rests.replaced {request : OrderCancelReplaceRequest} (rests : Rests owner o r x.book)
    (opened : r.isOpen = true) (reads : MessageView.ofMessage m = .ok request) {qty : Decimal}
    {price : Option Decimal} (quantity : request.orderQty = qty.plain)
    (priced : request.price = (price.or o.price).map Decimal.plain) :
    ∃ issued, o.issueReplace ⟨request.clOrdId, qty, price⟩ = .ok issued ∧
      ∀ {reports after}, Handles x m owner reports after →
        ∃ o', applyReports issued reports = .ok o' ∧ o'.state ≠ .unsent ∧
          Linked owner o' after.book := by
  have typed : m.msgType = .orderCancelReplaceRequest := MessageView.msgType_of_ofMessage reads
  obtain ⟨issued, issues, confirmed, refused⟩ :=
    rests.mirrors.replace opened request.clOrdId qty price
  refine ⟨issued, issues, fun handles => ?_⟩
  cases handles with
  | refused =>
    obtain ⟨o', applies, mirrors⟩ := refused _
    have rests' := rests.of_mirrors mirrors
    exact ⟨o', (applyReports_singleton ..).trans applies, rests'.state_ne_unsent, .resting _ rests'⟩
  | replaced reads' found _ above =>
    cases reads'.symm.trans reads
    cases rests.eq_of_locate? found
    obtain ⟨o', applies, mirrors, named⟩ := confirmed _ _ _ _ rfl quantity priced above
    have index : ((x.book.update (r.replaced request)).point owner.id request.clOrdId
        r.orderId).resolve? owner.id o'.clOrdId = some r.orderId := by
      -- The entry of the former identifier stays; the order is looked up under the new one.
      rw [Book.resolve?_point, if_pos ⟨rfl, named.symm⟩]
    have rests' : Rests owner o' (r.replaced request) _ := rests.update rfl mirrors index rfl
    exact ⟨o', (applyReports_singleton ..).trans applies, rests'.state_ne_unsent, .resting _ rests'⟩
  | rejected other => cases typed.symm.trans (MessageView.msgType_of_ofMessage other)
  | accepted other => cases typed.symm.trans (MessageView.msgType_of_ofMessage other)
  | filledAtOnce other => cases typed.symm.trans (MessageView.msgType_of_ofMessage other)
  | canceled other => cases typed.symm.trans (MessageView.msgType_of_ofMessage other)

end Answers

/-! ### Steps -/

/-- What every step comes to: it ends in an overflow, or order and book are linked again, and an order
that is still unsent has not been submitted. -/
def Linked.After (owner : Owner) (p : Pair) (action : Action) : Prop :=
  (∃ fault, fault.IsOverflow ∧ p.step owner action = .error (.arithmetic fault)) ∨
    ∃ q, p.step owner action = .ok q ∧ q.exchange.Sound ∧ Linked owner q.order q.exchange.book ∧
      (q.order.state = .unsent → p.order.state = .unsent ∧ action ≠ .submit)

section Requests

variable {action : Action} {built : Except BuildFault Message}
  {issue : Order → Except OrderFault Order}

/-- A request that is issued and can be read keeps the link if every answer to it does. -/
theorem Linked.After.of_answer {m : Message} {issued : Order} (sound : p.exchange.Sound)
    (stepped : p.step owner action = p.request owner built issue) (builds : built = .ok m)
    (issues : issue p.order = .ok issued) (request : IsOrderRequest m)
    (readable : requestFault? m = none)
    (links : ∀ {reports after}, Handles p.exchange m owner reports after →
      ∃ o', applyReports issued reports = .ok o' ∧ o'.state ≠ .unsent ∧
        Linked owner o' after.book) :
    Linked.After owner p action := by
  obtain ⟨reports, after, answers, handles⟩ :=
    onMessage_of_readable p.exchange owner request readable sound.funded
  obtain ⟨o', applies, sent, linked⟩ := links handles
  refine .inr ⟨⟨o', after⟩, ?_, sound.handled handles, linked, fun unsent => absurd unsent sent⟩
  simp only [stepped, Pair.request, builds, issues, answers, applies]

/-- A request that is not issued leaves everything as it is. -/
theorem Linked.After.of_idle {fault : OrderFault} (sound : p.exchange.Sound)
    (linked : Linked owner p.order p.exchange.book)
    (stepped : p.step owner action = p.request owner built issue)
    (stops : issue p.order = .error fault) (kept : p.order.state = .unsent → action ≠ .submit) :
    Linked.After owner p action := by
  refine .inr ⟨p, ?_, sound, linked, fun unsent => ⟨unsent, kept unsent⟩⟩
  rw [stepped]
  cases built <;> simp only [Pair.request, stops]

end Requests

theorem Linked.submit (sound : p.exchange.Sound) (linked : Linked owner p.order p.exchange.book) :
    Linked.After owner p .submit := by
  -- Only an order that was never sent can be submitted; any other is refused without a message.
  by_cases unsent : p.order.state = .unsent
  · obtain ⟨sendable, absent⟩ : Sendable p.order ∧ Absent owner p.exchange.book := by
      cases linked with
      | unsent sendable absent => exact ⟨sendable, absent⟩
      | rejected state => rw [state] at unsent; cases unsent
      | resting r rests => exact absurd unsent rests.state_ne_unsent
    obtain ⟨m, builds, reads⟩ := p.order.newRequest_eq owner.version sendable.priced
    have typed : m.msgType = .newOrderSingle := MessageView.msgType_of_ofMessage reads
    have issues : p.order.issueNew = .ok (p.order.record .issueNew .pendingNew) :=
      act_eq (by rw [unsent]; rfl)
    have requested : Requested (p.order.record .issueNew .pendingNew) ⟨m, p.order.clOrdId,
        p.order.symbol, p.order.side, p.order.ordType, p.order.orderQty.plain,
        p.order.price.map Decimal.plain⟩ :=
      ⟨rfl, rfl, plain_of_pos sendable.positive, rfl, sendable.cumQty, sendable.avgPx,
        sendable.positive⟩
    exact .of_answer sound rfl builds issues (.inl typed)
      (by simp [requestFault?, typed, reads, fault?]) (requested.linked sound absent reads)
  · have refused : p.order.state.next .issueNew = none := by
      cases state : p.order.state <;> first | rfl | exact absurd state unsent
    exact .of_idle sound linked rfl (act_refused refused) fun still => absurd still unsent

theorem Linked.cancel (sound : p.exchange.Sound) (linked : Linked owner p.order p.exchange.book) :
    Linked.After owner p .cancel := by
  let issue (o : Order) := o.issueCancel p.order.cancelId
  have stepped : p.step owner .cancel =
      p.request owner (p.order.cancelRequest owner.version) issue := rfl
  by_cases working : p.order.state = .new
  · obtain ⟨r, rests, opened⟩ := linked.of_new working
    obtain ⟨m, builds, reads⟩ := p.order.cancelRequest_eq owner.version
    have typed : m.msgType = .orderCancelRequest := MessageView.msgType_of_ofMessage reads
    obtain ⟨issued, issues, answered⟩ := rests.canceled opened reads
    exact .of_answer sound stepped builds issues (.inr (.inl typed))
      (by simp [requestFault?, typed, reads, fault?]) answered
  · have stops : issue p.order =
        .error (.transition OrderAction.issueCancel.text p.order.state.text) := by
      show p.order.issueCancel p.order.cancelId = _
      rw [Order.issueCancel, act_refused (next_eq_none_of_ne_new working (.inl rfl))]
      rfl
    exact .of_idle sound linked stepped stops fun _ => by simp

theorem Linked.replace (sound : p.exchange.Sound) (linked : Linked owner p.order p.exchange.book)
    (qty : Decimal) (price : Option Decimal) : Linked.After owner p (.replace qty price) := by
  let issue (o : Order) := o.issueReplace ⟨p.order.replaceId, qty, price⟩
  have stepped : p.step owner (.replace qty price) =
      p.request owner (p.order.replaceRequest owner.version qty price) issue := rfl
  by_cases working : p.order.state = .new
  · obtain ⟨r, rests, opened⟩ := linked.of_new working
    obtain ⟨m, builds, reads⟩ := p.order.replaceRequest_eq owner.version qty price
    have typed : m.msgType = .orderCancelReplaceRequest := MessageView.msgType_of_ofMessage reads
    obtain ⟨issued, issues, answered⟩ := rests.replaced opened reads rfl rfl
    exact .of_answer sound stepped builds issues (.inr (.inr typed))
      (by simp [requestFault?, typed, reads, fault?]) answered
  · have stops : issue p.order =
        .error (.transition OrderAction.issueReplace.text p.order.state.text) := by
      show p.order.issueReplace ⟨p.order.replaceId, qty, price⟩ = _
      rw [Order.issueReplace, act_refused (next_eq_none_of_ne_new working (.inr rfl))]
      rfl
    exact .of_idle sound linked stepped stops fun _ => by simp

theorem Pair.step_fill_own {orderId : String} {qty px : Decimal} {report : Message}
    {receiver : Owner} {exchange : State} {order : Order}
    (executes : executeFill p.exchange orderId qty px = .ok (.ok (report, receiver), exchange))
    (own : receiver.id = owner.id) (applies : p.order.applyReport report = .ok order) :
    p.step owner (.fill orderId qty px) = .ok ⟨order, exchange⟩ := by
  simp only [step, executes, if_pos own, applies]

/-- An execution that is not refused is counted exactly. -/
theorem exact_of_countsExactly {orderId : String} {qty px : Decimal} {e : Entry}
    (exactly : p.countsExactly (.fill orderId qty px) = true)
    (taken : ∀ fault after, executeFill p.exchange orderId qty px ≠ .ok (.error fault, after))
    (found : p.exchange.book.find? orderId = some e) : e.order.countsExactly qty = true := by
  rw [Pair.countsExactly] at exactly
  split at exactly
  · rename_i refused
    exact absurd refused (taken _ _)
  · rwa [State.order?, found, Option.map_some, Option.all_some] at exactly

/-- An execution of the connection's order is one of the owner's. -/
theorem Rests.executed (rests : Rests owner o r b) (opened : r.isOpen = true)
    {leaves left qty px : Decimal} {filled : RestingOrder} {version execId : String}
    (known : r.leavesQty = .ok leaves) (positive : .zero < qty) (within : qty ≤ leaves)
    (executes : r.execute qty px = .ok filled) (exactly : r.countsExactly qty = true) :
    ∃ o', o.applyReport (Notice.mk version filled left execId (.executed qty px)).message = .ok o' ∧
      Rests owner o' filled (b.update filled) := by
  obtain ⟨cumQty, avgPx, sums, -, rfl⟩ := (execute_eq_ok_iff ..).mp executes
  obtain ⟨o', applies, mirrors⟩ := rests.mirrors.execute opened known positive within executes
    (RestingOrder.value_leavesQty_of_exactly exactly opened known)
    (RestingOrder.value_filled_of_exactly exactly sums)
  refine ⟨o', applies, rests.update rfl mirrors ?_ rfl⟩
  rw [Book.resolve?_update, mirrors.clOrdId]
  exact rests.mirrors.clOrdId ▸ rests.index

theorem Linked.fill (sound : p.exchange.Sound) (linked : Linked owner p.order p.exchange.book)
    {orderId : String} {qty px : Decimal}
    (exactly : p.countsExactly (.fill orderId qty px) = true) :
    Linked.After owner p (.fill orderId qty px) := by
  cases outcome : executeFill p.exchange orderId qty px with
  | error fault =>
    refine .inl ⟨fault, ?_, by simp only [Pair.step, outcome]⟩
    -- What is added to is not negative, so an exact total is not zero and can be divided by.
    refine executeFill_fault outcome fun e filled found opened positive sums => ?_
    have exact := exact_of_countsExactly exactly (by simp [outcome]) found
    have total := RestingOrder.value_filled_of_exactly exact sums
    have nonneg := sound.funded e (Book.mem_of_find? found).1 opened
    rw [Decimal.lt_iff, Decimal.value_zero] at positive
    exact Decimal.isZero_of_pos (by rw [total]; linarith)
  | ok result =>
    obtain ⟨result, after⟩ := result
    obtain ⟨⟨fault, rfl, -⟩, rfl⟩ | ⟨report, receiver, rfl, fills⟩ := executeFill_cases outcome
    · exact .inr ⟨p, by simp only [Pair.step, outcome], sound, linked, fun still => ⟨still, by simp⟩⟩
    · have sound' := sound.filled fills
      by_cases own : receiver.id = owner.id
      · cases fills with
        | executed found opened known positive within executes =>
          -- The report goes to the owner of the order that was found, so it is this order.
          obtain ⟨member, -⟩ := Book.mem_of_find? found
          obtain ⟨r, rests, rfl⟩ := linked.of_mem member own
          obtain ⟨o', applies, rests'⟩ := rests.executed opened known positive within executes
            (exact_of_countsExactly exactly (by simp [outcome]) found)
          exact .inr ⟨⟨o', _⟩, Pair.step_fill_own outcome own applies, sound', .resting _ rests',
            fun unsent => absurd unsent rests'.state_ne_unsent⟩
      · refine .inr ⟨{ p with exchange := after }, ?_, sound',
          linked.transfer (fills.sameFor sound own), fun still => ⟨still, by simp⟩⟩
        simp only [Pair.step, outcome, if_neg own]

/-- What happens elsewhere leaves the connection's part of the book as it is. -/
theorem Event.IsElsewhere.sameFor {x : State} {ownerId : Nat} {event : Event} (sound : x.Sound)
    (elsewhere : event.IsElsewhere ownerId) : x.book.SameFor ownerId (x.step event).book := by
  generalize after : x.step event = y
  have moves := after ▸ moves_step sound.funded event
  cases moves with
  | idle => exact .refl ..
  | handled handles => exact handles.sameFor sound elsewhere
  | filled => cases elsewhere
  | removed => exact .removeOwner elsewhere

theorem Linked.step (sound : p.exchange.Sound) (linked : Linked owner p.order p.exchange.book)
    {action : Action} (alone : ∀ event, action = .other event → event.IsElsewhere owner.id)
    (exactly : p.countsExactly action = true) : Linked.After owner p action := by
  cases action with
  | submit => exact linked.submit sound
  | cancel => exact linked.cancel sound
  | replace qty price => exact linked.replace sound qty price
  | fill orderId qty px => exact linked.fill sound exactly
  | other event =>
    exact .inr ⟨_, rfl, sound.step event, linked.transfer ((alone event rfl).sameFor sound),
      fun still => ⟨still, by simp⟩⟩

/-- The link is kept by every step, so it holds after a run. -/
theorem Linked.run {actions : List Action} (sound : p.exchange.Sound)
    (linked : Linked owner p.order p.exchange.book)
    (alone : ∀ event, .other event ∈ actions → event.IsElsewhere owner.id)
    (exactly : p.runsExactly owner actions = true) :
    (∃ fault, fault.IsOverflow ∧ p.run owner actions = .error (.arithmetic fault)) ∨
      ∃ q, p.run owner actions = .ok q ∧ Linked owner q.order q.exchange.book ∧
        q.exchange.book.Distinct ∧
        (q.order.state = .unsent → p.order.state = .unsent ∧ .submit ∉ actions) := by
  induction actions generalizing p with
  | nil => exact .inr ⟨p, rfl, linked, sound.distinct, fun still => ⟨still, by simp⟩⟩
  | cons action rest ih =>
    rw [Pair.runsExactly, Bool.and_eq_true] at exactly
    obtain ⟨counts, exactly⟩ := exactly
    have here : ∀ event, action = .other event → event.IsElsewhere owner.id :=
      fun event same => alone event (same ▸ List.mem_cons_self)
    rw [Pair.run]
    obtain ⟨fault, overflows, stops⟩ | ⟨q, steps, sound', linked', before⟩ :=
      linked.step sound here counts
    · exact .inl ⟨fault, overflows, by rw [stops]⟩
    · simp only [steps] at exactly ⊢
      have later : ∀ event, .other event ∈ rest → event.IsElsewhere owner.id :=
        fun event member => alone event (List.mem_cons_of_mem _ member)
      refine (ih sound' linked' later exactly).imp id ?_
      rintro ⟨q', runs, linked'', distinct, since⟩
      -- No step leads back to an unsent order, so the end of the run tells about all of it.
      refine ⟨q', runs, linked'', distinct, fun unsent => ?_⟩
      obtain ⟨still, never⟩ := since unsent
      obtain ⟨start, other⟩ := before still
      refine ⟨start, fun member => ?_⟩
      obtain rfl | member := List.mem_cons.mp member
      · exact other rfl
      · exact never member

/-! ### The whole run -/

theorem Mirrors.exists_leavesQty (mirrors : Mirrors o r) :
    ∃ leaves, o.leavesQty = .ok leaves ∧ r.leavesQty = .ok leaves := by
  cases opened : r.isOpen with
  | true =>
    obtain ⟨nonneg, below⟩ := mirrors.within opened
    obtain ⟨leaves, known⟩ := Decimal.exists_sub nonneg below.le
    refine ⟨leaves, ?_, by rw [RestingOrder.leavesQty, if_pos opened, known]⟩
    rw [Order.leavesQty, mirrors.new_of_open opened, mirrors.orderQty, mirrors.cumQty, known]
    rfl
  | false =>
    have finished (status : OrdStatus) (state : OrderState) (ended : status.isTerminal = true)
        (same : stateOf status = some state) : state.isTerminal = true := by
      cases status <;> cases same <;> first | rfl | cases ended
    have terminal := opened
    rw [RestingOrder.isOpen, Bool.not_eq_false'] at terminal
    refine ⟨.zero, ?_, ?_⟩
    · rw [Order.leavesQty, if_pos (finished _ _ terminal mirrors.state)]
    · rw [RestingOrder.leavesQty, opened]
      rfl

theorem Mirrors.sameOrder (mirrors : Mirrors o r) : SameOrder o r := by
  have settled (status : OrdStatus) (state : OrderState) (same : stateOf status = some state) :
      (state = .new ↔ status = .new ∨ status = .partiallyFilled) ∧
        (state = .filled ↔ status = .filled) ∧ (state = .canceled ↔ status = .canceled) ∧
        (state = .new ∨ state = .filled ∨ state = .canceled) := by
    cases status <;> cases same <;> simp
  obtain ⟨new, filled, canceled, settled⟩ := settled _ _ mirrors.state
  exact ⟨mirrors.orderId, mirrors.clOrdId, mirrors.orderQty, mirrors.price, mirrors.cumQty,
    mirrors.avgPx, mirrors.exists_leavesQty, new, filled, canceled, settled⟩

theorem Sendable.initial (settings : Settings) (clOrdId symbol : String) (side : Side)
    {qty : Decimal} (price : Option Decimal) (positive : .zero < qty) :
    Sendable (Pair.initial settings clOrdId symbol side qty price).order := by
  have above : 0 < qty.value := by rwa [Decimal.lt_iff, Decimal.value_zero] at positive
  cases price with
  | none => exact ⟨rfl, rfl, rfl, above, fun limit => by cases limit⟩
  | some px => exact ⟨rfl, rfl, rfl, above, fun _ => rfl⟩

/-- An order with a positive quantity is alone on its connection. It goes through any requests of its
owner and any executions, with every report applied, in sums that are not rounded. Then every report
fits, and after every run in which the order has been submitted either it has been rejected and the
exchange does not have it, or the exchange has the same order, and has no other of that
connection. -/
theorem lockstep (settings : Settings) (owner : Owner) (clOrdId symbol : String) (side : Side)
    (qty : Decimal) (price : Option Decimal) (actions : List Action) (positive : .zero < qty)
    (alone : ∀ event, .other event ∈ actions → event.IsElsewhere owner.id)
    (exactly : (Pair.initial settings clOrdId symbol side qty price).runsExactly owner actions) :
    (∃ fault, fault.IsOverflow ∧
      (Pair.initial settings clOrdId symbol side qty price).run owner actions =
        .error (.arithmetic fault)) ∨
    ∃ p, (Pair.initial settings clOrdId symbol side qty price).run owner actions = .ok p ∧
      ((p.order.state = .unsent ∧ .submit ∉ actions ∧ Absent owner p.exchange.book) ∨
        (p.order.state = .rejected ∧ Absent owner p.exchange.book) ∨
        ∃ r, (∀ e ∈ p.exchange.book.entries, e.owner.id = owner.id → e = ⟨r, owner⟩) ∧
          p.exchange.book.locate? owner.id none p.order.clOrdId = some r ∧
          SameOrder p.order r) := by
  have sound : (State.start settings).Sound := State.Sound.reached settings []
  have linked : Linked owner (Pair.initial settings clOrdId symbol side qty price).order
      (State.start settings).book :=
    .unsent (.initial settings clOrdId symbol side price positive)
      fun _ none => (List.not_mem_nil none).elim
  refine (linked.run sound alone exactly).imp id ?_
  rintro ⟨q, runs, linked', distinct, since⟩
  refine ⟨q, runs, ?_⟩
  cases linked' with
  | unsent sendable absent => exact .inl ⟨sendable.state, (since sendable.state).2, absent⟩
  | rejected state absent => exact .inr (.inl ⟨state, absent⟩)
  | resting r rests =>
    refine .inr (.inr ⟨r, fun e member own => (rests.orders e own).mp member, ?_,
      rests.mirrors.sameOrder⟩)
    exact Book.locate?_of_resolve? distinct rests.mem rests.index

/-- An order is sent, trades in part, is replaced and canceled. -/
def tradedInPart : List Action :=
  let amount (text : String) := (Decimal.ofText? text).getD .zero
  [.submit, .fill "ORD00000001" (amount "40") (amount "10"), .replace (amount "80") none, .cancel]

theorem lockstep_tradedInPart :
    ∃ p r, (Pair.initial .default "A1" "ACME" .buy ((Decimal.ofText? "100").getD .zero)
        (Decimal.ofText? "10.5")).run ⟨1, "FIX.4.4"⟩ tradedInPart = .ok p ∧
      p.exchange.book.locate? 1 none p.order.clOrdId = some r ∧ SameOrder p.order r ∧
      r.status = .canceled := by
  have ends : ((Pair.initial .default "A1" "ACME" .buy ((Decimal.ofText? "100").getD .zero)
      (Decimal.ofText? "10.5")).run ⟨1, "FIX.4.4"⟩ tradedInPart).toOption.map (·.order.state) =
        some .canceled := by decide +kernel
  obtain ⟨fault, -, stops⟩ | ⟨p, runs, unsent | rejected | ⟨r, -, found, same⟩⟩ :=
    lockstep .default ⟨1, "FIX.4.4"⟩ "A1" "ACME" .buy ((Decimal.ofText? "100").getD .zero)
      (Decimal.ofText? "10.5") tradedInPart (by decide +kernel) (by simp [tradedInPart])
      (by decide +kernel)
  · rw [stops] at ends
    cases ends
  · exact absurd List.mem_cons_self unsent.2.1
  · rw [runs] at ends
    exact absurd (rejected.1.symm.trans (Option.some.inj ends)) (by decide)
  · rw [runs] at ends
    exact ⟨p, r, runs, found, same, same.canceled.mp (Option.some.inj ends)⟩

end FixBench.Exchange
