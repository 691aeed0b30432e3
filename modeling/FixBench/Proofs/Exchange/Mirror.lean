import FixBench.Order.Tracking
import FixBench.Proofs.Exchange.Handling

/-!
# An order and its image at the exchange

An order is kept twice: by its owner, who learns of it from reports, and by the exchange. The two
are images of each other (`Mirrors`) when they agree on identifiers, quantities and prices, and the
owner's state is the exchange's status seen from outside. Decimals agree but for the sign of a zero,
which the text in a report does not keep.

Each report of the exchange takes the owner's order to the image of the order it is on. For
executions this needs exact sums: the owner calls an execution full if it is all that was left, the
exchange if the total has reached the order's quantity, and the two are the same only if neither
subtraction nor addition has been rounded.
-/
namespace FixBench.Exchange

/-- The owner's state of an order that rests on the book. -/
def stateOf : OrdStatus → Option OrderState
  | .new | .partiallyFilled => some .new
  | .filled => some .filled
  | .canceled => some .canceled
  | _ => none

structure Mirrors (o : Order) (r : RestingOrder) : Prop where
  orderId : o.orderId = some r.orderId
  clOrdId : o.clOrdId = r.clOrdId
  orderQty : o.orderQty = r.orderQty
  price : o.price.map Decimal.plain = r.price.map Decimal.plain
  cumQty : o.cumQty = r.cumQty
  avgPx : o.avgPx.plain = r.avgPx.plain
  state : stateOf r.status = some o.state
  within : r.isOpen = true → 0 ≤ r.cumQty.value ∧ r.cumQty.value < r.orderQty.value

/-- A new order is under way, and the exchange reads this request for it. -/
structure Requested (o : Order) (request : NewOrderSingle) : Prop where
  state : o.state = .pendingNew
  clOrdId : request.clOrdId = o.clOrdId
  orderQty : request.orderQty = o.orderQty
  price : request.price = o.price.map Decimal.plain
  cumQty : o.cumQty = .zero
  avgPx : o.avgPx = .zero
  positive : 0 < o.orderQty.value

/-! ### Reports as operations of the owner -/

theorem applyReport_notice (o : Order) (n : Notice) :
    o.applyReport n.message = o.applyExecution n.view := by
  have typed : n.message.msgType = .executionReport := Message.msgType_of_get n.get_msgType
  simp only [Order.applyReport, typed, n.ofMessage_message]

theorem applyReport_refused (o : Order) (n : Refused) : o.applyReport n.message = o.ackReject := by
  have typed : n.message.msgType = .orderCancelReject := Message.msgType_of_get n.get_msgType
  simp only [Order.applyReport, typed]

theorem act_eq {o : Order} {action : OrderAction} {next : OrderState}
    (allowed : o.state.next action = some next) : o.act action = .ok (o.record action next) := by
  simp only [Order.act, OrderState.after, allowed]
  rfl

/-! ### New orders -/

variable {o : Order} {r : RestingOrder} {version execId : String} {leaves : Decimal}

theorem Requested.acknowledged {request : NewOrderSingle} (requested : Requested o request)
    (orderId : String) :
    ∃ o', o.applyReport
        (Notice.mk version (.ofRequest request orderId) leaves execId .acknowledged).message = .ok o' ∧
      Mirrors o' (.ofRequest request orderId) := by
  have allowed : o.state.next .ackNew = some .new := by rw [requested.state]; rfl
  refine ⟨{ o.record .ackNew .new with orderId := some orderId }, ?_, ?_⟩
  · rw [applyReport_notice]
    show Order.ackNew o (some orderId) = _
    rw [Order.ackNew, act_eq allowed]
    rfl
  · refine ⟨rfl, requested.clOrdId.symm, requested.orderQty.symm, ?_, requested.cumQty, ?_, rfl, ?_⟩
    · show o.price.map _ = request.price.map _
      rw [requested.price, Option.map_map]
      cases o.price <;> simp
    · exact congrArg Decimal.plain requested.avgPx
    · intro _
      show 0 ≤ Decimal.zero.value ∧ Decimal.zero.value < request.orderQty.value
      rw [Decimal.value_zero, requested.orderQty]
      exact ⟨le_rfl, requested.positive⟩

theorem Requested.rejected {request : NewOrderSingle} (requested : Requested o request)
    (order : RestingOrder) (text : String) :
    ∃ o', o.applyReport (Notice.mk version order leaves execId (.rejected text)).message = .ok o' ∧
      o'.state = .rejected := by
  have allowed : o.state.next .ackReject = some .rejected := by rw [requested.state]; rfl
  refine ⟨{ o.record .ackReject .rejected with cancelClOrdId := none, pendingAmendment := none },
    ?_, rfl⟩
  rw [applyReport_notice]
  show Order.ackReject o = _
  rw [Order.ackReject, act_eq allowed]
  rfl

/-! ### Cancellation and replacement -/

namespace Mirrors

/-- An open order is working in its owner's eyes. -/
theorem new_of_open (mirrors : Mirrors o r) (opened : r.isOpen = true) : o.state = .new := by
  have working (status : OrdStatus) (state : OrderState) (resting : status.isTerminal = false)
      (same : stateOf status = some state) : state = .new := by
    cases status <;> simp_all [stateOf, OrdStatus.isTerminal]
  rw [RestingOrder.isOpen, Bool.not_eq_true'] at opened
  exact working r.status o.state opened mirrors.state

/-- A working order is open. -/
theorem open_of_new (mirrors : Mirrors o r) (new : o.state = .new) : r.isOpen = true := by
  have resting (status : OrdStatus) (same : stateOf status = some .new) :
      status.isTerminal = false := by
    cases status <;> simp_all [stateOf, OrdStatus.isTerminal]
  rw [RestingOrder.isOpen, Bool.not_eq_true']
  exact resting r.status (new ▸ mirrors.state)

/-- A refused request leaves the order as it was before. -/
theorem refused (mirrors : Mirrors o r) (working : o.state = .new) (action : OrderAction)
    {pending : OrderState} (waits : pending.next .ackReject = some .new) (cancelId : Option String)
    (amendment : Option Amendment) (n : Refused) :
    ∃ o', Order.applyReport { o.record action pending with
        cancelClOrdId := cancelId, pendingAmendment := amendment } n.message = .ok o' ∧
      Mirrors o' r := by
  let issued : Order :=
    { o.record action pending with cancelClOrdId := cancelId, pendingAmendment := amendment }
  have allowed : issued.state.next .ackReject = some .new := waits
  refine ⟨{ issued.record .ackReject .new with cancelClOrdId := none, pendingAmendment := none },
    ?_, ?_⟩
  · rw [applyReport_refused, Order.ackReject, act_eq allowed]
    rfl
  · exact ⟨mirrors.orderId, mirrors.clOrdId, mirrors.orderQty, mirrors.price, mirrors.cumQty,
      mirrors.avgPx, working ▸ mirrors.state, mirrors.within⟩

theorem cancel (mirrors : Mirrors o r) (opened : r.isOpen = true) (id : String) :
    ∃ issued, o.issueCancel id = .ok issued ∧
      (∀ (version execId : String) (leaves : Decimal), ∃ o',
        issued.applyReport (Notice.mk version r.canceled leaves execId (.canceled id)).message =
          .ok o' ∧ Mirrors o' r.canceled) ∧
      ∀ n : Refused, ∃ o', issued.applyReport n.message = .ok o' ∧ Mirrors o' r := by
  have working := mirrors.new_of_open opened
  let issued : Order := { o.record .issueCancel .pendingCancel with cancelClOrdId := some id }
  refine ⟨issued, ?_, fun version execId leaves => ?_, fun n => ?_⟩
  · have allowed : o.state.next .issueCancel = some .pendingCancel := by rw [working]; rfl
    rw [Order.issueCancel, act_eq allowed]
    rfl
  · have allowed : issued.state.next .ackCanceled = some .canceled := rfl
    refine ⟨issued.record .ackCanceled .canceled, ?_, ?_⟩
    · rw [applyReport_notice]
      exact act_eq allowed
    · exact ⟨mirrors.orderId, mirrors.clOrdId, mirrors.orderQty, mirrors.price, mirrors.cumQty,
        mirrors.avgPx, rfl, fun opened => by cases opened⟩
  · exact mirrors.refused working .issueCancel rfl (some id) o.pendingAmendment n

/-- New terms are taken from the amendment and then from the report; the report repeats them as they
went through the text of the request. -/
theorem replace (mirrors : Mirrors o r) (opened : r.isOpen = true) (id : String) (qty : Decimal)
    (price : Option Decimal) :
    ∃ issued, o.issueReplace ⟨id, qty, price⟩ = .ok issued ∧
      (∀ (version execId : String) (leaves : Decimal) (request : OrderCancelReplaceRequest),
        request.clOrdId = id → request.orderQty = qty.plain →
        request.price = (price.or o.price).map Decimal.plain → r.cumQty < request.orderQty →
        ∃ o', issued.applyReport (Notice.mk version (r.replaced request) leaves execId
            (.replaced r.clOrdId)).message = .ok o' ∧
          Mirrors o' (r.replaced request) ∧ o'.clOrdId = id) ∧
      ∀ n : Refused, ∃ o', issued.applyReport n.message = .ok o' ∧ Mirrors o' r := by
  have working := mirrors.new_of_open opened
  let issued : Order :=
    { o.record .issueReplace .pendingReplace with pendingAmendment := some ⟨id, qty, price⟩ }
  refine ⟨issued, ?_, fun version execId leaves request named quantity priced above => ?_,
    fun n => ?_⟩
  -- The request may be issued.
  · have allowed : o.state.next .issueReplace = some .pendingReplace := by rw [working]; rfl
    rw [Order.issueReplace, act_eq allowed]
    rfl
  -- The exchange has taken the new terms.
  · let n : Notice := ⟨version, r.replaced request, leaves, execId, .replaced r.clOrdId⟩
    have allowed : issued.state.next .ackReplaced = some .new := rfl
    refine ⟨(issued.record .ackReplaced .new).amend.adopt n.view, ?_, ?_, rfl⟩
    · rw [applyReport_notice]
      show (do let o ← issued.ackReplaced; return o.adopt n.view) = _
      rw [Order.ackReplaced, act_eq allowed]
      rfl
    · have adopted : ((issued.record .ackReplaced .new).amend.adopt n.view).price =
          (request.price.or r.price |>.map Decimal.plain).or (price.or o.price) := by
        show n.view.price.or _ = _
        rw [price_view]
        rfl
      refine ⟨mirrors.orderId, named.symm, ?_, ?_, mirrors.cumQty, mirrors.avgPx,
        working ▸ mirrors.state, fun _ => ?_⟩
      · show n.view.orderQty.getD qty = request.orderQty
        rw [orderQty_view]
        show request.orderQty.plain = _
        rw [quantity, Decimal.plain_plain]
      · rw [adopted]
        show _ = (request.price.or r.price).map Decimal.plain
        rw [priced]
        have same := mirrors.price
        cases new : price.or o.price with
        | some px => simp
        | none =>
          -- Neither the amendment nor the order has a price, so the book shows none either.
          rw [Option.or_eq_none_iff] at new
          rw [new.2] at same
          cases former : r.price with
          | none => rfl
          | some px => rw [former] at same; cases same
      · obtain ⟨nonneg, -⟩ := mirrors.within opened
        exact ⟨nonneg, (Decimal.lt_iff ..).mp above⟩
  -- The exchange has refused, and the pending amendment is dropped.
  · exact mirrors.refused working .issueReplace rfl o.cancelClOrdId (some ⟨id, qty, price⟩) n

end Mirrors

/-! ### Executions -/

theorem plain_of_pos {a : Decimal} (positive : 0 < a.value) : a.plain = a :=
  Decimal.plain_of_not_isZero (Decimal.isZero_of_pos positive)

/-- Averages come out the same whatever sign zeros had. -/
theorem averagePrice_plain {avgPx avgPx' cumQty px qty filled average : Decimal}
    (same : avgPx'.plain = avgPx.plain)
    (averages : averagePrice avgPx cumQty px qty filled = .ok average) :
    ∃ average', averagePrice avgPx' cumQty px.plain qty filled = .ok average' ∧
      average'.plain = average.plain := by
  unfold averagePrice Averaging.weighed at averages ⊢
  split
  · rename_i first
    rw [if_pos first] at averages
    cases averages
    exact ⟨px.plain, rfl, px.plain_plain⟩
  · rename_i later
    rw [if_neg later] at averages
    rw [← Decimal.mul_plain_left avgPx', same, Decimal.mul_plain_left, Decimal.mul_plain_left]
    exact ⟨average, averages, rfl⟩

/-- A report on an execution has its quantity and price applied. -/
theorem applyReport_executed (o : Order) (version : String) (order : RestingOrder)
    (leaves : Decimal) (execId : String) (qty px : Decimal) :
    o.applyReport (Notice.mk version order leaves execId (.executed qty px)).message =
      o.fill qty.plain px.plain := by
  let n : Notice := ⟨version, order, leaves, execId, .executed qty px⟩
  have kind : n.view.execType = if order.isOpen then .partialFill else .fill := rfl
  rw [applyReport_notice]
  cases opened : order.isOpen <;> rw [opened] at kind <;>
    simp only [n, Bool.false_eq_true, ↓reduceIte] at kind <;>
    simp only [Order.applyExecution, kind, lastQty_view, lastPx_view, Option.getD_some]

/-- An execution within what is left of a working order. -/
theorem fill_eq {o : Order} {leaves qty px filled average : Decimal} (working : o.state = .new)
    (known : o.leavesQty = .ok leaves) (positive : .zero < qty) (enough : qty ≤ leaves)
    (sums : o.cumQty.add qty = .ok filled)
    (averages : averagePrice o.avgPx o.cumQty px qty filled = .ok average) :
    o.fill qty px = .ok ({ o with avgPx := average, cumQty := filled }.record
      (Order.fillAction qty leaves) (if leaves ≤ qty then .filled else .new)) := by
  have next : o.state.after (Order.fillAction qty leaves) =
      .ok (if leaves ≤ qty then .filled else .new) := by
    rw [working, Order.fillAction]
    split <;> rfl
  have usable : ¬ (qty ≤ .zero ∨ leaves < qty) := by
    rw [Decimal.le_iff, Decimal.lt_iff, not_or, not_le, not_lt, ← Decimal.lt_iff, ← Decimal.le_iff]
    exact ⟨positive, enough⟩
  simp only [Order.fill, known, next, bind, Except.bind, if_neg usable, sums, averages,
    OrderFault.ofArithmetic]
  rfl

namespace Mirrors

/-- An execution of the order at the exchange is one of the owner's order, and a full one for the one
is a full one for the other. -/
theorem execute (mirrors : Mirrors o r) (opened : r.isOpen = true) {after : RestingOrder}
    {left qty px : Decimal} (known : r.leavesQty = .ok leaves) (positive : .zero < qty)
    (enough : qty ≤ leaves) (executes : r.execute qty px = .ok after)
    (exactLeft : leaves.value = r.orderQty.value - r.cumQty.value)
    (exactTotal : after.cumQty.value = r.cumQty.value + qty.value) :
    ∃ o', o.applyReport (Notice.mk version after left execId (.executed qty px)).message = .ok o' ∧
      Mirrors o' after := by
  have working := mirrors.new_of_open opened
  obtain ⟨nonneg, -⟩ := mirrors.within opened
  obtain ⟨filled, average, sums, averages, rfl⟩ := (execute_eq_ok_iff ..).mp executes
  obtain ⟨average', averages', alike⟩ := averagePrice_plain mirrors.avgPx averages
  have above : 0 < qty.value := by rwa [Decimal.lt_iff, Decimal.value_zero] at positive
  have left : o.leavesQty = .ok leaves := by
    rw [RestingOrder.leavesQty, if_pos opened, ← mirrors.orderQty, ← mirrors.cumQty] at known
    rw [Order.leavesQty, working, known]
    rfl
  rw [← mirrors.cumQty] at sums averages'
  -- The owner compares with what was left before, the exchange with what has been executed after.
  have full : leaves ≤ qty ↔ r.orderQty ≤ filled := by
    rw [Decimal.le_iff, Decimal.le_iff, exactLeft, exactTotal]
    constructor <;> intro _ <;> linarith
  have fills := fill_eq working left positive enough sums averages'
  refine ⟨_, (applyReport_executed ..).trans (Eq.trans (by rw [plain_of_pos above]) fills),
    mirrors.orderId, mirrors.clOrdId, mirrors.orderQty, mirrors.price, rfl, alike, ?_, ?_⟩
  · show stateOf (if r.orderQty ≤ filled then _ else _) = some (if leaves ≤ qty then _ else _)
    by_cases done : r.orderQty ≤ filled
    · rw [if_pos done, if_pos (full.mpr done)]
      rfl
    · rw [if_neg done, if_neg (done ∘ full.mp)]
      rfl
  · intro opened
    have partly : ¬ r.orderQty ≤ filled := by
      intro done
      simp [RestingOrder.isOpen, done, OrdStatus.isTerminal] at opened
    rw [Decimal.le_iff, not_le] at partly
    exact ⟨by rw [exactTotal]; linarith, partly⟩

end Mirrors

end FixBench.Exchange
