import FixBench.Proofs.Exchange.Run
import FixBench.Proofs.Order.Executed

/-!
# Averaging is safe

An average price is a quotient, and nothing on the way to it looks at the divisor. It never has to:
whatever clients ask for, an order is averaged only when it has executed something already and
executes something now. What leads to an average leaves open how an execution is weighed in, and so
this can be said of any weighing, of which nothing is known:

* no message to an exchange depends on it (`onMessage_weigh`), so none gets as far as a product or a
  quotient, not even the execution of an order at once, whose quantity nobody has checked;
* executions, on the exchange's or on the owner's side, depend on it only where it is asked about a
  positive executed quantity, a positive quantity to add, and a positive divisor (`averaging_safe`).

The invariants are those of the runs: no open order of an exchange has executed less than nothing, and
no order of a tracker has.
-/
namespace FixBench

/-! ### Sound averaging -/

/-- Something has been executed before, something is now, and both together are not nothing. -/
structure Averaging.Sound (a : Averaging) : Prop where
  before : .zero < a.cumQty
  now : .zero < a.qty
  divisor : .zero < a.filled

/-- A sound averaging never divides by zero. -/
theorem Averaging.Sound.weighed_fault {a : Averaging} (sound : a.Sound)
    {fault : Decimal.ArithmeticError} (fails : a.weighed = .error fault) : fault.IsOverflow := by
  apply Exchange.weighed_fault fails
  apply Decimal.isZero_of_pos
  rw [← Decimal.value_zero, ← Decimal.lt_iff]
  exact sound.divisor

/-- Whatever is sound is weighed in as it always is. -/
def Weighing.Agrees (weigh : Weighing) : Prop := ∀ a : Averaging, a.Sound → weigh a = a.weighed

variable {weigh : Weighing}

/-- Once nothing negative has been executed before, only what is sound is weighed. -/
theorem averagePrice_agrees (agrees : weigh.Agrees) {cumQty qty filled : Decimal}
    (nonneg : 0 ≤ cumQty.value) (positive : .zero < qty) (sums : cumQty.add qty = .ok filled)
    (avgPx px : Decimal) :
    averagePrice avgPx cumQty px qty filled weigh = averagePrice avgPx cumQty px qty filled := by
  rw [averagePrice, averagePrice]
  cases first : cumQty.isZero with
  | true => rfl
  | false =>
    have above : 0 < cumQty.value := by
      refine lt_of_le_of_ne nonneg fun null => ?_
      rw [Decimal.isZero_of_value null.symm] at first
      cases first
    have added : 0 < qty.value := by rwa [Decimal.lt_iff, Decimal.value_zero] at positive
    apply agrees
    constructor
    · rwa [Decimal.lt_iff, Decimal.value_zero]
    · exact positive
    · rw [Decimal.lt_iff, Decimal.value_zero]
      exact Decimal.value_add_pos above added sums

/-! ### The owner's side -/

/-- The quantity of an execution is checked before it is averaged. -/
theorem Order.fill_agrees (agrees : weigh.Agrees) {o : Order} (nonneg : 0 ≤ o.cumQty.value)
    (qty px : Decimal) : o.fill qty px weigh = o.fill qty px := by
  unfold fill
  congr 1
  funext leaves
  congr 1
  funext next
  by_cases refused : qty ≤ .zero ∨ leaves < qty
  · simp only [if_pos refused]
    rfl
  · simp only [if_neg refused]
    rw [not_or] at refused
    cases sums : o.cumQty.add qty with
    | error fault => rfl
    | ok filled =>
      simp only [OrderFault.ofArithmetic, bind, Except.bind]
      rw [averagePrice_agrees agrees nonneg (Decimal.lt_of_not_le refused.1) sums]

theorem Tracker.run_fill_agrees (agrees : weigh.Agrees) {o : Order} (nonneg : 0 ≤ o.cumQty.value)
    (qty px : Decimal) : (fill qty px weigh).run o = (fill qty px).run o := by
  rw [run_fill, run_fill, Order.fill_agrees agrees nonneg]

namespace Exchange

/-! ### The exchange's side -/

theorem RestingOrder.execute_agrees (agrees : weigh.Agrees) {o : RestingOrder}
    (nonneg : 0 ≤ o.cumQty.value) {qty : Decimal} (positive : .zero < qty) (px : Decimal) :
    o.execute qty px weigh = o.execute qty px := by
  unfold execute
  cases sums : o.cumQty.add qty with
  | error fault => rfl
  | ok filled =>
    simp only [bind, Except.bind]
    rw [averagePrice_agrees agrees nonneg positive sums]

theorem executeFill_agrees (agrees : weigh.Agrees) {x : State} (funded : x.book.Funded)
    (orderId : String) (qty px : Decimal) :
    executeFill x orderId qty px weigh = executeFill x orderId qty px := by
  unfold executeFill
  cases found : x.book.find? orderId with
  | none => rfl
  | some entry =>
    cases opened : entry.order.isOpen with
    | false => simp [opened]
    | true =>
      simp only [opened, Bool.not_true, Bool.false_eq_true, ↓reduceIte]
      have nonneg : 0 ≤ entry.order.cumQty.value := funded entry (Book.mem_of_find? found).1 opened
      congr 1
      funext leaves
      by_cases refused : qty ≤ .zero ∨ leaves < qty
      · rw [if_pos refused, if_pos refused]
      · rw [if_neg refused, if_neg refused]
        rw [not_or] at refused
        rw [RestingOrder.execute_agrees agrees nonneg (Decimal.lt_of_not_le refused.1)]

/-! ### Messages -/

variable (weigh)

/-- The first execution of an order sets the average and weighs nothing, whatever its quantity. -/
theorem execute_ofRequest_weigh (request : NewOrderSingle) (orderId : String) (qty px : Decimal) :
    (RestingOrder.ofRequest request orderId).execute qty px weigh =
      (RestingOrder.ofRequest request orderId).execute qty px :=
  rfl

theorem onNewOrder_weigh (x : State) (m : Message) (owner : Owner) :
    onNewOrder x m owner weigh = onNewOrder x m owner := by
  unfold onNewOrder
  cases (MessageView.ofMessage m : Except BuildFault NewOrderSingle) with
  | error fault => rfl
  | ok request =>
    dsimp only
    cases rejection? { x with ids := x.ids.nextOrderId.2 } owner.id
        (RestingOrder.ofRequest request x.ids.nextOrderId.1).clOrdId with
    | some text => rfl
    | none => simp only [acceptNew, execute_ofRequest_weigh]

/-- Only new orders are executed by a message. -/
theorem onMessage_weigh (x : State) (m : Message) (owner : Owner) :
    onMessage x m owner weigh = onMessage x m owner := by
  rw [onMessage, onMessage, onNewOrder_weigh]

/-- At every moment of every run: messages are answered without any averaging, and executions, on
either side, average only with an executed quantity, a quantity and a divisor above zero, where a
quotient fails by overflow if at all. -/
theorem averaging_safe (settings : Settings) (events : List Event) (clOrdId symbol : String)
    (side : Side) (orderQty : Decimal) (price : Option Decimal)
    (operations : List Order.Operation) :
    (∀ (weigh : Weighing) m owner, onMessage (State.reached settings events) m owner weigh =
      onMessage (State.reached settings events) m owner) ∧
    (∀ weigh : Weighing, weigh.Agrees → ∀ orderId qty px,
      executeFill (State.reached settings events) orderId qty px weigh =
        executeFill (State.reached settings events) orderId qty px) ∧
    (∀ weigh : Weighing, weigh.Agrees → ∀ qty px,
      (Tracker.fill qty px weigh).run
          (Tracker.track (.entered clOrdId symbol side orderQty price) operations) =
        (Tracker.fill qty px).run
          (Tracker.track (.entered clOrdId symbol side orderQty price) operations)) ∧
    ∀ (a : Averaging) fault, a.Sound → a.weighed = .error fault → fault.IsOverflow := by
  refine ⟨fun weigh => onMessage_weigh weigh _, ?_, ?_, fun a fault sound => sound.weighed_fault⟩
  · intro weigh agrees orderId qty px
    exact executeFill_agrees agrees (State.Sound.reached settings events).funded orderId qty px
  · intro weigh agrees qty px
    apply Tracker.run_fill_agrees agrees
    apply Order.cumQty_nonneg_track
    cases price <;> exact Decimal.value_zero.ge

end Exchange

end FixBench
