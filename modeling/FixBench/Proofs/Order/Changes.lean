import FixBench.Order.Tracking
import FixBench.Proofs.Failing
import FixBench.Proofs.View.Reading

/-!
# What can become of an order

An operation on an order either fails, or it is one of the changes listed by `Change`, or it is a
report of a pending state and changes nothing (`apply_cases`). A report that can be used stands for
one of the other operations, `Operation.plain?`; only the report of a replacement brings terms of its
own. Everything that is known of orders over whole runs is proved over these changes.
-/
namespace FixBench.Order

/-! ### What reports stand for -/

namespace Operation

/-- The operation a report stands for. Reports of pending states stand for none, and so do those that
cannot be used. -/
def ofReport? (r : ExecutionReport) : Option Operation :=
  match r.execType with
  | .new => some (.ackNew (some r.orderId))
  | .rejected => some .ackReject
  | .canceled => some .ackCanceled
  | .replaced => some .ackReplaced
  | .partialFill | .fill | .trade =>
    r.lastQty.map fun qty => .fill qty (r.lastPx.getD r.avgPx)
  | _ => none

/-- An operation with reports taken for what they stand for. -/
def plain? : Operation → Option Operation
  | .report m =>
    match m.msgType with
    | .orderCancelReject => some .ackReject
    | .executionReport =>
      match (MessageView.ofMessage m : Except BuildFault ExecutionReport) with
      | .ok r => ofReport? r
      | .error _ => none
    | _ => none
  | operation => some operation

/-- It reports that the exchange has received a request and has not decided on it. -/
def IsPendingReport : Operation → Prop
  | .report m =>
    ∃ r : ExecutionReport, MessageView.ofMessage m = .ok r ∧
      (r.execType = .pendingNew ∨ r.execType = .pendingCancel ∨ r.execType = .pendingReplace)
  | _ => False

/-- A report of a pending state stands for no operation. -/
theorem plain?_of_isPendingReport {operation : Operation} (pending : operation.IsPendingReport) :
    operation.plain? = none := by
  cases operation with
  | report m =>
    obtain ⟨r, reads, kind⟩ := pending
    have typed : m.msgType = .executionReport := MessageView.msgType_of_ofMessage reads
    simp only [plain?, typed, reads, ofReport?]
    rcases kind with kind | kind | kind <;> rw [kind]
  | _ => exact pending.elim

end Operation

/-! ### The changes -/

variable {o after : Order}

/-- An order at new terms, as far as there are any. -/
def withTerms (o : Order) (qty price : Option Decimal) : Order :=
  { o with orderQty := qty.getD o.orderQty, price := price.or o.price }

/-- The ways in which an operation that is no report changes an order. The report of a replacement
may bring terms of its own, which go before those that were asked for. -/
inductive Change (o : Order) : Operation → Order → Prop where
  | issuedNew {next : OrderState} (allowed : o.state.next .issueNew = some next) :
      Change o .issueNew (o.record .issueNew next)
  | acknowledged {next : OrderState} {orderId : Option String}
      (allowed : o.state.next .ackNew = some next) :
      Change o (.ackNew orderId)
        { o.record .ackNew next with orderId := orderId.or o.orderId }
  | refused {next : OrderState} (allowed : o.state.next .ackReject = some next) :
      Change o .ackReject
        { o.record .ackReject next with cancelClOrdId := none, pendingAmendment := none }
  | issuedCancel {next : OrderState} {clOrdId : String}
      (allowed : o.state.next .issueCancel = some next) :
      Change o (.issueCancel clOrdId)
        { o.record .issueCancel next with cancelClOrdId := some clOrdId }
  | canceled {next : OrderState} (allowed : o.state.next .ackCanceled = some next) :
      Change o .ackCanceled (o.record .ackCanceled next)
  | issuedReplace {next : OrderState} {amendment : Amendment}
      (allowed : o.state.next .issueReplace = some next) :
      Change o (.issueReplace amendment)
        { o.record .issueReplace next with pendingAmendment := some amendment }
  | replaced {next : OrderState} (qty price : Option Decimal)
      (allowed : o.state.next .ackReplaced = some next) :
      Change o .ackReplaced ((o.record .ackReplaced next).amend.withTerms qty price)
  | filled {next : OrderState} {leaves qty px total average : Decimal}
      (known : o.leavesQty = .ok leaves)
      (allowed : o.state.next (fillAction qty leaves) = some next)
      (positive : ¬ qty ≤ .zero) (within : ¬ leaves < qty) (sums : o.cumQty.add qty = .ok total)
      (averages : averagePrice o.avgPx o.cumQty px qty total = .ok average) :
      Change o (.fill qty px)
        ({ o with avgPx := average, cumQty := total }.record (fillAction qty leaves) next)

/-! ### Operations as changes -/

theorem after_eq_ok_iff (state : OrderState) (action : OrderAction) (next : OrderState) :
    state.after action = .ok next ↔ state.next action = some next := by
  unfold OrderState.after
  cases state.next action with
  | none => simp
  | some allowed => simp

theorem act_eq_ok_iff (o : Order) (action : OrderAction) (after : Order) :
    o.act action = .ok after ↔
      ∃ next, o.state.next action = some next ∧ o.record action next = after := by
  unfold act
  simp only [bind_eq_ok_iff, after_eq_ok_iff, pure_eq_ok_iff]

theorem ofArithmetic_eq_ok_iff {α : Type} (result : Except Decimal.ArithmeticError α) (a : α) :
    OrderFault.ofArithmetic result = .ok a ↔ result = .ok a := by
  cases result with
  | error fault => simp [OrderFault.ofArithmetic]
  | ok value => simp [OrderFault.ofArithmetic]

theorem change_of_ackNew {orderId : Option String} (applies : o.ackNew orderId = .ok after) :
    Change o (.ackNew orderId) after := by
  simp only [ackNew, bind_eq_ok_iff, act_eq_ok_iff] at applies
  obtain ⟨_, ⟨next, allowed, rfl⟩, made⟩ := applies
  cases made
  exact .acknowledged allowed

theorem change_of_ackReject (applies : o.ackReject = .ok after) : Change o .ackReject after := by
  simp only [ackReject, bind_eq_ok_iff, act_eq_ok_iff] at applies
  obtain ⟨_, ⟨next, allowed, rfl⟩, made⟩ := applies
  cases made
  exact .refused allowed

theorem change_of_ackCanceled (applies : o.ackCanceled = .ok after) :
    Change o .ackCanceled after := by
  rw [ackCanceled, act_eq_ok_iff] at applies
  obtain ⟨next, allowed, rfl⟩ := applies
  exact .canceled allowed

/-- A replacement is confirmed, with or without a report of the terms. -/
theorem change_of_ackReplaced {amended : Order} (applies : o.ackReplaced = .ok amended)
    (qty price : Option Decimal) : Change o .ackReplaced (amended.withTerms qty price) := by
  simp only [ackReplaced, bind_eq_ok_iff, act_eq_ok_iff] at applies
  obtain ⟨_, ⟨next, allowed, rfl⟩, made⟩ := applies
  cases made
  exact .replaced qty price allowed

theorem change_of_fill {qty px : Decimal} (applies : o.fill qty px = .ok after) :
    Change o (.fill qty px) after := by
  unfold fill at applies
  rw [bind_eq_ok_iff] at applies
  obtain ⟨leaves, known, applies⟩ := applies
  rw [bind_eq_ok_iff] at applies
  obtain ⟨next, allowed, applies⟩ := applies
  rw [after_eq_ok_iff] at allowed
  -- The action is looked up before the quantity is checked.
  split at applies
  · cases applies
  · rename_i usable
    rw [not_or] at usable
    simp only [bind_eq_ok_iff, ofArithmetic_eq_ok_iff] at applies
    obtain ⟨total, sums, average, averages, made⟩ := applies
    cases made
    exact .filled known allowed usable.1 usable.2 sums averages

/-- A report that is applied is of a pending state, or a change it stands for. -/
theorem applyExecution_cases {r : ExecutionReport} (applies : o.applyExecution r = .ok after) :
    (r.execType = .pendingNew ∨ r.execType = .pendingCancel ∨ r.execType = .pendingReplace) ∧
        after = o ∨
      ∃ plain, Operation.ofReport? r = some plain ∧ Change o plain after := by
  unfold applyExecution at applies
  cases kind : r.execType <;> simp only [kind] at applies
  case new => exact .inr ⟨_, by simp [Operation.ofReport?, kind], change_of_ackNew applies⟩
  case rejected => exact .inr ⟨_, by simp [Operation.ofReport?, kind], change_of_ackReject applies⟩
  case canceled =>
    exact .inr ⟨_, by simp [Operation.ofReport?, kind], change_of_ackCanceled applies⟩
  case replaced =>
    rw [bind_eq_ok_iff] at applies
    obtain ⟨amended, confirmed, made⟩ := applies
    cases made
    exact .inr ⟨_, by simp [Operation.ofReport?, kind],
      change_of_ackReplaced confirmed r.orderQty r.price⟩
  case partialFill | fill | trade =>
    cases told : r.lastQty with
    | none =>
      rw [told] at applies
      cases applies
    | some qty =>
      rw [told] at applies
      exact .inr ⟨_, by simp [Operation.ofReport?, kind, told], change_of_fill applies⟩
  case pendingNew | pendingCancel | pendingReplace =>
    cases applies
    exact .inl ⟨by simp, rfl⟩
  -- Reports of any other kind cannot be used.
  all_goals cases applies

/-- An operation that succeeds is a report of a pending state and changes nothing, or it is one of
the changes. -/
theorem apply_cases {operation : Operation} (applies : o.apply operation = .ok after) :
    operation.IsPendingReport ∧ after = o ∨
      ∃ plain, operation.plain? = some plain ∧ Change o plain after := by
  cases operation with
  | issueNew =>
    obtain ⟨next, allowed, rfl⟩ := (act_eq_ok_iff ..).mp applies
    exact .inr ⟨_, rfl, .issuedNew allowed⟩
  | ackNew orderId => exact .inr ⟨_, rfl, change_of_ackNew applies⟩
  | ackReject => exact .inr ⟨_, rfl, change_of_ackReject applies⟩
  | issueCancel clOrdId =>
    simp only [apply, issueCancel, bind_eq_ok_iff, act_eq_ok_iff] at applies
    obtain ⟨_, ⟨next, allowed, rfl⟩, made⟩ := applies
    cases made
    exact .inr ⟨_, rfl, .issuedCancel allowed⟩
  | ackCanceled => exact .inr ⟨_, rfl, change_of_ackCanceled applies⟩
  | issueReplace amendment =>
    simp only [apply, issueReplace, bind_eq_ok_iff, act_eq_ok_iff] at applies
    obtain ⟨_, ⟨next, allowed, rfl⟩, made⟩ := applies
    cases made
    exact .inr ⟨_, rfl, .issuedReplace allowed⟩
  | ackReplaced => exact .inr ⟨_, rfl, change_of_ackReplaced applies none none⟩
  | fill qty px => exact .inr ⟨_, rfl, change_of_fill applies⟩
  | report m =>
    rw [apply, applyReport] at applies
    cases typed : m.msgType <;> simp only [typed] at applies
    case orderCancelReject =>
      exact .inr ⟨_, by simp [Operation.plain?, typed], change_of_ackReject applies⟩
    case executionReport =>
      cases reads : (MessageView.ofMessage m : Except BuildFault ExecutionReport) with
      | error fault =>
        rw [reads] at applies
        cases applies
      | ok r =>
        rw [reads] at applies
        obtain ⟨pending, rfl⟩ | ⟨plain, told, change⟩ := applyExecution_cases applies
        · exact .inl ⟨⟨r, reads, pending⟩, rfl⟩
        · exact .inr ⟨plain, by simp [Operation.plain?, typed, reads, told], change⟩
    -- Messages of any other kind are no reports.
    all_goals cases applies

/-- A report of a pending state is always accepted. -/
theorem apply_of_isPendingReport {operation : Operation} (pending : operation.IsPendingReport) :
    o.apply operation = .ok o := by
  cases operation with
  | report m =>
    obtain ⟨r, reads, kind⟩ := pending
    have typed : m.msgType = .executionReport := MessageView.msgType_of_ofMessage reads
    rw [apply, applyReport]
    simp only [typed, reads, applyExecution]
    rcases kind with kind | kind | kind <;> rw [kind]
  | _ => exact pending.elim

/-- The order after an operation is as it was, or has gone through a change. -/
theorem perform_cases (o : Order) (operation : Operation) :
    o.perform operation = o ∨
      ∃ plain, operation.plain? = some plain ∧ o.apply operation = .ok (o.perform operation) ∧
        Change o plain (o.perform operation) := by
  unfold perform
  cases applies : o.apply operation with
  | error fault => exact .inl rfl
  | ok after =>
    obtain ⟨-, same⟩ | ⟨plain, told, change⟩ := apply_cases applies
    · exact .inl same
    · exact .inr ⟨plain, told, rfl, change⟩

/-! ### What every change has in common -/

@[simp]
theorem state_record (o : Order) (action : OrderAction) (state : OrderState) :
    (o.record action state).state = state :=
  rfl

@[simp]
theorem history_record (o : Order) (action : OrderAction) (state : OrderState) :
    (o.record action state).history = o.history ++ [⟨action, state⟩] :=
  rfl

@[simp]
theorem state_amend (o : Order) : o.amend.state = o.state := by
  unfold amend
  split <;> rfl

@[simp]
theorem history_amend (o : Order) : o.amend.history = o.history := by
  unfold amend
  split <;> rfl

/-- Every change is an action that is allowed, and is entered with the state it leads to. -/
theorem Change.recorded {plain : Operation} (change : Change o plain after) :
    ∃ action, o.state.next action = some after.state ∧
      after.history = o.history ++ [⟨action, after.state⟩] := by
  cases change with
  | issuedNew allowed => exact ⟨_, allowed, rfl⟩
  | acknowledged allowed => exact ⟨_, allowed, rfl⟩
  | refused allowed => exact ⟨_, allowed, rfl⟩
  | issuedCancel allowed => exact ⟨_, allowed, rfl⟩
  | canceled allowed => exact ⟨_, allowed, rfl⟩
  | issuedReplace allowed => exact ⟨_, allowed, rfl⟩
  | replaced qty price allowed =>
    -- New terms leave state and history as they have been entered.
    refine ⟨.ackReplaced, ?_, ?_⟩
    · simpa [withTerms] using allowed
    · simp [withTerms]
  | filled known allowed => exact ⟨_, allowed, rfl⟩

end FixBench.Order
