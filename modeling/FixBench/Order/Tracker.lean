import FixBench.Order.Tracking

/-!
# A tracker

A tracker keeps one order and writes to it in place, one field after the other. A fault ends an
operation where it stands: what has been written by then stays written, and nothing is taken back.
That an operation which fails has written nothing, and that a tracker does what `Order.apply` says, is
for `Proofs.Order.History` to show.
-/
namespace FixBench

/-- Works on an order in place. A fault does not undo what has been written. -/
abbrev Tracker := ExceptT OrderFault (StateM Order)

namespace Tracker

/-- The answer of an operation on `o`, and the order after it. -/
def run {α : Type} (t : Tracker α) (o : Order) : Except OrderFault α × Order := ExceptT.run t o

/-- Takes the order through an action. -/
def act (action : OrderAction) : Tracker Unit := do
  let next ← (← get).state.after action
  modify (·.record action next)

/-! ### Requests and acknowledgements -/

def issueNew : Tracker Unit := act .issueNew

def ackNew (orderId : Option String) : Tracker Unit := do
  act .ackNew
  if orderId.isSome then
    modify fun o => { o with orderId }

def ackReject : Tracker Unit := do
  act .ackReject
  modify fun o => { o with cancelClOrdId := none }
  modify fun o => { o with pendingAmendment := none }

def issueCancel (clOrdId : String) : Tracker Unit := do
  act .issueCancel
  modify fun o => { o with cancelClOrdId := some clOrdId }

def ackCanceled : Tracker Unit := act .ackCanceled

def issueReplace (amendment : Amendment) : Tracker Unit := do
  act .issueReplace
  modify fun o => { o with pendingAmendment := some amendment }

/-- Puts the amendment under way into force, once the replacement has been entered. -/
def ackReplaced : Tracker Unit := do
  act .ackReplaced
  if let some amendment := (← get).pendingAmendment then
    modify fun o => { o with pendingAmendment := none }
    modify fun o => { o with clOrdId := amendment.clOrdId }
    modify fun o => { o with orderQty := amendment.orderQty }
    if amendment.price.isSome then
      modify fun o => { o with price := amendment.price }

/-! ### Executions -/

def fill (qty px : Decimal) (weigh : Weighing := Averaging.weighed) : Tracker Unit := do
  let leaves ← (← get).leavesQty
  let action := Order.fillAction qty leaves
  let next ← (← get).state.after action
  if qty ≤ .zero ∨ leaves < qty then
    throw (.unusableReport s!"fill of {qty} against open quantity {leaves}")
  let filled ← OrderFault.ofArithmetic ((← get).cumQty.add qty)
  let avgPx ← OrderFault.ofArithmetic
    (averagePrice (← get).avgPx (← get).cumQty px qty filled weigh)
  modify fun o => { o with avgPx }
  modify fun o => { o with cumQty := filled }
  modify (·.record action next)

/-! ### Reports -/

/-- Takes the terms a report tells, as far as it tells any. -/
def adopt (r : ExecutionReport) : Tracker Unit := do
  if let some qty := r.orderQty then
    modify fun o => { o with orderQty := qty }
  if let some px := r.price then
    modify fun o => { o with price := some px }

def applyExecution (r : ExecutionReport) : Tracker Unit :=
  match r.execType with
  | .new => ackNew (some r.orderId)
  | .rejected => ackReject
  | .canceled => ackCanceled
  | .replaced => do
    ackReplaced
    adopt r
  | .partialFill | .fill | .trade =>
    match r.lastQty with
    | none => throw (.unusableReport "fill report without LastQty")
    | some qty => fill qty (r.lastPx.getD r.avgPx)
  | .pendingNew | .pendingCancel | .pendingReplace => return
  | other => throw (.unusableReport s!"unsupported ExecType {CodeSet.text other}")

def applyReport (m : Message) : Tracker Unit :=
  match m.msgType with
  | .orderCancelReject => ackReject
  | .executionReport =>
    match (MessageView.ofMessage m : Except BuildFault ExecutionReport) with
    | .ok report => applyExecution report
    | .error fault => throw (.unusableReport fault.message)
  | other => throw (.unusableReport s!"MsgType {other.text} is not an order report")

def perform : Order.Operation → Tracker Unit
  | .issueNew => issueNew
  | .ackNew orderId => ackNew orderId
  | .ackReject => ackReject
  | .issueCancel clOrdId => issueCancel clOrdId
  | .ackCanceled => ackCanceled
  | .issueReplace amendment => issueReplace amendment
  | .ackReplaced => ackReplaced
  | .fill qty px => fill qty px
  | .report m => applyReport m

/-- The order after operations one after another, whether they succeed or not. -/
def track (o : Order) (operations : List Order.Operation) : Order :=
  operations.foldl (fun o operation => ((perform operation).run o).2) o

end Tracker

end FixBench
