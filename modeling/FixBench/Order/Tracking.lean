import FixBench.Order.Basic
import FixBench.View.Reports

/-!
# Tracking an order

Each operation takes an order through one action, or refuses and leaves it as it was. Reports of the
exchange are turned into these operations by their execution type; reports of a pending state change
nothing.
-/
namespace FixBench.Order

/-! ### Requests and acknowledgements -/

def act (o : Order) (action : OrderAction) : Except OrderFault Order := do
  let next ← o.state.after action
  return o.record action next

def issueNew (o : Order) : Except OrderFault Order := o.act .issueNew

def ackNew (o : Order) (orderId : Option String) : Except OrderFault Order := do
  let o ← o.act .ackNew
  return { o with orderId := orderId.or o.orderId }

/-- The pending request has been refused. -/
def ackReject (o : Order) : Except OrderFault Order := do
  let o ← o.act .ackReject
  return { o with cancelClOrdId := none, pendingAmendment := none }

def issueCancel (o : Order) (clOrdId : String) : Except OrderFault Order := do
  let o ← o.act .issueCancel
  return { o with cancelClOrdId := some clOrdId }

def ackCanceled (o : Order) : Except OrderFault Order := o.act .ackCanceled

def issueReplace (o : Order) (amendment : Amendment) : Except OrderFault Order := do
  let o ← o.act .issueReplace
  return { o with pendingAmendment := some amendment }

/-- Puts the amendment under way into force. -/
def amend (o : Order) : Order :=
  match o.pendingAmendment with
  | none => o
  | some amendment =>
    { o with
      pendingAmendment := none
      clOrdId := amendment.clOrdId
      orderQty := amendment.orderQty
      price := amendment.price.or o.price }

def ackReplaced (o : Order) : Except OrderFault Order := do
  let o ← o.act .ackReplaced
  return o.amend

/-! ### Executions -/

/-- What an execution of `qty` is against the open quantity. -/
def fillAction (qty leaves : Decimal) : OrderAction :=
  if leaves ≤ qty then .fullFill else .partialFill

def fill (o : Order) (qty px : Decimal) (weigh : Weighing := Averaging.weighed) :
    Except OrderFault Order := do
  let leaves ← o.leavesQty
  let next ← o.state.after (fillAction qty leaves)
  if qty ≤ .zero ∨ leaves < qty then
    throw (.unusableReport s!"fill of {qty} against open quantity {leaves}")
  let filled ← OrderFault.ofArithmetic (o.cumQty.add qty)
  let avgPx ← OrderFault.ofArithmetic (averagePrice o.avgPx o.cumQty px qty filled weigh)
  return { o with avgPx, cumQty := filled }.record (fillAction qty leaves) next

/-! ### Reports -/

/-- Takes the terms an exchange has put into force. -/
def adopt (o : Order) (r : ExecutionReport) : Order :=
  { o with orderQty := r.orderQty.getD o.orderQty, price := r.price.or o.price }

def applyExecution (o : Order) (r : ExecutionReport) : Except OrderFault Order :=
  match r.execType with
  | .new => o.ackNew (some r.orderId)
  | .rejected => o.ackReject
  | .canceled => o.ackCanceled
  | .replaced => do
    let o ← o.ackReplaced
    return o.adopt r
  | .partialFill | .fill | .trade =>
    match r.lastQty with
    | none => .error (.unusableReport "fill report without LastQty")
    | some qty => o.fill qty (r.lastPx.getD r.avgPx)
  | .pendingNew | .pendingCancel | .pendingReplace => .ok o
  | other => .error (.unusableReport s!"unsupported ExecType {CodeSet.text other}")

def applyReport (o : Order) (m : Message) : Except OrderFault Order :=
  match m.msgType with
  | .orderCancelReject => o.ackReject
  | .executionReport =>
    match (MessageView.ofMessage m : Except BuildFault ExecutionReport) with
    | .ok report => o.applyExecution report
    | .error fault => .error (.unusableReport fault.message)
  | other => .error (.unusableReport s!"MsgType {other.text} is not an order report")

/-! ### Operations as data -/

/-- Everything that can happen to an order. -/
inductive Operation where
  | issueNew
  | ackNew (orderId : Option String)
  | ackReject
  | issueCancel (clOrdId : String)
  | ackCanceled
  | issueReplace (amendment : Amendment)
  | ackReplaced
  | fill (qty px : Decimal)
  | report (m : Message)
  deriving DecidableEq, Repr

def apply (o : Order) : Operation → Except OrderFault Order
  | .issueNew => o.issueNew
  | .ackNew orderId => o.ackNew orderId
  | .ackReject => o.ackReject
  | .issueCancel clOrdId => o.issueCancel clOrdId
  | .ackCanceled => o.ackCanceled
  | .issueReplace amendment => o.issueReplace amendment
  | .ackReplaced => o.ackReplaced
  | .fill qty px => o.fill qty px
  | .report m => o.applyReport m

/-- The order after an operation, whether it succeeds or not. -/
def perform (o : Order) (operation : Operation) : Order :=
  match o.apply operation with
  | .ok after => after
  | .error _ => o

end FixBench.Order
