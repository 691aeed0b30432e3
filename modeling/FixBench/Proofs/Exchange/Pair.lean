import FixBench.Order.Request
import FixBench.Order.Tracking
import FixBench.Proofs.Decimal.Value
import FixBench.Proofs.Exchange.Run

/-!
# An owner and an exchange

An order in the hands of its owner, and the exchange it is sent to. A request is issued and handled
at once, and every report that is answered goes back into the order before anything else happens. The
executions of the order are reported in the same way. Meanwhile other connections may do at the
exchange what they like.

A run ends early if the arithmetic fails, if the exchange cannot read a request or if a report
does not fit the order. `runsExactly` says that the executions of a run are counted without rounding;
`SameOrder` is what both sides should agree on after it.
-/
namespace FixBench.Exchange

/-- An order in the hands of its owner, and the exchange. -/
structure Pair where
  order : Order
  exchange : State

/-- What ends a run. -/
inductive Stop where
  | arithmetic (fault : Decimal.ArithmeticError)
  /-- The exchange cannot read a request. -/
  | refused (reason : RejectReason)
  /-- A report does not fit the order. -/
  | unusable (fault : OrderFault)

inductive Action where
  | submit
  | cancel
  | replace (qty : Decimal) (price : Option Decimal)
  | fill (orderId : String) (qty px : Decimal)
  /-- Something that happens to the exchange elsewhere. -/
  | other (event : Event)

def applyReports (o : Order) : List Message → Except OrderFault Order
  | [] => .ok o
  | m :: rest => do applyReports (← o.applyReport m) rest

namespace Pair

/-- Issues a request and applies what is answered. An order that cannot issue it stays as it is, and
nothing is sent. -/
def request (p : Pair) (owner : Owner) (built : Except BuildFault Message)
    (issue : Order → Except OrderFault Order) : Except Stop Pair :=
  match built, issue p.order with
  | .ok m, .ok issued =>
    match onMessage p.exchange m owner with
    | .error fault => .error (.arithmetic fault)
    | .ok (.error reason, _) => .error (.refused reason)
    | .ok (.ok reports, exchange) =>
      match applyReports issued reports with
      | .error fault => .error (.unusable fault)
      | .ok order => .ok ⟨order, exchange⟩
  | _, _ => .ok p

def step (owner : Owner) (p : Pair) : Action → Except Stop Pair
  | .submit => p.request owner (p.order.newRequest owner.version) Order.issueNew
  | .cancel =>
    p.request owner (p.order.cancelRequest owner.version) (·.issueCancel p.order.cancelId)
  | .replace qty price =>
    p.request owner (p.order.replaceRequest owner.version qty price)
      (·.issueReplace ⟨p.order.replaceId, qty, price⟩)
  | .fill orderId qty px =>
    match executeFill p.exchange orderId qty px with
    | .error fault => .error (.arithmetic fault)
    | .ok (.error _, exchange) => .ok { p with exchange }
    | .ok (.ok (report, receiver), exchange) =>
      if receiver.id = owner.id then
        match p.order.applyReport report with
        | .error fault => .error (.unusable fault)
        | .ok order => .ok ⟨order, exchange⟩
      else .ok { p with exchange }
  | .other event => .ok { p with exchange := p.exchange.step event }

def run (owner : Owner) (p : Pair) : List Action → Except Stop Pair
  | [] => .ok p
  | action :: rest =>
    match p.step owner action with
    | .error stop => .error stop
    | .ok q => q.run owner rest

/-! ### Exact sums -/

/-- If the action is an execution that is not refused, its sums are not rounded. -/
def countsExactly (p : Pair) : Action → Bool
  | .fill orderId qty px =>
    match executeFill p.exchange orderId qty px with
    | .ok (.error _, _) => true
    | _ => (p.exchange.order? orderId).all (·.countsExactly qty)
  | _ => true

/-- All executions of a run are counted without rounding. -/
def runsExactly (owner : Owner) (p : Pair) : List Action → Bool
  | [] => true
  | action :: rest =>
    p.countsExactly action &&
      match p.step owner action with
      | .error _ => true
      | .ok q => q.runsExactly owner rest

end Pair

/-- Nothing on this connection. -/
def Event.IsElsewhere (ownerId : Nat) : Event → Prop
  | .message _ owner => owner.id ≠ ownerId
  | .fill .. => False
  | .logout gone => gone ≠ ownerId

/-! ### The two sides of an order -/

/-- The owner's order and the exchange's are the same in everything both of them keep; prices agree but
for the sign of a zero. Where the exchange distinguishes orders that have traded in part, the owner
does not. -/
structure SameOrder (o : Order) (r : RestingOrder) : Prop where
  orderId : o.orderId = some r.orderId
  clOrdId : o.clOrdId = r.clOrdId
  orderQty : o.orderQty = r.orderQty
  price : o.price.map Decimal.plain = r.price.map Decimal.plain
  cumQty : o.cumQty = r.cumQty
  avgPx : o.avgPx.plain = r.avgPx.plain
  leavesQty : ∃ leaves, o.leavesQty = .ok leaves ∧ r.leavesQty = .ok leaves
  new : o.state = .new ↔ r.status = .new ∨ r.status = .partiallyFilled
  filled : o.state = .filled ↔ r.status = .filled
  canceled : o.state = .canceled ↔ r.status = .canceled
  settled : o.state = .new ∨ o.state = .filled ∨ o.state = .canceled

/-- An order that has not been sent, at a limit if there is a price, and an exchange that has just
started. -/
def Pair.initial (settings : Settings) (clOrdId symbol : String) (side : Side) (qty : Decimal)
    (price : Option Decimal) : Pair where
  order := (price.map (Order.unsent clOrdId symbol side qty).withPrice).getD
    (.unsent clOrdId symbol side qty)
  exchange := .start settings

end FixBench.Exchange
