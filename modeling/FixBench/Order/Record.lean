import FixBench.Order.Expectation
import FixBench.Order.Tracking
import FixBench.Protocol.Record

/-!
# Orders as JSON records

An order is read from its terms, as one that has not been sent, and written with all that has become
of it. What can happen to an order is read from a record that says what to `do`.
-/
namespace FixBench

instance : ToJson OrderState := ⟨fun state => .ofText state.text⟩
instance : ToJson OrderAction := ⟨fun action => .ofText action.text⟩

instance : FromJson OrderState where
  fromJson? j := j.string?.bind fun text => OrderState.all.find? (·.text == text)

instance : FromJson OrderAction where
  fromJson? j := j.string?.bind fun text => OrderAction.all.find? (·.text == text)

instance : ToJson HistoryEntry := ⟨fun entry => .array [entry.action, entry.state]⟩

instance : ToJson Amendment := ⟨fun a => .array [a.clOrdId, a.orderQty, a.price]⟩

namespace Order

def ofRecord? (j : Json) : Option Order := do
  let o := unsent (← j.member? "cl_ord_id") (← j.member? "symbol") (← j.member? "side")
    (← j.member? "qty")
  let price : Option Decimal ← j.member? "price"
  return (price.map o.withPrice).getD o

instance : FromJson Order := ⟨ofRecord?⟩

/-- The order as it stands; what is left of it may be out of range. -/
def toRecord (o : Order) : Except OrderFault Json := do
  let leaves ← o.leavesQty
  return .record
    [("cl_ord_id", o.clOrdId), ("cancel_cl_ord_id", o.cancelClOrdId), ("symbol", o.symbol),
     ("side", CodeSet.text o.side), ("ord_type", CodeSet.text o.ordType),
     ("order_qty", o.orderQty), ("price", o.price), ("order_id", o.orderId), ("state", o.state),
     ("cum_qty", o.cumQty), ("avg_px", o.avgPx), ("leaves_qty", leaves),
     ("pending_amendment", o.pendingAmendment), ("history_len", o.history.length)]

namespace Operation

def ofRecord? (j : Json) : Option Operation := do
  match ← (j.member? "do" : Option String) with
  | "issue_new" => return .issueNew
  | "ack_new" => return .ackNew (← j.member? "order_id")
  | "ack_reject" => return .ackReject
  | "issue_cancel" => return .issueCancel (← j.member? "cl_ord_id")
  | "ack_canceled" => return .ackCanceled
  | "issue_replace" =>
    return .issueReplace ⟨← j.member? "cl_ord_id", ← j.member? "qty", ← j.member? "price"⟩
  | "ack_replaced" => return .ackReplaced
  | "fill" => return .fill (← j.member? "qty") (← j.member? "px")
  | "report" => return .report (← j.member? "msg")
  | _ => none

instance : FromJson Operation := ⟨ofRecord?⟩

end Operation

end Order

namespace Expectation

def ofRecord? (j : Json) : Option Expectation := do
  return {
    state := ← j.member? "state"
    orderQty := ← j.member? "order_qty"
    price := ← j.member? "price"
    cumQty := ← j.member? "cum_qty"
    leavesQty := ← j.member? "leaves_qty"
    avgPx := ← j.member? "avg_px" }

instance : FromJson Expectation := ⟨ofRecord?⟩

end Expectation

end FixBench
