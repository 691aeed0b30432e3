import FixBench.Exchange.Basic
import FixBench.Protocol.Record

/-!
# Exchange settings and orders as JSON records
-/
namespace FixBench.Exchange

namespace Settings

def fieldNames : List String := ["auto_fill", "reject_new_orders", "reject_text"]

/-- Settings from a record; fields that are not given keep their defaults. -/
def ofJson? (j : Json) : Option Settings :=
  match j.fields? fieldNames with
  | some [autoFill, rejectNewOrders, rejectText] => do
    let base := default
    return {
      autoFill := ← Json.fieldOr base.autoFill Json.bool? autoFill
      rejectNewOrders := ← Json.fieldOr base.rejectNewOrders Json.bool? rejectNewOrders
      rejectText := ← Json.fieldOr base.rejectText Json.string? rejectText }
  | _ => none

/-- The values given in a record in place of the settings' own. -/
def amend? (s : Settings) (j : Json) : Option Settings := do
  return {
    autoFill := ← j.memberOr s.autoFill "auto_fill"
    rejectNewOrders := ← j.memberOr s.rejectNewOrders "reject_new_orders"
    rejectText := ← j.memberOr s.rejectText "reject_text" }

def members (s : Settings) : List (String × Json) :=
  [("auto_fill", s.autoFill), ("reject_new_orders", s.rejectNewOrders),
   ("reject_text", s.rejectText)]

instance : ToJson Settings := ⟨fun s => .record s.members⟩

end Settings

/-- An order as the exchange sees it; what is left of it may be out of range. -/
def RestingOrder.toRecord (o : RestingOrder) : Except Decimal.ArithmeticError Json := do
  let leaves ← o.leavesQty
  return .record
    [("order_id", o.orderId), ("cl_ord_id", o.clOrdId), ("symbol", o.symbol), ("side", o.side),
     ("ord_type", o.ordType), ("order_qty", o.orderQty), ("price", o.price),
     ("cum_qty", o.cumQty), ("avg_px", o.avgPx), ("status", o.status), ("leaves_qty", leaves),
     ("open", o.isOpen)]

end FixBench.Exchange
