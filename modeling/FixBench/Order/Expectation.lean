import FixBench.Decimal.Text
import FixBench.Order.Basic

/-!
# Expectations

What an order should look like: its state, and any of its quantities and prices. Values are compared
as numbers, and the first that differs is reported.
-/
namespace FixBench

structure Expectation where
  state : OrderState
  orderQty : Option Decimal
  price : Option Decimal
  cumQty : Option Decimal
  leavesQty : Option Decimal
  avgPx : Option Decimal
  deriving DecidableEq, Repr

namespace Expectation

def shown : Option Decimal → String
  | none => "none"
  | some value => value.toText

/-- Compares one value, if it is expected to be anything in particular. -/
def checkValue (field : String) (expected actual : Option Decimal) : Except OrderFault Unit :=
  match expected, actual with
  | none, _ => .ok ()
  | some e, some a =>
    if a.sameValue e then .ok () else .error (.verification field e.toText a.toText)
  | some e, none => .error (.verification field e.toText (shown none))

def check (e : Expectation) (o : Order) : Except OrderFault Unit := do
  if e.state ≠ o.state then throw (.verification "state" e.state.text o.state.text)
  let leaves ← o.leavesQty
  checkValue "order_qty" e.orderQty (some o.orderQty)
  checkValue "price" e.price o.price
  checkValue "cum_qty" e.cumQty (some o.cumQty)
  checkValue "leaves_qty" e.leavesQty (some leaves)
  checkValue "avg_px" e.avgPx (some o.avgPx)

end Expectation

end FixBench
