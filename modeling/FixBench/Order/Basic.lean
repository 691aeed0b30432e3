import FixBench.Order.State
import FixBench.Protocol.Code

/-!
# Orders

An order holds its terms, what has been executed of it, the requests under way, and the history of
all that happened to it. Executed quantity and average price are exact as far as decimals are.

Whatever leads to an average price leaves open how an execution is weighed in, and weighs it as it is
done here unless told otherwise.
-/
namespace FixBench

/-- One entry of an order's history: what was done, and the state it led to. -/
structure HistoryEntry where
  action : OrderAction
  state : OrderState
  deriving DecidableEq, Repr

/-- New terms that have been asked for; a price that is absent stays as it is. -/
structure Amendment where
  clOrdId : String
  orderQty : Decimal
  price : Option Decimal
  deriving DecidableEq, Repr

structure Order where
  clOrdId : String
  cancelClOrdId : Option String
  symbol : String
  side : Side
  ordType : OrdType
  orderQty : Decimal
  price : Option Decimal
  orderId : Option String
  state : OrderState
  cumQty : Decimal
  avgPx : Decimal
  pendingAmendment : Option Amendment
  history : List HistoryEntry
  deriving DecidableEq, Repr

/-- Runs decimal arithmetic on behalf of an order. -/
def OrderFault.ofArithmetic {α : Type} (result : Except Decimal.ArithmeticError α) :
    Except OrderFault α :=
  match result with
  | .ok a => .ok a
  | .error fault => .error (.arithmetic fault)

/-- An execution of `qty` at `px` that joins `cumQty` at `avgPx`; `filled` is the sum of both
quantities. -/
structure Averaging where
  avgPx : Decimal
  cumQty : Decimal
  px : Decimal
  qty : Decimal
  filled : Decimal

/-- How an execution is weighed into an average. -/
abbrev Weighing := Averaging → Except Decimal.ArithmeticError Decimal

def Averaging.weighed (a : Averaging) : Except Decimal.ArithmeticError Decimal := do
  let before ← a.avgPx.mul a.cumQty
  let added ← a.px.mul a.qty
  let total ← before.add added
  total.div a.filled

/-- Average price once `qty` at `px` joins `cumQty` at `avgPx`. The first execution sets it; later
ones weigh in. -/
def averagePrice (avgPx cumQty px qty filled : Decimal) (weigh : Weighing := Averaging.weighed) :
    Except Decimal.ArithmeticError Decimal :=
  if cumQty.isZero then .ok px else weigh ⟨avgPx, cumQty, px, qty, filled⟩

namespace Order

/-- An order at market that has not been sent. -/
def unsent (clOrdId symbol : String) (side : Side) (orderQty : Decimal) : Order where
  clOrdId
  cancelClOrdId := none
  symbol
  side
  ordType := .market
  orderQty
  price := none
  orderId := none
  state := .unsent
  cumQty := .zero
  avgPx := .zero
  pendingAmendment := none
  history := []

/-- Makes it a limit order. -/
def withPrice (o : Order) (price : Decimal) : Order :=
  { o with ordType := .limit, price := some price }

/-- Quantity still open; a finished order has none. -/
def leavesQty (o : Order) : Except OrderFault Decimal :=
  if o.state.isTerminal then .ok .zero else OrderFault.ofArithmetic (o.orderQty.sub o.cumQty)

/-- Enters an action and the state it led to. -/
def record (o : Order) (action : OrderAction) (state : OrderState) : Order :=
  { o with state, history := o.history ++ [⟨action, state⟩] }

/-- Identifier under which the next answer is due. -/
def pendingClOrdId (o : Order) : String :=
  match o.state with
  | .pendingCancel => o.cancelClOrdId.getD o.clOrdId
  | .pendingReplace => (o.pendingAmendment.map Amendment.clOrdId).getD o.clOrdId
  | _ => o.clOrdId

end Order

end FixBench
