import FixBench.Order.Basic
import FixBench.View.Orders

/-!
# Requests for an order

The messages an order's owner sends. Requests to cancel and to replace have identifiers of their
own, made from the order's current one, and name the exchange's identifier once it is known.
-/
namespace FixBench

namespace Draft

variable {V : Type}

/-- Adds a price, if there is one. -/
def priceIfSome (d : Draft V) : Option Decimal → Draft V
  | none => d
  | some price => d.price price

/-- Adds an exchange's identifier, if there is one. -/
def orderIdIfSome (d : Draft V) : Option String → Draft V
  | none => d
  | some id => d.orderId id

end Draft

namespace Order

def cancelId (o : Order) : String := "CXL_" ++ o.clOrdId

def replaceId (o : Order) : String := "MOD_" ++ o.clOrdId

def newRequest (o : Order) (version : String) : Except BuildFault Message := do
  let draft := (Draft.start NewOrderSingle version).clOrdId o.clOrdId
    |>.symbol o.symbol |>.side o.side |>.ordType o.ordType |>.orderQty o.orderQty
  let request ← (draft.priceIfSome o.price).build
  return request.message

def cancelRequest (o : Order) (version : String) : Except BuildFault Message := do
  let draft := (Draft.start OrderCancelRequest version).origClOrdId o.clOrdId
    |>.clOrdId o.cancelId |>.symbol o.symbol |>.side o.side
  let request ← (draft.orderIdIfSome o.orderId).build
  return request.message

/-- A request for new terms; without a price the current one is repeated. -/
def replaceRequest (o : Order) (version : String) (qty : Decimal) (price : Option Decimal) :
    Except BuildFault Message := do
  let draft := (Draft.start OrderCancelReplaceRequest version).origClOrdId o.clOrdId
    |>.clOrdId o.replaceId |>.symbol o.symbol |>.side o.side |>.ordType o.ordType
    |>.orderQty qty
  let request ← ((draft.priceIfSome (price.or o.price)).orderIdIfSome o.orderId).build
  return request.message

end Order

end FixBench
