import FixBench.View.Basic

/-!
# Order requests

The three requests a client makes: a new order, the cancellation of one, and its replacement under
new terms. A new order whose type works at a price must give one.
-/
namespace FixBench

structure NewOrderSingle where
  message : Message
  clOrdId : String
  symbol : String
  side : Side
  ordType : OrdType
  orderQty : Decimal
  price : Option Decimal
  deriving DecidableEq, Repr

namespace NewOrderSingle

def read (m : Message) : Except BuildFault NewOrderSingle := do
  let ordType ← m.value (.code OrdType) Tag.ordType
  if ordType.requiresPrice && !m.contains Tag.price then
    throw (.missingField MsgType.newOrderSingle.text Tag.price)
  let side ← m.value (.code Side) Tag.side
  let orderQty ← m.value .decimal Tag.orderQty
  let price ← m.optionalValue .decimal Tag.price
  return {
    message := m, clOrdId := m.text Tag.clOrdId, symbol := m.text Tag.symbol,
    side, ordType, orderQty, price }

instance : MessageView NewOrderSingle where
  type := .newOrderSingle
  required := [Tag.clOrdId, Tag.symbol, Tag.side, Tag.orderQty, Tag.ordType]
  read := read
  message := message

end NewOrderSingle

structure OrderCancelRequest where
  message : Message
  origClOrdId : String
  clOrdId : String
  symbol : String
  side : Side
  orderId : Option String
  deriving DecidableEq, Repr

namespace OrderCancelRequest

def read (m : Message) : Except BuildFault OrderCancelRequest := do
  let side ← m.value (.code Side) Tag.side
  return {
    message := m, origClOrdId := m.text Tag.origClOrdId, clOrdId := m.text Tag.clOrdId,
    symbol := m.text Tag.symbol, side, orderId := m.get Tag.orderId }

instance : MessageView OrderCancelRequest where
  type := .orderCancelRequest
  required := [Tag.origClOrdId, Tag.clOrdId, Tag.symbol, Tag.side]
  read := read
  message := message

end OrderCancelRequest

structure OrderCancelReplaceRequest where
  message : Message
  origClOrdId : String
  clOrdId : String
  symbol : String
  side : Side
  ordType : OrdType
  orderQty : Decimal
  price : Option Decimal
  deriving DecidableEq, Repr

namespace OrderCancelReplaceRequest

def read (m : Message) : Except BuildFault OrderCancelReplaceRequest := do
  let side ← m.value (.code Side) Tag.side
  let ordType ← m.value (.code OrdType) Tag.ordType
  let orderQty ← m.value .decimal Tag.orderQty
  let price ← m.optionalValue .decimal Tag.price
  return {
    message := m, origClOrdId := m.text Tag.origClOrdId, clOrdId := m.text Tag.clOrdId,
    symbol := m.text Tag.symbol, side, ordType, orderQty, price }

instance : MessageView OrderCancelReplaceRequest where
  type := .orderCancelReplaceRequest
  required :=
    [Tag.origClOrdId, Tag.clOrdId, Tag.symbol, Tag.side, Tag.orderQty, Tag.ordType]
  read := read
  message := message

end OrderCancelReplaceRequest

end FixBench
