import FixBench.View.Basic

/-!
# Reports of an exchange

An execution report tells what became of an order; an order cancel reject tells that a cancellation
or a replacement was refused. The quantities and prices an execution report may leave out count as
left out when they cannot be read.
-/
namespace FixBench

structure ExecutionReport where
  message : Message
  orderId : String
  execId : String
  clOrdId : String
  symbol : String
  execType : ExecType
  ordStatus : OrdStatus
  side : Side
  leavesQty : Decimal
  cumQty : Decimal
  avgPx : Decimal
  deriving DecidableEq, Repr

namespace ExecutionReport

def origClOrdId (r : ExecutionReport) : Option String := r.message.get Tag.origClOrdId
def orderQty (r : ExecutionReport) : Option Decimal := r.message.value? .decimal Tag.orderQty
def price (r : ExecutionReport) : Option Decimal := r.message.value? .decimal Tag.price
def lastQty (r : ExecutionReport) : Option Decimal := r.message.value? .decimal Tag.lastQty
def lastPx (r : ExecutionReport) : Option Decimal := r.message.value? .decimal Tag.lastPx
def text (r : ExecutionReport) : Option String := r.message.get Tag.text

def read (m : Message) : Except BuildFault ExecutionReport := do
  let execType ← m.value (.code ExecType) Tag.execType
  let ordStatus ← m.value (.code OrdStatus) Tag.ordStatus
  let side ← m.value (.code Side) Tag.side
  let leavesQty ← m.value .decimal Tag.leavesQty
  let cumQty ← m.value .decimal Tag.cumQty
  let avgPx ← m.value .decimal Tag.avgPx
  return {
    message := m, orderId := m.text Tag.orderId, execId := m.text Tag.execId,
    clOrdId := m.text Tag.clOrdId, symbol := m.text Tag.symbol,
    execType, ordStatus, side, leavesQty, cumQty, avgPx }

instance : MessageView ExecutionReport where
  type := .executionReport
  required :=
    [Tag.orderId, Tag.execId, Tag.clOrdId, Tag.execType, Tag.ordStatus, Tag.symbol, Tag.side,
     Tag.leavesQty, Tag.cumQty, Tag.avgPx]
  read := read
  message := message

end ExecutionReport

structure OrderCancelReject where
  message : Message
  orderId : String
  clOrdId : String
  origClOrdId : String
  ordStatus : OrdStatus
  responseTo : CxlRejResponseTo
  deriving DecidableEq, Repr

namespace OrderCancelReject

def text (r : OrderCancelReject) : Option String := r.message.get Tag.text

def read (m : Message) : Except BuildFault OrderCancelReject := do
  let ordStatus ← m.value (.code OrdStatus) Tag.ordStatus
  let responseTo ← m.value (.code CxlRejResponseTo) Tag.cxlRejResponseTo
  return {
    message := m, orderId := m.text Tag.orderId, clOrdId := m.text Tag.clOrdId,
    origClOrdId := m.text Tag.origClOrdId, ordStatus, responseTo }

instance : MessageView OrderCancelReject where
  type := .orderCancelReject
  required :=
    [Tag.orderId, Tag.clOrdId, Tag.origClOrdId, Tag.ordStatus, Tag.cxlRejResponseTo]
  read := read
  message := message

end OrderCancelReject

end FixBench
