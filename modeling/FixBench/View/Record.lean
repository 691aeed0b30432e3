import FixBench.Protocol.Record
import FixBench.View.Admin
import FixBench.View.Orders
import FixBench.View.Reports

/-!
# Views as JSON records

A record of a view holds the values read from its message, each under the name of its field. A
draft is filled in from the same names.
-/
namespace FixBench

/-- A view whose values have a JSON form. -/
class RecordView (V : Type) extends MessageView V where
  values : V → Json

instance : RecordView NewOrderSingle where
  values v := .record
    [("cl_ord_id", v.clOrdId), ("symbol", v.symbol), ("side", v.side), ("ord_type", v.ordType),
     ("order_qty", v.orderQty), ("price", v.price)]

instance : RecordView OrderCancelRequest where
  values v := .record
    [("orig_cl_ord_id", v.origClOrdId), ("cl_ord_id", v.clOrdId), ("symbol", v.symbol),
     ("side", v.side), ("order_id", v.orderId)]

instance : RecordView OrderCancelReplaceRequest where
  values v := .record
    [("orig_cl_ord_id", v.origClOrdId), ("cl_ord_id", v.clOrdId), ("symbol", v.symbol),
     ("side", v.side), ("ord_type", v.ordType), ("order_qty", v.orderQty), ("price", v.price)]

instance : RecordView ExecutionReport where
  values v := .record
    [("order_id", v.orderId), ("exec_id", v.execId), ("cl_ord_id", v.clOrdId),
     ("orig_cl_ord_id", v.origClOrdId), ("symbol", v.symbol), ("exec_type", v.execType),
     ("ord_status", v.ordStatus), ("side", v.side), ("leaves_qty", v.leavesQty),
     ("cum_qty", v.cumQty), ("avg_px", v.avgPx), ("order_qty", v.orderQty), ("price", v.price),
     ("last_qty", v.lastQty), ("last_px", v.lastPx), ("text", v.text)]

instance : RecordView OrderCancelReject where
  values v := .record
    [("order_id", v.orderId), ("cl_ord_id", v.clOrdId), ("orig_cl_ord_id", v.origClOrdId),
     ("ord_status", v.ordStatus), ("response_to", v.responseTo), ("text", v.text)]

instance : RecordView Logon where
  values v := .record [("heart_bt_int", v.heartBtInt)]

instance : RecordView Heartbeat where
  values v := .record [("test_req_id", v.testReqId)]

instance : RecordView TestRequest where
  values v := .record [("test_req_id", v.testReqId)]

instance : RecordView Reject where
  values v := .record
    [("ref_seq_num", v.refSeqNum), ("ref_msg_type", v.refMsgType), ("reason", v.reason),
     ("text", v.text)]

instance : RecordView Logout where
  values v := .record [("text", v.text)]

/-- A kind of view, seen from outside. -/
structure ViewKind where
  name : String
  type : MsgType
  /-- Reads a message, and gives its values with the message of the view. -/
  read : Message → Except BuildFault (Json × Message)

namespace ViewKind

def of (V : Type) [RecordView V] (name : String) : ViewKind where
  name
  type := MessageView.type V
  read m := do
    let view : V ← MessageView.ofMessage m
    return (RecordView.values view, MessageView.message view)

def all : List ViewKind :=
  [of NewOrderSingle "NewOrderSingle", of OrderCancelRequest "OrderCancelRequest",
   of OrderCancelReplaceRequest "OrderCancelReplaceRequest", of ExecutionReport "ExecutionReport",
   of OrderCancelReject "OrderCancelReject", of Logon "Logon", of Heartbeat "Heartbeat",
   of TestRequest "TestRequest", of Reject "Reject", of Logout "Logout"]

def named? (name : String) : Option ViewKind := all.find? (·.name == name)

end ViewKind

namespace Draft

variable {V : Type}

/-- Fills in the value called `name`, if there is one of that name and it is of the right kind. -/
def putNamed? (d : Draft V) (name : String) (value : Json) : Option (Draft V) :=
  let fill {α : Type} [FromJson α] (put : α → Draft V) : Option (Draft V) :=
    (fromJson? value).map put
  match name with
  | "cl_ord_id" => fill d.clOrdId
  | "orig_cl_ord_id" => fill d.origClOrdId
  | "order_id" => fill d.orderId
  | "exec_id" => fill d.execId
  | "symbol" => fill d.symbol
  | "side" => fill d.side
  | "ord_type" => fill d.ordType
  | "order_qty" => fill d.orderQty
  | "price" => fill d.price
  | "exec_type" => fill d.execType
  | "ord_status" => fill d.ordStatus
  | "leaves_qty" => fill d.leavesQty
  | "cum_qty" => fill d.cumQty
  | "avg_px" => fill d.avgPx
  | "last_qty" => fill d.lastQty
  | "last_px" => fill d.lastPx
  | "text" => fill d.text
  | "heart_bt_int" => fill d.heartBtInt
  | "test_req_id" => fill d.testReqId
  | "ref_seq_num" => fill d.refSeqNum
  | "ref_msg_type" => fill d.refMsgType
  | "session_reject_reason" => fill d.sessionRejectReason
  | "cxl_rej_response_to" => fill d.cxlRejResponseTo
  | _ => none

end Draft

end FixBench
