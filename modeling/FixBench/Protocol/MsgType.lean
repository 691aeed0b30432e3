/-!
# Message types

The types the session layer and order entry use have constructors; any other type is kept as its
text. Every text is the type of some message, so reading never fails.
-/
namespace FixBench

inductive MsgType where
  | heartbeat
  | testRequest
  | reject
  | logout
  | executionReport
  | orderCancelReject
  | logon
  | newOrderSingle
  | orderCancelRequest
  | orderCancelReplaceRequest
  | custom (code : String)
  deriving DecidableEq, Repr, Inhabited

namespace MsgType

def ofText : String → MsgType
  | "0" => .heartbeat
  | "1" => .testRequest
  | "3" => .reject
  | "5" => .logout
  | "8" => .executionReport
  | "9" => .orderCancelReject
  | "A" => .logon
  | "D" => .newOrderSingle
  | "F" => .orderCancelRequest
  | "G" => .orderCancelReplaceRequest
  | code => .custom code

/-- Name of the type; all types without a constructor share one. -/
def name : MsgType → String
  | .heartbeat => "Heartbeat"
  | .testRequest => "TestRequest"
  | .reject => "Reject"
  | .logout => "Logout"
  | .executionReport => "ExecutionReport"
  | .orderCancelReject => "OrderCancelReject"
  | .logon => "Logon"
  | .newOrderSingle => "NewOrderSingle"
  | .orderCancelRequest => "OrderCancelRequest"
  | .orderCancelReplaceRequest => "OrderCancelReplaceRequest"
  | .custom _ => "Custom"

def text : MsgType → String
  | .heartbeat => "0"
  | .testRequest => "1"
  | .reject => "3"
  | .logout => "5"
  | .executionReport => "8"
  | .orderCancelReject => "9"
  | .logon => "A"
  | .newOrderSingle => "D"
  | .orderCancelRequest => "F"
  | .orderCancelReplaceRequest => "G"
  | .custom code => code

/-- Messages that keep the session itself going. -/
def isAdmin : MsgType → Bool
  | .heartbeat | .testRequest | .reject | .logout | .logon => true
  | _ => false

def isApp (type : MsgType) : Bool := !type.isAdmin

end MsgType

end FixBench
