import FixBench.Decimal.Arithmetic

/-!
# Order states

The life of an order as its owner sees it: a request is issued, then acknowledged or rejected, and
in between the order is pending. A working order may trade; an order that is filled, canceled or
rejected is finished. `next` is the whole of the table.
-/
namespace FixBench

inductive OrderState where
  | unsent
  | pendingNew
  | new
  | pendingCancel
  | pendingReplace
  | filled
  | canceled
  | rejected
  deriving DecidableEq, Repr

inductive OrderAction where
  | issueNew
  | ackNew
  | ackReject
  | issueCancel
  | ackCanceled
  | issueReplace
  | ackReplaced
  | partialFill
  | fullFill
  deriving DecidableEq, Repr

def OrderAction.text : OrderAction → String
  | issueNew => "issue New"
  | ackNew => "ack New"
  | ackReject => "ack Reject"
  | issueCancel => "issue Cancel"
  | ackCanceled => "ack Canceled"
  | issueReplace => "issue Replace"
  | ackReplaced => "ack Replaced"
  | partialFill => "partial fill"
  | fullFill => "full fill"

def OrderAction.all : List OrderAction :=
  [issueNew, ackNew, ackReject, issueCancel, ackCanceled, issueReplace, ackReplaced, partialFill,
   fullFill]

/-- Why an order cannot do what it is asked to. -/
inductive OrderFault where
  | transition (action state : String)
  | verification (field expected actual : String)
  | unusableReport (reason : String)
  /-- A quantity or price would leave the range of decimals. -/
  | arithmetic (fault : Decimal.ArithmeticError)
  deriving DecidableEq, Repr

def OrderFault.message : OrderFault → String
  | transition action state => s!"invalid transition: cannot {action} from state {state}"
  | verification field expected actual =>
    s!"verification failed on {field}: expected {expected}, actual {actual}"
  | unusableReport reason => s!"unusable report: {reason}"
  | arithmetic fault => fault.message

/-- Short name of the cause. -/
def OrderFault.name : OrderFault → String
  | transition .. => "InvalidTransition"
  | verification .. => "VerificationFailed"
  | unusableReport _ => "UnusableReport"
  | arithmetic _ => "Arithmetic"

namespace OrderState

def text : OrderState → String
  | unsent => "UNSENT"
  | pendingNew => "PENDING_NEW"
  | new => "NEW"
  | pendingCancel => "PENDING_CANCEL"
  | pendingReplace => "PENDING_REPLACE"
  | filled => "FILLED"
  | canceled => "CANCELED"
  | rejected => "REJECTED"

def all : List OrderState :=
  [unsent, pendingNew, new, pendingCancel, pendingReplace, filled, canceled, rejected]

/-- The state after an action, where the action is allowed. -/
def next : OrderState → OrderAction → Option OrderState
  | unsent, .issueNew => some pendingNew
  | pendingNew, .ackNew => some new
  | pendingNew, .ackReject => some rejected
  | new, .issueCancel => some pendingCancel
  | new, .issueReplace => some pendingReplace
  | new, .partialFill => some new
  | new, .fullFill => some filled
  | pendingCancel, .ackCanceled => some canceled
  | pendingCancel, .ackReject => some new
  | pendingReplace, .ackReplaced => some new
  | pendingReplace, .ackReject => some new
  | _, _ => none

def after (state : OrderState) (action : OrderAction) : Except OrderFault OrderState :=
  match state.next action with
  | some next => .ok next
  | none => .error (.transition action.text state.text)

def isTerminal : OrderState → Bool
  | filled | canceled | rejected => true
  | _ => false

def isPending : OrderState → Bool
  | pendingNew | pendingCancel | pendingReplace => true
  | _ => false

end OrderState

end FixBench
