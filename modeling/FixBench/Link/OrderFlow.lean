import FixBench.Link.Client
import FixBench.Order.Expectation
import FixBench.Order.Request
import FixBench.Order.Tracker

/-!
# Orders over a client

An order is driven by sending its requests through a client and applying the reports that answer
them. A request is built first, then entered into the order by its tracker, then sent; what has been
entered stays entered, whatever comes of the sending. Each kind of answer is awaited under the
identifier of the request it answers; `Awaited.take` says whether a report is one.
-/
namespace FixBench

/-- What an order's owner can ask of the exchange. -/
inductive OrderCall where
  | submit
  | cancel
  | replace (qty : Decimal) (price : Option Decimal)
  deriving DecidableEq, Repr

namespace OrderCall

/-- The message that asks for it. -/
def message (o : Order) (version : String) : OrderCall → Except BuildFault Message
  | submit => o.newRequest version
  | cancel => o.cancelRequest version
  | replace qty price => o.replaceRequest version qty price

/-- What the order's tracker enters. -/
def entry (o : Order) : OrderCall → Order.Operation
  | submit => .issueNew
  | cancel => .issueCancel o.cancelId
  | replace qty price => .issueReplace ⟨o.replaceId, qty, price⟩

end OrderCall

namespace Order

/-- Makes a request: builds it, enters it, sends it. How a message is sent is left open. -/
def requestBy (send : Client → Message → Except SessionFault Nat × Client) (o : Order)
    (call : OrderCall) (c : Client) : Except Failure Unit × Order × Client :=
  match call.message o c.version with
  | .error fault => (.error (.build fault), o, c)
  | .ok m =>
    match (Tracker.perform (call.entry o)).run o with
    | (.error fault, o) => (.error (.order fault), o, c)
    | (.ok (), o) =>
      match send c m with
      | (.error fault, c) => (.error (.session fault), o, c)
      | (.ok _, c) => (.ok (), o, c)

/-- Makes a request over a client. -/
def request (o : Order) (call : OrderCall) (c : Client) (now : Moment) :
    Except Failure Unit × Order × Client :=
  o.requestBy (fun c m => c.send m now) call c

end Order

/-- Kinds of answers an order waits for. -/
inductive Awaited where
  | ack
  | reject
  | canceled
  | replaced
  | fill
  deriving DecidableEq, Repr

namespace Awaited

def named? : String → Option Awaited
  | "ack" => some ack
  | "reject" => some reject
  | "canceled" => some canceled
  | "replaced" => some replaced
  | "fill" => some fill
  | _ => none

def criteria (o : Order) : Awaited → ReportMatch
  | ack => ⟨o.clOrdId, some .new⟩
  | reject => ⟨o.pendingClOrdId, none⟩
  | canceled => ⟨o.pendingClOrdId, some .canceled⟩
  | replaced => ⟨o.pendingClOrdId, some .replaced⟩
  | fill => ⟨o.clOrdId, none⟩

def execType? (m : Message) : Option ExecType := m.value? (.code ExecType) Tag.execType

def execTypeText (m : Message) : String := (m.get Tag.execType).getD "none"

/-- Why a report is not an answer of this kind, if it is not. -/
def mismatch? (awaited : Awaited) (id : String) (m : Message) : Option String :=
  match awaited with
  | reject =>
    if m.hasType .orderCancelReject || execType? m == some .rejected then none
    else
      let type := m.msgTypeText
      some s!"expected a reject for {id}, received MsgType {type} ExecType {execTypeText m}"
  | fill =>
    if (execType? m).any ExecType.isFill then none
    else some s!"expected an execution for {id}, received ExecType {execTypeText m}"
  | ack | canceled | replaced => none

/-- Applies the report a wait has ended with. -/
def take (awaited : Awaited) (o : Order) (m : Message) : Except OrderFault Order :=
  match awaited.mismatch? (awaited.criteria o).clOrdId m with
  | some reason => .error (.unusableReport reason)
  | none => o.applyReport m

end Awaited

end FixBench
