import FixBench.Exchange.Basic

/-!
# Unsolicited fills

An exchange may execute an open order at any time. The order is executed first, then the report is
built, then it is sent to the connection that owns the order.
-/
namespace FixBench.Exchange

inductive FillFault where
  | unknownOrder (orderId : String)
  | orderClosed (orderId : String) (status : OrdStatus)
  | invalidQty (orderId : String) (qty leaves : Decimal)
  | build (fault : BuildFault)
  | session (fault : SessionFault)
  deriving DecidableEq, Repr

def FillFault.message : FillFault → String
  | unknownOrder orderId => s!"unknown order {orderId}"
  | orderClosed orderId status => s!"order {orderId} is closed with status {CodeSet.text status}"
  | invalidQty orderId qty leaves =>
    s!"invalid fill quantity {qty} for order {orderId} with {leaves} open"
  | build fault => fault.message
  | session fault => fault.message

/-- Short name of the cause, after that of the part it comes from. -/
def FillFault.name : FillFault → String
  | unknownOrder _ => "UnknownOrder"
  | orderClosed .. => "OrderClosed"
  | invalidQty .. => "InvalidFillQty"
  | build fault => "Build." ++ fault.name
  | session fault => "Session." ++ fault.name

/-- Executes an order and builds the report for its owner. -/
def executeFill (x : State) (orderId : String) (qty px : Decimal)
    (weigh : Weighing := Averaging.weighed) :
    Except Decimal.ArithmeticError (Except FillFault (Message × Owner) × State) :=
  match x.book.find? orderId with
  | none => .ok (.error (.unknownOrder orderId), x)
  | some entry =>
    if !entry.order.isOpen then
      .ok (.error (.orderClosed orderId entry.order.status), x)
    else do
      let leaves ← entry.order.leavesQty
      if qty ≤ .zero ∨ leaves < qty then
        return (.error (.invalidQty orderId qty leaves), x)
      else
        let order ← entry.order.execute qty px weigh
        let (execId, ids) := x.ids.nextExecId
        let execType := if order.isOpen then ExecType.partialFill else .fill
        let draft ← reportDraft entry.owner.version order execId execType order.status
        let x := { x with ids, book := x.book.update order }
        match ((draft.lastQty qty).lastPx px).build with
        | .ok report => return (.ok (report.message, entry.owner), x)
        | .error fault => return (.error (.build fault), x)

/-- An exchange together with the connections its clients are on. -/
structure Venue where
  exchange : State
  connections : List Connection
  deriving DecidableEq, Repr

namespace Venue

def connection? (v : Venue) (id : Nat) : Option Connection := v.connections.find? (·.id == id)

def setConnection (v : Venue) (c : Connection) : Venue :=
  { v with connections := v.connections.map fun other => if other.id = c.id then c else other }

/-- Sends a report to its owner; an owner that is gone cannot be sent anything. -/
def push (v : Venue) (report : Message) (owner : Owner) (now : Moment) :
    Except FillFault Nat × Venue :=
  match v.connection? owner.id with
  | none => (.error (.session .disconnected), v)
  | some c =>
    let (result, c) := c.send report now
    (result.mapError .session, v.setConnection c)

/-- Executes an order and tells its owner; gives the number of the report. -/
def fill (v : Venue) (orderId : String) (qty px : Decimal) (now : Moment) :
    Except Decimal.ArithmeticError (Except FillFault Nat × Venue) := do
  let (result, exchange) ← executeFill v.exchange orderId qty px
  let v := { v with exchange }
  match result with
  | .error fault => return (.error fault, v)
  | .ok (report, owner) => return v.push report owner now

/-- Gives the exchange a message, without sending the answer. -/
def message (v : Venue) (m : Message) (c : Connection) :
    Except Decimal.ArithmeticError (Answer × Venue) := do
  let (answer, exchange) ← onMessage v.exchange m (ownerOf c)
  return (answer, { v with exchange })

def logout (v : Venue) (ownerId : Nat) : Venue :=
  { v with exchange := onLogout v.exchange ownerId }

end Venue

end FixBench.Exchange
