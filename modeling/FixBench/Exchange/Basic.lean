import FixBench.Exchange.Book
import FixBench.Link.Acceptor
import FixBench.Order.Request
import FixBench.View.Reports

/-!
# The simulated exchange

The exchange answers every order request at once. A new order is acknowledged or rejected, and, if
so configured, filled in the same breath. Requests to cancel and to replace are confirmed if they
find an open order of their own connection, and refused otherwise. A request that cannot be read is
refused before anything is changed.

Answers are computed with decimals, whose arithmetic may fail; the two-layered result keeps that
apart from a refusal.
-/
namespace FixBench.Exchange

structure Settings where
  /-- Fill every accepted order at once. -/
  autoFill : Bool
  rejectNewOrders : Bool
  rejectText : String
  deriving DecidableEq, Repr

def Settings.default : Settings := ⟨false, false, "simulated reject"⟩

structure State where
  settings : Settings
  book : Book
  ids : IdCounters
  deriving DecidableEq, Repr

/-- Messages in answer to a request, or its refusal. -/
abbrev Answer := Except RejectReason (List Message)

/-- An answer with the state after it, if the arithmetic holds. -/
abbrev Outcome := Except Decimal.ArithmeticError (Answer × State)

namespace State

def start (settings : Settings) : State := ⟨settings, .empty, .zero⟩

def order? (x : State) (orderId : String) : Option RestingOrder :=
  (x.book.find? orderId).map Entry.order

def openOrders (x : State) : Nat := x.book.openCount

end State

/-! ### Reports -/

/-- An execution report on `o` as it stands after the event. -/
def reportDraft (version : String) (o : RestingOrder) (execId : String) (execType : ExecType)
    (status : OrdStatus) : Except Decimal.ArithmeticError (Draft ExecutionReport) := do
  let leaves ← o.leavesQty
  let draft := (Draft.start ExecutionReport version).orderId o.orderId
    |>.execId execId |>.clOrdId o.clOrdId |>.execType execType |>.ordStatus status
    |>.symbol o.symbol |>.side o.side |>.ordType o.ordType |>.orderQty o.orderQty
    |>.leavesQty leaves |>.cumQty o.cumQty |>.avgPx o.avgPx
  return draft.priceIfSome o.price

/-- Why a request to cancel or replace is refused. -/
inductive CancelRefusal where
  | tooLate
  | unknownOrder
  | tooSmall
  deriving DecidableEq, Repr

def CancelRefusal.code : CancelRefusal → String
  | tooLate => "0"
  | unknownOrder => "1"
  | tooSmall => "99"

def CancelRefusal.text : CancelRefusal → String
  | tooLate => "order is closed"
  | unknownOrder => "unknown order"
  | tooSmall => "quantity not above executed quantity"

/-- The refusal of a request to cancel or replace; an order nobody knows has the identifier `NONE`
and counts as rejected. -/
def cancelReject (version : String) (o : Option RestingOrder) (clOrdId origClOrdId : String)
    (responseTo : CxlRejResponseTo) (refusal : CancelRefusal) : Except BuildFault Message := do
  let draft := (Draft.start OrderCancelReject version).orderId
      ((o.map RestingOrder.orderId).getD "NONE")
    |>.clOrdId clOrdId |>.origClOrdId origClOrdId
    |>.ordStatus ((o.map RestingOrder.status).getD .rejected)
    |>.cxlRejResponseTo responseTo |>.put Tag.cxlRejReason refusal.code |>.text refusal.text
  let reject ← draft.build
  return reject.message

/-! ### Refusals -/

/-- The refusal of a request that cannot be read. -/
def invalidRequest (fault : BuildFault) : RejectReason :=
  match fault with
  | .missingField _ tag => ⟨Reject.requiredTagMissing, fault.message, some tag⟩
  | .fieldValue tag _ => ⟨Reject.valueIncorrect, fault.message, some tag⟩
  | .wrongType _ _ => ⟨Reject.invalidMsgType, fault.message, none⟩

/-- Code of a refusal the request has no part in. -/
def internalCode : Nat := 99

def internalRefusal (fault : BuildFault) : RejectReason := ⟨internalCode, fault.message, none⟩

/-- Messages that could all be built. -/
def answerOf (built : Except BuildFault (List Message)) : Answer := built.mapError internalRefusal

/-! ### New orders -/

/-- A request as an order on the book, not yet executed. -/
def RestingOrder.ofRequest (request : NewOrderSingle) (orderId : String) : RestingOrder where
  orderId
  clOrdId := request.clOrdId
  symbol := request.symbol
  side := request.side
  ordType := request.ordType
  orderQty := request.orderQty
  price := request.price
  cumQty := .zero
  avgPx := .zero
  status := .new

/-- Why a readable new order is rejected, if it is. -/
def rejection? (x : State) (ownerId : Nat) (clOrdId : String) : Option String :=
  if x.book.hasOpen ownerId clOrdId then some "duplicate ClOrdID"
  else if x.settings.rejectNewOrders then some x.settings.rejectText
  else none

/-- Rejects a new order, which never enters the book. -/
def rejectNew (x : State) (version : String) (o : RestingOrder) (text : String) : Outcome := do
  let o := { o with status := .rejected }
  let (execId, ids) := x.ids.nextExecId
  let draft ← reportDraft version o execId .rejected .rejected
  let built := (draft.text text).build.map fun report => [report.message]
  return (answerOf built, { x with ids })

/-- Acknowledges a new order. -/
def acceptNew (x : State) (version : String) (owner : Owner) (o : RestingOrder)
    (weigh : Weighing := Averaging.weighed) : Outcome := do
  let (execId, ids) := x.ids.nextExecId
  let ack ← reportDraft version o execId .new .new
  if x.settings.autoFill then
    let px := o.price.getD .zero
    let filled ← o.execute o.orderQty px weigh
    let (fillId, ids) := ids.nextExecId
    let fill ← reportDraft version filled fillId .fill .filled
    let built := do
      let ack ← ack.build
      let fill ← ((fill.lastQty o.orderQty).lastPx px).build
      return [ack.message, fill.message]
    let book := match built with
      | .ok _ => x.book.insert filled owner
      | .error _ => x.book
    return (answerOf built, { x with ids, book })
  else
    let built := ack.build.map fun ack => [ack.message]
    let book := match built with
      | .ok _ => x.book.insert o owner
      | .error _ => x.book
    return (answerOf built, { x with ids, book })

def onNewOrder (x : State) (m : Message) (owner : Owner)
    (weigh : Weighing := Averaging.weighed) : Outcome :=
  match (MessageView.ofMessage m : Except BuildFault NewOrderSingle) with
  | .error fault => .ok (.error (invalidRequest fault), x)
  | .ok request =>
    let (orderId, ids) := x.ids.nextOrderId
    let x := { x with ids }
    let o := RestingOrder.ofRequest request orderId
    match rejection? x owner.id o.clOrdId with
    | some text => rejectNew x m.beginString o text
    | none => acceptNew x m.beginString owner o weigh

/-! ### Cancellation and replacement -/

/-- A refusal that leaves the exchange as it is. -/
def refuse (x : State) (version : String) (o : Option RestingOrder)
    (clOrdId origClOrdId : String) (responseTo : CxlRejResponseTo) (refusal : CancelRefusal) :
    Outcome :=
  let built := cancelReject version o clOrdId origClOrdId responseTo refusal
  .ok (answerOf (built.map fun m => [m]), x)

def onCancel (x : State) (m : Message) (owner : Owner) : Outcome :=
  match (MessageView.ofMessage m : Except BuildFault OrderCancelRequest) with
  | .error fault => .ok (.error (invalidRequest fault), x)
  | .ok request =>
    let refuse o := refuse x m.beginString o request.clOrdId request.origClOrdId .cancelRequest
    match x.book.locate? owner.id request.orderId request.origClOrdId with
    | none => refuse none .unknownOrder
    | some o =>
      if o.isOpen then do
        let canceled := { o with status := .canceled }
        let (execId, ids) := x.ids.nextExecId
        let draft ← reportDraft m.beginString canceled execId .canceled .canceled
        let built := ((draft.clOrdId request.clOrdId).origClOrdId o.clOrdId).build
        return (answerOf (built.map fun report => [report.message]),
          { x with ids, book := x.book.update canceled })
      else refuse (some o) .tooLate

def onReplace (x : State) (m : Message) (owner : Owner) : Outcome :=
  match (MessageView.ofMessage m : Except BuildFault OrderCancelReplaceRequest) with
  | .error fault => .ok (.error (invalidRequest fault), x)
  | .ok request =>
    let refuse o :=
      refuse x m.beginString o request.clOrdId request.origClOrdId .cancelReplaceRequest
    match x.book.locate? owner.id none request.origClOrdId with
    | none => refuse none .unknownOrder
    | some o =>
      if !o.isOpen then refuse (some o) .tooLate
      else if o.cumQty < request.orderQty then do
        let replaced :=
          { o with
            clOrdId := request.clOrdId
            orderQty := request.orderQty
            ordType := request.ordType
            price := request.price.or o.price }
        let (execId, ids) := x.ids.nextExecId
        let draft ← reportDraft m.beginString replaced execId .replaced .replaced
        let built := (draft.origClOrdId o.clOrdId).build
        let book := (x.book.update replaced).point owner.id request.clOrdId o.orderId
        return (answerOf (built.map fun report => [report.message]), { x with ids, book })
      else refuse (some o) .tooSmall

/-! ### The application -/

def notAccepted (type : MsgType) : RejectReason where
  code := Reject.invalidMsgType
  text := s!"simulator does not accept MsgType {type.text}"
  refTag := some Tag.msgType

def onMessage (x : State) (m : Message) (owner : Owner) (weigh : Weighing := Averaging.weighed) :
    Outcome :=
  match m.msgType with
  | .newOrderSingle => onNewOrder x m owner weigh
  | .orderCancelRequest => onCancel x m owner
  | .orderCancelReplaceRequest => onReplace x m owner
  | .reject => .ok (.ok [], x)
  | other => .ok (.error (notAccepted other), x)

def onLogout (x : State) (ownerId : Nat) : State := { x with book := x.book.removeOwner ownerId }

def ownerOf (c : Connection) : Owner := ⟨c.id, c.sessionId.version⟩

/-- The exchange behind an acceptor. A request whose quantities leave the range of decimals is
refused as an internal matter. -/
def application : Application State where
  onLogon _ x := x
  onLogout c x := onLogout x c.id
  onMessage m c x :=
    match onMessage x m (ownerOf c) with
    | .ok result => result
    | .error fault => (.error ⟨internalCode, fault.message, none⟩, x)

end FixBench.Exchange
