import FixBench.Exchange.Fill
import FixBench.Proofs.View.Reading

/-!
# What the exchange tells

Whatever happens to an order, its owner is told how the order stands, together with what is
particular to the occasion. A `Notice` is the content of such a report. Its message can always be
built, and it has a view with the notice's own values (`Notice.build_draft`), so the exchange never
has to refuse a request for want of a report. The same is true of the refusals of requests to cancel
or replace.
-/
namespace FixBench.Exchange

/-- What a report is made for, and what it adds to the standing of the order. -/
inductive Occasion where
  | rejected (text : String)
  | acknowledged
  | executed (qty px : Decimal)
  /-- The request to cancel goes under an identifier of its own. -/
  | canceled (request : String)
  /-- The order has had another identifier before. -/
  | replaced (former : String)

structure Notice where
  version : String
  order : RestingOrder
  leaves : Decimal
  execId : String
  occasion : Occasion

namespace Notice

def execType (n : Notice) : ExecType :=
  match n.occasion with
  | .rejected _ => .rejected
  | .acknowledged => .new
  | .executed .. => if n.order.isOpen then .partialFill else .fill
  | .canceled _ => .canceled
  | .replaced _ => .replaced

def ordStatus (n : Notice) : OrdStatus :=
  match n.occasion with
  | .rejected _ => .rejected
  | .acknowledged => .new
  | .executed .. => n.order.status
  | .canceled _ => .canceled
  | .replaced _ => .replaced

/-- The identifier the owner knows the report by. -/
def clOrdId (n : Notice) : String :=
  match n.occasion with
  | .canceled request => request
  | _ => n.order.clOrdId

/-- The report as far as it does not depend on the occasion. -/
def standing (n : Notice) : Draft ExecutionReport :=
  let draft := (Draft.start ExecutionReport n.version).orderId n.order.orderId
    |>.execId n.execId |>.clOrdId n.order.clOrdId |>.execType n.execType |>.ordStatus n.ordStatus
    |>.symbol n.order.symbol |>.side n.order.side |>.ordType n.order.ordType
    |>.orderQty n.order.orderQty |>.leavesQty n.leaves |>.cumQty n.order.cumQty
    |>.avgPx n.order.avgPx
  draft.priceIfSome n.order.price

def draft (n : Notice) : Draft ExecutionReport :=
  match n.occasion with
  | .rejected text => n.standing.text text
  | .acknowledged => n.standing
  | .executed qty px => (n.standing.lastQty qty).lastPx px
  | .canceled request => (n.standing.clOrdId request).origClOrdId n.order.clOrdId
  | .replaced former => n.standing.origClOrdId former

def message (n : Notice) : Message := n.draft.message

/-- The values in the report, decimals as their texts give them back. -/
def view (n : Notice) : ExecutionReport where
  message := n.message
  orderId := n.order.orderId
  execId := n.execId
  clOrdId := n.clOrdId
  symbol := n.order.symbol
  execType := n.execType
  ordStatus := n.ordStatus
  side := n.order.side
  leavesQty := n.leaves.plain
  cumQty := n.order.cumQty.plain
  avgPx := n.order.avgPx.plain

theorem reportDraft_eq (n : Notice) (known : n.order.leavesQty = .ok n.leaves) :
    reportDraft n.version n.order n.execId n.execType n.ordStatus = .ok n.standing := by
  rw [reportDraft, known]
  rfl

theorem build_draft (n : Notice) : n.draft.build = .ok n.view := by
  obtain ⟨version, order, leaves, execId, occasion⟩ := n
  cases occasion <;>
    apply ExecutionReport.ofMessage_of_get <;>
    simp +decide [draft, standing, clOrdId, MessageView.type]

theorem ofMessage_message (n : Notice) : MessageView.ofMessage n.message = .ok n.view :=
  n.build_draft

/-! ### Fields of the message -/

theorem get_msgType (n : Notice) : n.message.get Tag.msgType = some MsgType.executionReport.text := by
  obtain ⟨version, order, leaves, execId, occasion⟩ := n
  cases occasion <;> simp +decide [message, draft, standing, MessageView.type]

theorem get_clOrdId (n : Notice) : n.message.get Tag.clOrdId = some n.clOrdId := by
  obtain ⟨version, order, leaves, execId, occasion⟩ := n
  cases occasion <;> simp +decide [message, draft, standing, clOrdId]

theorem get_orderQty (n : Notice) :
    n.message.get Tag.orderQty = (some n.order.orderQty).map Decimal.toText := by
  obtain ⟨version, order, leaves, execId, occasion⟩ := n
  cases occasion <;> simp +decide [message, draft, standing]

theorem get_price (n : Notice) :
    n.message.get Tag.price = n.order.price.map Decimal.toText := by
  obtain ⟨version, order, leaves, execId, occasion⟩ := n
  cases occasion <;> simp +decide [message, draft, standing]

/-- Quantity and price of an execution. -/
theorem get_last (version : String) (order : RestingOrder) (leaves : Decimal) (execId : String)
    (qty px : Decimal) :
    (Notice.mk version order leaves execId (.executed qty px)).message.get Tag.lastQty =
        (some qty).map Decimal.toText ∧
      (Notice.mk version order leaves execId (.executed qty px)).message.get Tag.lastPx =
        (some px).map Decimal.toText := by
  constructor <;> simp +decide [message, draft]

end Notice

/-! ### Decimals of the view -/

theorem lastQty_view (version : String) (order : RestingOrder) (leaves : Decimal) (execId : String)
    (qty px : Decimal) :
    (Notice.mk version order leaves execId (.executed qty px)).view.lastQty = some qty.plain :=
  Message.value?_decimal_of_get (Notice.get_last ..).1

theorem lastPx_view (version : String) (order : RestingOrder) (leaves : Decimal) (execId : String)
    (qty px : Decimal) :
    (Notice.mk version order leaves execId (.executed qty px)).view.lastPx = some px.plain :=
  Message.value?_decimal_of_get (Notice.get_last ..).2

theorem orderQty_view (n : Notice) : n.view.orderQty = some n.order.orderQty.plain :=
  Message.value?_decimal_of_get n.get_orderQty

theorem price_view (n : Notice) : n.view.price = n.order.price.map Decimal.plain :=
  Message.value?_decimal_of_get n.get_price

/-! ### Refusals of requests to cancel or replace -/

/-- A refused request to cancel or replace. -/
structure Refused where
  version : String
  order : Option RestingOrder
  clOrdId : String
  origClOrdId : String
  responseTo : CxlRejResponseTo
  refusal : CancelRefusal

namespace Refused

def draft (n : Refused) : Draft OrderCancelReject :=
  (Draft.start OrderCancelReject n.version).orderId
      ((n.order.map RestingOrder.orderId).getD "NONE")
    |>.clOrdId n.clOrdId |>.origClOrdId n.origClOrdId
    |>.ordStatus ((n.order.map RestingOrder.status).getD .rejected)
    |>.cxlRejResponseTo n.responseTo |>.put Tag.cxlRejReason n.refusal.code
    |>.text n.refusal.text

def message (n : Refused) : Message := n.draft.message

theorem cancelReject_eq (n : Refused) :
    cancelReject n.version n.order n.clOrdId n.origClOrdId n.responseTo n.refusal =
      .ok n.message := by
  have builds : n.draft.build = .ok (⟨n.message, (n.order.map RestingOrder.orderId).getD "NONE",
      n.clOrdId, n.origClOrdId, (n.order.map RestingOrder.status).getD .rejected,
      n.responseTo⟩ : OrderCancelReject) := by
    apply OrderCancelReject.ofMessage_of_get <;> simp +decide [draft, MessageView.type]
  show (do let reject ← n.draft.build; return reject.message : Except BuildFault Message) = _
  rw [builds]
  rfl

theorem get_msgType (n : Refused) :
    n.message.get Tag.msgType = some MsgType.orderCancelReject.text := by
  simp +decide [message, draft, MessageView.type]

theorem get_clOrdId (n : Refused) : n.message.get Tag.clOrdId = some n.clOrdId := by
  simp +decide [message, draft]

end Refused

end FixBench.Exchange
