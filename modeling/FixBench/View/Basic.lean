import FixBench.Protocol.Message

/-!
# Typed views

A view is a message together with the values read from it. A message has a view of one kind when
its type is that kind's, it carries every required tag, and the values the view depends on can be
read; the first of these conditions that fails, in this order, is the fault.

A `Draft` is a message on its way to a view of a known kind, filled in field by field.
-/
namespace FixBench

class MessageView (V : Type) where
  type : MsgType
  required : List Tag
  /-- Reads the values, in a message of the right type with all required tags. -/
  read : Message → Except BuildFault V
  message : V → Message

namespace Message

/-- Text under a tag that is known to be there. -/
def text (m : Message) (tag : Tag) : String := (m.get tag).getD ""

/-- A value the view cannot do without. -/
def value {α : Type} (m : Message) (format : ValueFormat α) (tag : Tag) : Except BuildFault α :=
  match m.getAs format tag with
  | .ok value => .ok value
  | .error fault => .error (.fieldValue tag fault.message)

/-- A value that may be absent, but not malformed. -/
def optionalValue {α : Type} (m : Message) (format : ValueFormat α) (tag : Tag) :
    Except BuildFault (Option α) :=
  match m.getOptional format tag with
  | .ok value => .ok value
  | .error fault => .error (.fieldValue tag fault.message)

/-- A value that counts as absent when it is malformed. -/
def value? {α : Type} (m : Message) (format : ValueFormat α) (tag : Tag) : Option α :=
  (m.get tag).bind format.read?

end Message

namespace MessageView

variable {V : Type} [MessageView V]

def ofMessage (m : Message) : Except BuildFault V :=
  if m.get Tag.msgType ≠ some (type V).text then
    .error (.wrongType (type V).text m.msgTypeText)
  else
    match (required V).find? fun tag => !m.contains tag with
    | some tag => .error (.missingField (type V).text tag)
    | none => read m

end MessageView

/-- The version of messages that are not given another. -/
def Message.defaultVersion : String := "FIX.4.4"

structure Draft (V : Type) where
  message : Message

namespace Draft

variable {V : Type}

def start (V : Type) [MessageView V] (version : String) : Draft V :=
  ⟨Message.ofType version (MessageView.type V)⟩

def put (d : Draft V) (tag : Tag) (text : String) : Draft V := ⟨d.message.set tag text⟩

def putCode {α : Type} [CodeSet α] (d : Draft V) (tag : Tag) (code : α) : Draft V :=
  d.put tag (CodeSet.text code)

def putDecimal (d : Draft V) (tag : Tag) (value : Decimal) : Draft V := d.put tag value.toText

def putNat (d : Draft V) (tag : Tag) (value : Nat) : Draft V := d.put tag (toString value)

def clOrdId (d : Draft V) (id : String) : Draft V := d.put Tag.clOrdId id
def origClOrdId (d : Draft V) (id : String) : Draft V := d.put Tag.origClOrdId id
def orderId (d : Draft V) (id : String) : Draft V := d.put Tag.orderId id
def execId (d : Draft V) (id : String) : Draft V := d.put Tag.execId id
def symbol (d : Draft V) (symbol : String) : Draft V := d.put Tag.symbol symbol
def side (d : Draft V) (side : Side) : Draft V := d.putCode Tag.side side
def ordType (d : Draft V) (type : OrdType) : Draft V := d.putCode Tag.ordType type
def orderQty (d : Draft V) (qty : Decimal) : Draft V := d.putDecimal Tag.orderQty qty
def price (d : Draft V) (price : Decimal) : Draft V := d.putDecimal Tag.price price
def execType (d : Draft V) (type : ExecType) : Draft V := d.putCode Tag.execType type
def ordStatus (d : Draft V) (status : OrdStatus) : Draft V := d.putCode Tag.ordStatus status
def leavesQty (d : Draft V) (qty : Decimal) : Draft V := d.putDecimal Tag.leavesQty qty
def cumQty (d : Draft V) (qty : Decimal) : Draft V := d.putDecimal Tag.cumQty qty
def avgPx (d : Draft V) (px : Decimal) : Draft V := d.putDecimal Tag.avgPx px
def lastQty (d : Draft V) (qty : Decimal) : Draft V := d.putDecimal Tag.lastQty qty
def lastPx (d : Draft V) (px : Decimal) : Draft V := d.putDecimal Tag.lastPx px
def text (d : Draft V) (text : String) : Draft V := d.put Tag.text text
def heartBtInt (d : Draft V) (seconds : Nat) : Draft V := d.putNat Tag.heartBtInt seconds
def testReqId (d : Draft V) (id : String) : Draft V := d.put Tag.testReqId id
def refSeqNum (d : Draft V) (seq : Nat) : Draft V := d.putNat Tag.refSeqNum seq
def refMsgType (d : Draft V) (type : String) : Draft V := d.put Tag.refMsgType type
def sessionRejectReason (d : Draft V) (reason : Nat) : Draft V :=
  d.putNat Tag.sessionRejectReason reason
def cxlRejResponseTo (d : Draft V) (request : CxlRejResponseTo) : Draft V :=
  d.putCode Tag.cxlRejResponseTo request

def build [MessageView V] (d : Draft V) : Except BuildFault V := MessageView.ofMessage d.message

end Draft

end FixBench
