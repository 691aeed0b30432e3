import FixBench.Order.Request
import FixBench.Proofs.Decimal.Text
import FixBench.Proofs.Failing
import FixBench.Proofs.Protocol.Message
import FixBench.View.Reports

/-!
# Reading what was written into a view

A view is read by looking up tags, so what it gives depends only on the texts under them. A message
that carries the texts of values has a view of these values, decimals up to the sign of a zero; each
view has one statement that says so. The other way round, a view tells what its message carries, and
a message of the right type that has no view is at fault in one of its fields.
-/
namespace FixBench

/-! ### Codes -/

/-- Every code of the set is found under its own character. -/
class LawfulCodeSet (α : Type) [CodeSet α] : Prop where
  ofChar?_char : ∀ code : α, CodeSet.ofChar? (CodeSet.char code) = some code

instance : LawfulCodeSet Side := ⟨fun code => by cases code <;> rfl⟩
instance : LawfulCodeSet OrdType := ⟨fun code => by cases code <;> rfl⟩
instance : LawfulCodeSet ExecType := ⟨fun code => by cases code <;> rfl⟩
instance : LawfulCodeSet OrdStatus := ⟨fun code => by cases code <;> rfl⟩
instance : LawfulCodeSet CxlRejResponseTo := ⟨fun code => by cases code <;> rfl⟩

theorem CodeSet.ofText?_text {α : Type} [CodeSet α] [LawfulCodeSet α] (code : α) :
    ofText? (text code) = some code := by
  rw [ofText?, text, String.toList_singleton]
  exact LawfulCodeSet.ofChar?_char code

/-! ### Types of messages -/

theorem MsgType.text_ofText (text : String) : (MsgType.ofText text).text = text := by
  unfold MsgType.ofText
  split <;> rfl

namespace Message

theorem contains_eq (m : Message) (tag : Tag) : m.contains tag = (m.get tag).isSome := by
  rw [contains, get]
  induction m.fields with
  | nil => rfl
  | cons field rest ih =>
    rw [List.any_cons, ih, lookup]
    by_cases here : field.tag = tag <;> simp [here]

theorem get_msgType {m : Message} {type : MsgType} (known : type.text ≠ "") (typed : m.msgType = type) :
    m.get Tag.msgType = some type.text := by
  have text : m.msgTypeText = type.text := by
    rw [← typed, msgType, MsgType.text_ofText]
  rw [msgTypeText] at text
  cases found : m.get Tag.msgType with
  | none =>
    rw [found] at text
    exact absurd text.symm known
  | some written =>
    rw [found] at text
    exact congrArg some text

theorem msgType_of_get {m : Message} {text : String} (found : m.get Tag.msgType = some text) :
    m.msgType = .ofText text := by
  rw [msgType, msgTypeText, found]
  rfl

/-! ### Values -/

variable {m : Message} {tag : Tag} {text : String}

theorem text_of_get (found : m.get tag = some text) : m.text tag = text := by
  rw [Message.text, found]
  rfl

theorem value_of_get {α : Type} {format : ValueFormat α} {value : α} (found : m.get tag = some text)
    (reads : format.read? text = some value) : m.value format tag = .ok value := by
  simp [Message.value, getAs, found, ValueFormat.read, reads]

theorem optionalValue_of_get {α : Type} {format : ValueFormat α} {text : Option String}
    {value : Option α} (found : m.get tag = text) (reads : text.map format.read? = value.map some) :
    m.optionalValue format tag = .ok value := by
  rw [optionalValue, getOptional, found]
  cases text with
  | none =>
    cases value with
    | none => rfl
    | some value => cases reads
  | some text =>
    cases value with
    | none => cases reads
    | some value =>
      have reads : format.read? text = some value := Option.some.inj reads
      simp [ValueFormat.read, reads, Except.map]

theorem value_code_of_get {α : Type} [CodeSet α] [LawfulCodeSet α] {code : α}
    (found : m.get tag = some (CodeSet.text code)) : m.value (.code α) tag = .ok code :=
  value_of_get found (CodeSet.ofText?_text code)

theorem value_decimal_of_get {a : Decimal} (found : m.get tag = some a.toText) :
    m.value .decimal tag = .ok a.plain :=
  value_of_get found a.ofText?_toText

theorem optionalValue_decimal_of_get {a : Option Decimal} (found : m.get tag = a.map Decimal.toText) :
    m.optionalValue .decimal tag = .ok (a.map Decimal.plain) := by
  refine optionalValue_of_get found ?_
  cases a with
  | none => rfl
  | some a => exact congrArg some a.ofText?_toText

theorem value?_decimal_of_get {a : Option Decimal} (found : m.get tag = a.map Decimal.toText) :
    m.value? .decimal tag = a.map Decimal.plain := by
  rw [value?, found]
  cases a with
  | none => rfl
  | some a => exact a.ofText?_toText

/-- A value that cannot be read is a fault of the field it was to come from. -/
theorem value_fault {α : Type} {format : ValueFormat α} {fault : BuildFault}
    (refused : m.value format tag = .error fault) : ∃ reason, fault = .fieldValue tag reason := by
  rw [Message.value] at refused
  split at refused
  · cases refused
  · cases refused
    exact ⟨_, rfl⟩

theorem optionalValue_fault {α : Type} {format : ValueFormat α} {fault : BuildFault}
    (refused : m.optionalValue format tag = .error fault) :
    ∃ reason, fault = .fieldValue tag reason := by
  rw [optionalValue] at refused
  split at refused
  · cases refused
  · cases refused
    exact ⟨_, rfl⟩

end Message

/-! ### Views -/

/-- A fault of a single field: it is missing or its value is. -/
def BuildFault.IsOfField : BuildFault → Prop
  | .missingField .. | .fieldValue .. => True
  | .wrongType .. => False

/-- What may be wrong with an order request: a field is missing, or one of the values that an order
is made of cannot be read. -/
inductive Message.OrderFault (m : Message) : BuildFault → Prop
  | missing {type : String} (typed : m.get Tag.msgType = some type) (tag : Tag) :
      m.OrderFault (.missingField type tag)
  | ordType {fault : BuildFault} :
      m.value (.code OrdType) Tag.ordType = .error fault → m.OrderFault fault
  | side {fault : BuildFault} : m.value (.code Side) Tag.side = .error fault → m.OrderFault fault
  | orderQty {fault : BuildFault} :
      m.value .decimal Tag.orderQty = .error fault → m.OrderFault fault
  | price {fault : BuildFault} :
      m.optionalValue .decimal Tag.price = .error fault → m.OrderFault fault

theorem Message.OrderFault.isOfField {m : Message} {fault : BuildFault}
    (wrong : m.OrderFault fault) : fault.IsOfField := by
  cases wrong with
  | missing => trivial
  | ordType refused | side refused | orderQty refused =>
    obtain ⟨_, rfl⟩ := Message.value_fault refused
    trivial
  | price refused =>
    obtain ⟨_, rfl⟩ := Message.optionalValue_fault refused
    trivial

namespace MessageView

variable {V : Type} [MessageView V]

theorem ofMessage_eq_ok_iff (m : Message) (view : V) :
    ofMessage m = .ok view ↔
      m.get Tag.msgType = some (type V).text ∧ (∀ tag ∈ required V, (m.get tag).isSome = true) ∧
        read m = .ok view := by
  unfold ofMessage
  split
  · rename_i other
    simp [other]
  · rename_i typed
    rw [not_not] at typed
    split
    · rename_i tag missing
      have lacks := List.find?_some missing
      have needed := List.mem_of_find?_eq_some missing
      rw [Message.contains_eq, Bool.not_eq_true'] at lacks
      constructor
      · intro read
        cases read
      · rintro ⟨-, complete, -⟩
        rw [complete tag needed] at lacks
        cases lacks
    · rename_i complete
      rw [List.find?_eq_none] at complete
      have complete : ∀ tag ∈ required V, (m.get tag).isSome = true := by
        intro tag needed
        have present := complete tag needed
        rwa [Bool.not_eq_true', Bool.not_eq_false, Message.contains_eq] at present
      exact ⟨fun read => ⟨typed, complete, read⟩, fun ⟨_, _, read⟩ => read⟩

/-- A message of the right type without a view lacks a field, or one of its values cannot be read. -/
theorem fault_of_ofMessage {m : Message} {fault : BuildFault}
    (typed : m.get Tag.msgType = some (type V).text)
    (refused : (ofMessage m : Except BuildFault V) = .error fault) :
    (∃ tag, fault = .missingField (type V).text tag) ∨
      (read m : Except BuildFault V) = .error fault := by
  rw [ofMessage, if_neg (not_not.mpr typed)] at refused
  split at refused
  · cases refused
    exact .inl ⟨_, rfl⟩
  · exact .inr refused

theorem msgType_of_ofMessage {m : Message} {view : V}
    (reads : ofMessage m = .ok view) : m.msgType = .ofText (type V).text :=
  Message.msgType_of_get ((ofMessage_eq_ok_iff ..).mp reads).1

/-- A required text of a view is what its message carries. -/
theorem get_of_ofMessage {m : Message} {view : V} (reads : ofMessage m = .ok view) (tag : Tag)
    (needed : tag ∈ required V) :
    m.get tag = some (m.text tag) := by
  obtain ⟨text, found⟩ := Option.isSome_iff_exists.mp (((ofMessage_eq_ok_iff ..).mp reads).2.1 _ needed)
  rw [found, Message.text_of_get found]

end MessageView

open MessageView

/-! ### Drafts -/

namespace Draft

variable {V : Type}

@[simp]
theorem get_start [MessageView V] (version : String) (tag : Tag) :
    (start V version).message.get tag = if Tag.msgType = tag then some (type V).text else none :=
  rfl

@[simp]
theorem get_put (d : Draft V) (tag other : Tag) (text : String) :
    (d.put tag text).message.get other = if tag = other then some text else d.message.get other :=
  Message.lookup_put ..

theorem get_priceIfSome (d : Draft V) (price : Option Decimal) (other : Tag) :
    (d.priceIfSome price).message.get other =
      if Tag.price = other then (price.map Decimal.toText).or (d.message.get other)
      else d.message.get other := by
  cases price with
  | none => simp [priceIfSome]
  | some px => exact get_put d ..

theorem get_orderIdIfSome (d : Draft V) (orderId : Option String) (other : Tag) :
    (d.orderIdIfSome orderId).message.get other =
      if Tag.orderId = other then orderId.or (d.message.get other) else d.message.get other := by
  cases orderId with
  | none => simp [orderIdIfSome]
  | some id => exact get_put d ..

attribute [simp] putCode putDecimal clOrdId origClOrdId orderId execId symbol side ordType orderQty
  price execType ordStatus leavesQty cumQty avgPx lastQty lastPx text cxlRejResponseTo
  get_priceIfSome get_orderIdIfSome

end Draft

/-! ### Order requests -/

theorem NewOrderSingle.ofMessage_of_get {m : Message} {clOrdId symbol : String} {side : Side}
    {ordType : OrdType} {orderQty : Decimal} {price : Option Decimal}
    (typed : m.get Tag.msgType = some MsgType.newOrderSingle.text)
    (id : m.get Tag.clOrdId = some clOrdId) (named : m.get Tag.symbol = some symbol)
    (sided : m.get Tag.side = some (CodeSet.text side))
    (kind : m.get Tag.ordType = some (CodeSet.text ordType))
    (qty : m.get Tag.orderQty = some orderQty.toText)
    (px : m.get Tag.price = price.map Decimal.toText)
    (priced : ordType.requiresPrice = true → price.isSome = true) :
    ofMessage m =
      .ok (⟨m, clOrdId, symbol, side, ordType, orderQty.plain, price.map Decimal.plain⟩ :
        NewOrderSingle) := by
  rw [ofMessage_eq_ok_iff]
  refine ⟨typed, by simp [required, id, named, sided, kind, qty], ?_⟩
  have present : (ordType.requiresPrice && !m.contains Tag.price) = false := by
    rw [Message.contains_eq, px, Option.isSome_map]
    cases needed : ordType.requiresPrice with
    | false => rfl
    | true => rw [priced needed]; rfl
  show NewOrderSingle.read m = _
  simp [NewOrderSingle.read, bind, Except.bind, pure, Except.pure, Message.value_code_of_get kind,
    present, Message.value_code_of_get sided, Message.value_decimal_of_get qty,
    Message.optionalValue_decimal_of_get px, Message.text_of_get id, Message.text_of_get named]

/-- The texts of a new order are those its message carries. -/
theorem NewOrderSingle.carried {m : Message} {request : NewOrderSingle}
    (reads : ofMessage m = .ok request) :
    m.get Tag.clOrdId = some request.clOrdId ∧ m.get Tag.symbol = some request.symbol := by
  have id := get_of_ofMessage reads Tag.clOrdId (by simp [required])
  have symbol := get_of_ofMessage reads Tag.symbol (by simp [required])
  have values : NewOrderSingle.read m = .ok request := ((ofMessage_eq_ok_iff ..).mp reads).2.2
  rw [NewOrderSingle.read, bind_eq_ok_iff] at values
  obtain ⟨ordType, -, values⟩ := values
  split at values
  · cases values
  · simp only [bind_eq_ok_iff] at values
    obtain ⟨_, -, _, -, _, -, made⟩ := values
    cases made
    exact ⟨id, symbol⟩

theorem NewOrderSingle.get_clOrdId {m : Message} {request : NewOrderSingle}
    (reads : ofMessage m = .ok request) : m.get Tag.clOrdId = some request.clOrdId :=
  (carried reads).1

theorem NewOrderSingle.orderFault {m : Message} {fault : BuildFault}
    (typed : m.get Tag.msgType = some MsgType.newOrderSingle.text)
    (refused : (ofMessage m : Except BuildFault NewOrderSingle) = .error fault) :
    m.OrderFault fault := by
  obtain ⟨tag, rfl⟩ | refused := fault_of_ofMessage typed refused
  · exact .missing typed tag
  change NewOrderSingle.read m = .error fault at refused
  rw [NewOrderSingle.read, bind_eq_error_iff] at refused
  obtain kind | ⟨ordType, -, refused⟩ := refused
  · exact .ordType kind
  · split at refused
    · cases refused
      exact .missing typed Tag.price
    · simp only [bind_eq_error_iff] at refused
      obtain side | ⟨_, -, qty | ⟨_, -, price | ⟨_, -, made⟩⟩⟩ := refused
      · exact .side side
      · exact .orderQty qty
      · exact .price price
      · cases made

theorem OrderCancelRequest.ofMessage_of_get {m : Message} {origClOrdId clOrdId symbol : String}
    {side : Side} {orderId : Option String}
    (typed : m.get Tag.msgType = some MsgType.orderCancelRequest.text)
    (orig : m.get Tag.origClOrdId = some origClOrdId) (id : m.get Tag.clOrdId = some clOrdId)
    (named : m.get Tag.symbol = some symbol) (sided : m.get Tag.side = some (CodeSet.text side))
    (order : m.get Tag.orderId = orderId) :
    ofMessage m = .ok (⟨m, origClOrdId, clOrdId, symbol, side, orderId⟩ : OrderCancelRequest) := by
  rw [ofMessage_eq_ok_iff]
  refine ⟨typed, by simp [required, orig, id, named, sided], ?_⟩
  show OrderCancelRequest.read m = _
  simp [OrderCancelRequest.read, bind, Except.bind, pure, Except.pure,
    Message.value_code_of_get sided, Message.text_of_get orig, Message.text_of_get id,
    Message.text_of_get named, order]

theorem OrderCancelRequest.carried {m : Message} {request : OrderCancelRequest}
    (reads : ofMessage m = .ok request) :
    m.get Tag.clOrdId = some request.clOrdId ∧ m.get Tag.origClOrdId = some request.origClOrdId := by
  have id := get_of_ofMessage reads Tag.clOrdId (by simp [required])
  have orig := get_of_ofMessage reads Tag.origClOrdId (by simp [required])
  have values : OrderCancelRequest.read m = .ok request := ((ofMessage_eq_ok_iff ..).mp reads).2.2
  simp only [OrderCancelRequest.read, bind_eq_ok_iff] at values
  obtain ⟨_, -, made⟩ := values
  cases made
  exact ⟨id, orig⟩

theorem OrderCancelRequest.get_clOrdId {m : Message} {request : OrderCancelRequest}
    (reads : ofMessage m = .ok request) : m.get Tag.clOrdId = some request.clOrdId :=
  (carried reads).1

theorem OrderCancelRequest.orderFault {m : Message} {fault : BuildFault}
    (typed : m.get Tag.msgType = some MsgType.orderCancelRequest.text)
    (refused : (ofMessage m : Except BuildFault OrderCancelRequest) = .error fault) :
    m.OrderFault fault := by
  obtain ⟨tag, rfl⟩ | refused := fault_of_ofMessage typed refused
  · exact .missing typed tag
  change OrderCancelRequest.read m = .error fault at refused
  simp only [OrderCancelRequest.read, bind_eq_error_iff] at refused
  obtain side | ⟨_, -, made⟩ := refused
  · exact .side side
  · cases made

theorem OrderCancelReplaceRequest.ofMessage_of_get {m : Message}
    {origClOrdId clOrdId symbol : String} {side : Side} {ordType : OrdType} {orderQty : Decimal}
    {price : Option Decimal}
    (typed : m.get Tag.msgType = some MsgType.orderCancelReplaceRequest.text)
    (orig : m.get Tag.origClOrdId = some origClOrdId) (id : m.get Tag.clOrdId = some clOrdId)
    (named : m.get Tag.symbol = some symbol) (sided : m.get Tag.side = some (CodeSet.text side))
    (kind : m.get Tag.ordType = some (CodeSet.text ordType))
    (qty : m.get Tag.orderQty = some orderQty.toText)
    (px : m.get Tag.price = price.map Decimal.toText) :
    ofMessage m =
      .ok (⟨m, origClOrdId, clOrdId, symbol, side, ordType, orderQty.plain,
        price.map Decimal.plain⟩ : OrderCancelReplaceRequest) := by
  rw [ofMessage_eq_ok_iff]
  refine ⟨typed, by simp [required, orig, id, named, sided, kind, qty], ?_⟩
  show OrderCancelReplaceRequest.read m = _
  simp [OrderCancelReplaceRequest.read, bind, Except.bind, pure, Except.pure,
    Message.value_code_of_get sided, Message.value_code_of_get kind,
    Message.value_decimal_of_get qty, Message.optionalValue_decimal_of_get px,
    Message.text_of_get orig, Message.text_of_get id, Message.text_of_get named]

theorem OrderCancelReplaceRequest.carried {m : Message} {request : OrderCancelReplaceRequest}
    (reads : ofMessage m = .ok request) :
    m.get Tag.clOrdId = some request.clOrdId ∧ m.get Tag.origClOrdId = some request.origClOrdId := by
  have id := get_of_ofMessage reads Tag.clOrdId (by simp [required])
  have orig := get_of_ofMessage reads Tag.origClOrdId (by simp [required])
  have values : OrderCancelReplaceRequest.read m = .ok request :=
    ((ofMessage_eq_ok_iff ..).mp reads).2.2
  simp only [OrderCancelReplaceRequest.read, bind_eq_ok_iff] at values
  obtain ⟨_, -, _, -, _, -, _, -, made⟩ := values
  cases made
  exact ⟨id, orig⟩

theorem OrderCancelReplaceRequest.get_clOrdId {m : Message} {request : OrderCancelReplaceRequest}
    (reads : ofMessage m = .ok request) : m.get Tag.clOrdId = some request.clOrdId :=
  (carried reads).1

theorem OrderCancelReplaceRequest.orderFault {m : Message} {fault : BuildFault}
    (typed : m.get Tag.msgType = some MsgType.orderCancelReplaceRequest.text)
    (refused : (ofMessage m : Except BuildFault OrderCancelReplaceRequest) = .error fault) :
    m.OrderFault fault := by
  obtain ⟨tag, rfl⟩ | refused := fault_of_ofMessage typed refused
  · exact .missing typed tag
  change OrderCancelReplaceRequest.read m = .error fault at refused
  simp only [OrderCancelReplaceRequest.read, bind_eq_error_iff] at refused
  obtain side | ⟨_, -, kind | ⟨_, -, qty | ⟨_, -, price | ⟨_, -, made⟩⟩⟩⟩ := refused
  · exact .side side
  · exact .ordType kind
  · exact .orderQty qty
  · exact .price price
  · cases made

/-! ### Reports -/

theorem ExecutionReport.ofMessage_of_get {m : Message} {orderId execId clOrdId symbol : String}
    {execType : ExecType} {ordStatus : OrdStatus} {side : Side} {leavesQty cumQty avgPx : Decimal}
    (typed : m.get Tag.msgType = some MsgType.executionReport.text)
    (order : m.get Tag.orderId = some orderId) (execution : m.get Tag.execId = some execId)
    (id : m.get Tag.clOrdId = some clOrdId) (named : m.get Tag.symbol = some symbol)
    (kind : m.get Tag.execType = some (CodeSet.text execType))
    (status : m.get Tag.ordStatus = some (CodeSet.text ordStatus))
    (sided : m.get Tag.side = some (CodeSet.text side))
    (leaves : m.get Tag.leavesQty = some leavesQty.toText)
    (cum : m.get Tag.cumQty = some cumQty.toText) (avg : m.get Tag.avgPx = some avgPx.toText) :
    ofMessage m =
      .ok (⟨m, orderId, execId, clOrdId, symbol, execType, ordStatus, side, leavesQty.plain,
        cumQty.plain, avgPx.plain⟩ : ExecutionReport) := by
  rw [ofMessage_eq_ok_iff]
  refine ⟨typed, ?_, ?_⟩
  · simp [required, order, execution, id, named, kind, status, sided, leaves, cum, avg]
  · show ExecutionReport.read m = _
    simp [ExecutionReport.read, bind, Except.bind, pure, Except.pure,
      Message.value_code_of_get kind, Message.value_code_of_get status,
      Message.value_code_of_get sided, Message.value_decimal_of_get leaves,
      Message.value_decimal_of_get cum, Message.value_decimal_of_get avg,
      Message.text_of_get order, Message.text_of_get execution, Message.text_of_get id,
      Message.text_of_get named]

theorem OrderCancelReject.ofMessage_of_get {m : Message} {orderId clOrdId origClOrdId : String}
    {ordStatus : OrdStatus} {responseTo : CxlRejResponseTo}
    (typed : m.get Tag.msgType = some MsgType.orderCancelReject.text)
    (order : m.get Tag.orderId = some orderId) (id : m.get Tag.clOrdId = some clOrdId)
    (orig : m.get Tag.origClOrdId = some origClOrdId)
    (status : m.get Tag.ordStatus = some (CodeSet.text ordStatus))
    (response : m.get Tag.cxlRejResponseTo = some (CodeSet.text responseTo)) :
    ofMessage m =
      .ok (⟨m, orderId, clOrdId, origClOrdId, ordStatus, responseTo⟩ : OrderCancelReject) := by
  rw [ofMessage_eq_ok_iff]
  refine ⟨typed, by simp [required, order, id, orig, status, response], ?_⟩
  show OrderCancelReject.read m = _
  simp [OrderCancelReject.read, bind, Except.bind, pure, Except.pure,
    Message.value_code_of_get status, Message.value_code_of_get response,
    Message.text_of_get order, Message.text_of_get id, Message.text_of_get orig]

end FixBench
