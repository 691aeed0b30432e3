import FixBench.Proofs.Exchange.Writable
import FixBench.Proofs.Failing
import FixBench.Proofs.Wire.Arrival
import FixBench.View.Orders

/-!
# Values on their way

An order message is made by calls of the setters of its draft, each of which is a `Setting`. It is
built, given its header, written, read and viewed again; its `Content` is what it was made to say. The
setters, the tags a view requires, the rules of the wire and the readers of the view are lists of their
own; that they agree for every kind of message is `Content.survives`.
-/
namespace FixBench

/-! ### Settings -/

/-- A call of a setter. -/
inductive Setting where
  | clOrdId (id : String)
  | origClOrdId (id : String)
  | orderId (id : String)
  | execId (id : String)
  | symbol (name : String)
  | text (words : String)
  | side (code : Side)
  | ordType (code : OrdType)
  | execType (code : ExecType)
  | ordStatus (code : OrdStatus)
  | cxlRejResponseTo (code : CxlRejResponseTo)
  | orderQty (qty : Decimal)
  | price (px : Decimal)
  | leavesQty (qty : Decimal)
  | cumQty (qty : Decimal)
  | avgPx (px : Decimal)
  | lastQty (qty : Decimal)
  | lastPx (px : Decimal)
  deriving DecidableEq, Repr

namespace Setting

variable {V : Type}

def apply (d : Draft V) : Setting → Draft V
  | .clOrdId id => d.clOrdId id
  | .origClOrdId id => d.origClOrdId id
  | .orderId id => d.orderId id
  | .execId id => d.execId id
  | .symbol name => d.symbol name
  | .text words => d.text words
  | .side code => d.side code
  | .ordType code => d.ordType code
  | .execType code => d.execType code
  | .ordStatus code => d.ordStatus code
  | .cxlRejResponseTo code => d.cxlRejResponseTo code
  | .orderQty qty => d.orderQty qty
  | .price px => d.price px
  | .leavesQty qty => d.leavesQty qty
  | .cumQty qty => d.cumQty qty
  | .avgPx px => d.avgPx px
  | .lastQty qty => d.lastQty qty
  | .lastPx px => d.lastPx px

/-- The field that a call sets. -/
def field : Setting → Field
  | .clOrdId id => ⟨Tag.clOrdId, id⟩
  | .origClOrdId id => ⟨Tag.origClOrdId, id⟩
  | .orderId id => ⟨Tag.orderId, id⟩
  | .execId id => ⟨Tag.execId, id⟩
  | .symbol name => ⟨Tag.symbol, name⟩
  | .text words => ⟨Tag.text, words⟩
  | .side code => ⟨Tag.side, CodeSet.text code⟩
  | .ordType code => ⟨Tag.ordType, CodeSet.text code⟩
  | .execType code => ⟨Tag.execType, CodeSet.text code⟩
  | .ordStatus code => ⟨Tag.ordStatus, CodeSet.text code⟩
  | .cxlRejResponseTo code => ⟨Tag.cxlRejResponseTo, CodeSet.text code⟩
  | .orderQty qty => ⟨Tag.orderQty, qty.toText⟩
  | .price px => ⟨Tag.price, px.toText⟩
  | .leavesQty qty => ⟨Tag.leavesQty, qty.toText⟩
  | .cumQty qty => ⟨Tag.cumQty, qty.toText⟩
  | .avgPx px => ⟨Tag.avgPx, px.toText⟩
  | .lastQty qty => ⟨Tag.lastQty, qty.toText⟩
  | .lastPx px => ⟨Tag.lastPx, px.toText⟩

/-- The text of a call that takes one. -/
def text? : Setting → Option String
  | .clOrdId words | .origClOrdId words | .orderId words | .execId words | .symbol words
  | .text words => some words
  | _ => none

/-- A text that is given can stand in a field. -/
def Fits (s : Setting) : Prop := ∀ text ∈ s.text?, text ≠ "" ∧ Wire.Inline text

instance (s : Setting) : Decidable s.Fits := inferInstanceAs (Decidable (∀ text ∈ s.text?, _))

theorem apply_eq (d : Draft V) (s : Setting) : s.apply d = d.put s.field.tag s.field.value := by
  cases s <;> rfl

theorem ne_of_field (s : Setting) :
    s.field.tag ≠ 0 ∧ s.field.tag ≠ Tag.msgType ∧ s.field.tag ≠ Tag.beginString ∧
      s.field.tag ≠ Tag.bodyLength ∧ s.field.tag ≠ Tag.checkSum := by
  cases s <;> simp only [field] <;> decide

theorem Fits.writable {s : Setting} (fits : s.Fits) :
    Wire.Writable s.field.tag s.field.value := by
  have positive := s.ne_of_field.1
  cases s with
  | clOrdId words | origClOrdId words | orderId words | execId words | symbol words | text words =>
    obtain ⟨nonempty, inline⟩ := fits words rfl
    exact ⟨positive, nonempty, inline⟩
  | side code | ordType code | execType code | ordStatus code | cxlRejResponseTo code =>
    exact Wire.writable_code positive code
  | orderQty a | price a | leavesQty a | cumQty a | avgPx a | lastQty a | lastPx a =>
    exact Wire.writable_decimal positive a

theorem fits_iff_writable (s : Setting) : s.Fits ↔ Wire.Writable s.field.tag s.field.value := by
  refine ⟨Fits.writable, fun writable => ?_⟩
  cases s with
  | clOrdId words | origClOrdId words | orderId words | execId words | symbol words | text words =>
    rintro _ ⟨⟩
    exact ⟨writable.nonempty, writable.soh_notMem⟩
  | _ => rintro _ ⟨⟩

end Setting

namespace Draft

variable {V : Type} {d : Draft V} {settings : List Setting} {tag : Tag} {value : String}

def fill (d : Draft V) (settings : List Setting) : Draft V := settings.foldl Setting.apply d

theorem get_fill_of_unset (unset : ∀ s ∈ settings, s.field.tag ≠ tag) :
    (d.fill settings).message.get tag = d.message.get tag := by
  induction settings generalizing d with
  | nil => rfl
  | cons s rest ih =>
    have others := ih (d := s.apply d) fun s member => unset s (List.mem_cons_of_mem _ member)
    rw [fill, List.foldl_cons, ← fill, others, Setting.apply_eq, get_put,
      if_neg (unset s List.mem_cons_self)]

/-- Calls that set a field to the same value may be repeated, and come in any order. -/
theorem get_fill_of_set (set : ∃ s ∈ settings, s.field.tag = tag)
    (same : ∀ s ∈ settings, s.field.tag = tag → s.field.value = value) :
    (d.fill settings).message.get tag = some value := by
  induction settings generalizing d with
  | nil =>
    obtain ⟨s, member, -⟩ := set
    cases member
  | cons s rest ih =>
    have same' := fun s member => same s (List.mem_cons_of_mem _ member)
    rw [fill, List.foldl_cons, ← fill]
    -- The last call for the field decides, and no call disagrees with it.
    by_cases later : ∃ s ∈ rest, s.field.tag = tag
    · exact ih later same'
    · push Not at later
      have here : s.field.tag = tag := by
        obtain ⟨s', member, named⟩ := set
        rcases List.mem_cons.mp member with rfl | member
        · exact named
        · exact absurd named (later s' member)
      rw [get_fill_of_unset later, Setting.apply_eq, get_put, if_pos here,
        same s List.mem_cons_self here]

theorem beginString_fill : (d.fill settings).message.beginString = d.message.beginString := by
  induction settings generalizing d with
  | nil => rfl
  | cons s rest ih =>
    rw [fill, List.foldl_cons, ← fill, ih, Setting.apply_eq]
    rfl

theorem composed_fill (composed : d.message.Composed) : (d.fill settings).message.Composed := by
  induction settings generalizing d with
  | nil => exact composed
  | cons s rest ih =>
    apply ih
    rw [Setting.apply_eq]
    exact composed.set _ _ s.ne_of_field.2.2

theorem Fits.fill (fits : d.Fits) (all : ∀ s ∈ settings, s.Fits) : (d.fill settings).Fits := by
  induction settings generalizing d with
  | nil => exact fits
  | cons s rest ih =>
    refine ih ?_ fun s member => all s (List.mem_cons_of_mem _ member)
    rw [Setting.apply_eq]
    exact fits.put (all s List.mem_cons_self).writable s.ne_of_field.2.2.2

/-- Under a header that fits, calls that do not override each other all have to fit. -/
theorem fits_fill_iff [MessageView V] {version : String}
    (typed : Wire.checkValue Tag.msgType (MessageView.type V).text = .ok ())
    (agree : ∀ s ∈ settings, ∀ t ∈ settings, t.field.tag = s.field.tag → t.field.value = s.field.value) :
    ((start V version).fill settings).Fits ↔
      Wire.Writable Tag.beginString version ∧ ∀ s ∈ settings, s.Fits := by
  constructor
  · intro fits
    refine ⟨?_, fun s member => s.fits_iff_writable.mpr ?_⟩
    · have speakable := ((Wire.checkValues_eq_ok_iff _).mp fits).1
      rwa [beginString_fill] at speakable
    · have found := get_fill_of_set (d := start V version) ⟨s, member, rfl⟩ (agree s member)
      exact Wire.writable_of_get fits found s.ne_of_field.2.2.2
  · rintro ⟨speakable, all⟩
    exact (fits_start speakable typed).fill all

end Draft

/-! ### Views -/

/-- A view keeps the message it was read from. -/
class LawfulView (V : Type) [MessageView V] : Prop where
  message_of_read : ∀ {m : Message} {v : V}, MessageView.read m = .ok v → MessageView.message v = m

instance : LawfulView NewOrderSingle where
  message_of_read {m v} reads := by
    change NewOrderSingle.read m = .ok v at reads
    rw [NewOrderSingle.read, bind_eq_ok_iff] at reads
    obtain ⟨type, -, reads⟩ := reads
    split at reads
    · cases reads
    · simp only [bind_eq_ok_iff] at reads
      obtain ⟨_, -, _, -, _, -, made⟩ := reads
      cases made
      rfl

instance : LawfulView OrderCancelRequest where
  message_of_read {m v} reads := by
    change OrderCancelRequest.read m = .ok v at reads
    simp only [OrderCancelRequest.read, bind_eq_ok_iff] at reads
    obtain ⟨_, -, made⟩ := reads
    cases made
    rfl

instance : LawfulView OrderCancelReplaceRequest where
  message_of_read {m v} reads := by
    change OrderCancelReplaceRequest.read m = .ok v at reads
    simp only [OrderCancelReplaceRequest.read, bind_eq_ok_iff] at reads
    obtain ⟨_, -, _, -, _, -, _, -, made⟩ := reads
    cases made
    rfl

instance : LawfulView ExecutionReport where
  message_of_read {m v} reads := by
    change ExecutionReport.read m = .ok v at reads
    simp only [ExecutionReport.read, bind_eq_ok_iff] at reads
    obtain ⟨_, -, _, -, _, -, _, -, _, -, _, -, made⟩ := reads
    cases made
    rfl

instance : LawfulView OrderCancelReject where
  message_of_read {m v} reads := by
    change OrderCancelReject.read m = .ok v at reads
    simp only [OrderCancelReject.read, bind_eq_ok_iff] at reads
    obtain ⟨_, -, _, -, made⟩ := reads
    cases made
    rfl

/-! ### Contents -/

/-- What an order message is made to say: a value for each of its required fields, and a price where
its view knows one. -/
inductive Content where
  | newOrder (clOrdId symbol : String) (side : Side) (orderQty : Decimal) (ordType : OrdType)
      (price : Option Decimal)
  | cancel (origClOrdId clOrdId symbol : String) (side : Side)
  | replace (origClOrdId clOrdId symbol : String) (side : Side) (orderQty : Decimal)
      (ordType : OrdType) (price : Option Decimal)
  | report (orderId execId clOrdId : String) (execType : ExecType) (ordStatus : OrdStatus)
      (symbol : String) (side : Side) (leavesQty cumQty avgPx : Decimal) (price : Option Decimal)
  | cancelReject (orderId clOrdId origClOrdId : String) (ordStatus : OrdStatus)
      (responseTo : CxlRejResponseTo)
  deriving DecidableEq, Repr

namespace Content

inductive Kind where
  | newOrder
  | cancel
  | replace
  | report
  | cancelReject
  deriving DecidableEq, Repr

open MessageView

namespace Kind

def type : Kind → MsgType
  | newOrder => MessageView.type NewOrderSingle
  | cancel => MessageView.type OrderCancelRequest
  | replace => MessageView.type OrderCancelReplaceRequest
  | report => MessageView.type ExecutionReport
  | cancelReject => MessageView.type OrderCancelReject

/-- The fields that a content of this kind is read from. -/
def reads : Kind → List Tag
  | newOrder => required NewOrderSingle ++ [Tag.price]
  | cancel => required OrderCancelRequest
  | replace => required OrderCancelReplaceRequest ++ [Tag.price]
  | report => required ExecutionReport ++ [Tag.price]
  | cancelReject => required OrderCancelReject

/-- The message of the view that these calls make. -/
def made (V : Type) [MessageView V] (version : String) (settings : List Setting) :
    Except BuildFault Message :=
  ((Draft.start V version).fill settings).build.map message

def make (kind : Kind) (version : String) (settings : List Setting) : Except BuildFault Message :=
  match kind with
  | newOrder => made NewOrderSingle version settings
  | cancel => made OrderCancelRequest version settings
  | replace => made OrderCancelReplaceRequest version settings
  | report => made ExecutionReport version settings
  | cancelReject => made OrderCancelReject version settings

/-- Views a message, and asks the view for its values. -/
def read (kind : Kind) (m : Message) : Except BuildFault Content :=
  match kind with
  | newOrder => do
    let v : NewOrderSingle ← ofMessage m
    return .newOrder v.clOrdId v.symbol v.side v.orderQty v.ordType v.price
  | cancel => do
    let v : OrderCancelRequest ← ofMessage m
    return .cancel v.origClOrdId v.clOrdId v.symbol v.side
  | replace => do
    let v : OrderCancelReplaceRequest ← ofMessage m
    return .replace v.origClOrdId v.clOrdId v.symbol v.side v.orderQty v.ordType v.price
  | report => do
    let v : ExecutionReport ← ofMessage m
    return .report v.orderId v.execId v.clOrdId v.execType v.ordStatus v.symbol v.side v.leavesQty
      v.cumQty v.avgPx v.price
  | cancelReject => do
    let v : OrderCancelReject ← ofMessage m
    return .cancelReject v.orderId v.clOrdId v.origClOrdId v.ordStatus v.responseTo

end Kind

def kind : Content → Kind
  | newOrder .. => .newOrder
  | cancel .. => .cancel
  | replace .. => .replace
  | report .. => .report
  | cancelReject .. => .cancelReject

/-- One call for each value. -/
def settings : Content → List Setting
  | newOrder id name side qty type px =>
    [.clOrdId id, .symbol name, .side side, .orderQty qty, .ordType type] ++ (px.map .price).toList
  | cancel orig id name side => [.origClOrdId orig, .clOrdId id, .symbol name, .side side]
  | replace orig id name side qty type px =>
    [.origClOrdId orig, .clOrdId id, .symbol name, .side side, .orderQty qty, .ordType type] ++
      (px.map .price).toList
  | report order exec id type status name side leaves cum avg px =>
    [.orderId order, .execId exec, .clOrdId id, .execType type, .ordStatus status, .symbol name,
      .side side, .leavesQty leaves, .cumQty cum, .avgPx avg] ++ (px.map .price).toList
  | cancelReject order id orig status response =>
    [.orderId order, .clOrdId id, .origClOrdId orig, .ordStatus status, .cxlRejResponseTo response]

def decimals : Content → List Decimal
  | newOrder _ _ _ qty _ px | replace _ _ _ _ qty _ px => qty :: px.toList
  | report _ _ _ _ _ _ _ leaves cum avg px => leaves :: cum :: avg :: px.toList
  | cancel .. | cancelReject .. => []

/-- The content without the signs of its zeros, which no text shows. -/
def plain : Content → Content
  | newOrder id name side qty type px => newOrder id name side qty.plain type (px.map .plain)
  | replace orig id name side qty type px =>
    replace orig id name side qty.plain type (px.map .plain)
  | report order exec id type status name side leaves cum avg px =>
    report order exec id type status name side leaves.plain cum.plain avg.plain (px.map .plain)
  | content => content

/-- A new order of a type that works at a price gives one. -/
def Priced : Content → Prop
  | newOrder _ _ _ _ type px => type.requiresPrice = true → px.isSome = true
  | _ => True

variable {c : Content}

/-- If decimals survive being written as text, so does the content. -/
theorem plain_eq (exact : ∀ a ∈ c.decimals, Decimal.ofText? a.toText = some a) : c.plain = c := by
  have same (a : Decimal) (member : a ∈ c.decimals) : a.plain = a :=
    Option.some.inj (a.ofText?_toText.symm.trans (exact a member))
  have price {px : Option Decimal} (members : ∀ a ∈ px.toList, a ∈ c.decimals) :
      px.map Decimal.plain = px := by
    cases px with
    | none => rfl
    | some a => exact congrArg some (same a (members a List.mem_cons_self))
  cases c with
  | newOrder id name side qty type px =>
    rw [plain, same qty List.mem_cons_self, price fun a => List.mem_cons_of_mem _]
  | replace orig id name side qty type px =>
    rw [plain, same qty List.mem_cons_self, price fun a => List.mem_cons_of_mem _]
  | report order exec id type status name side leaves cum avg px =>
    rw [plain, same leaves (by simp [decimals]), same cum (by simp [decimals]),
      same avg (by simp [decimals]), price fun a member => by simp [decimals, Option.mem_toList.mp member]]
  | cancel | cancelReject => rfl

/-! ### Reading a content -/

/-- The message says this, and nothing else in the fields that matter. -/
structure CarriedBy (c : Content) (m : Message) : Prop where
  typed : m.get Tag.msgType = some c.kind.type.text
  fields : ∀ tag ∈ c.kind.reads, m.get tag = Message.lookup tag (c.settings.map Setting.field)

theorem read_of_carriedBy {m : Message} (carried : c.CarriedBy m) (priced : c.Priced) :
    c.kind.read m = .ok c.plain := by
  obtain ⟨typed, get⟩ := carried
  -- In each case: one `get` for each field the view reads, and then what the view makes of them.
  cases c with
  | newOrder id name side qty type px =>
    change ∀ tag ∈ Kind.newOrder.reads, _ at get
    have price : m.get Tag.price = px.map Decimal.toText :=
      (get Tag.price (by decide)).trans (by cases px <;> rfl)
    have reads := NewOrderSingle.ofMessage_of_get typed (get Tag.clOrdId (by decide))
      (get Tag.symbol (by decide)) (get Tag.side (by decide)) (get Tag.ordType (by decide))
      (get Tag.orderQty (by decide)) price priced
    simp only [kind, Kind.read, reads]
    rfl
  | cancel orig id name side =>
    change ∀ tag ∈ Kind.cancel.reads, _ at get
    have reads := OrderCancelRequest.ofMessage_of_get typed (get Tag.origClOrdId (by decide))
      (get Tag.clOrdId (by decide)) (get Tag.symbol (by decide)) (get Tag.side (by decide)) rfl
    simp only [kind, Kind.read, reads]
    rfl
  | replace orig id name side qty type px =>
    change ∀ tag ∈ Kind.replace.reads, _ at get
    have price : m.get Tag.price = px.map Decimal.toText :=
      (get Tag.price (by decide)).trans (by cases px <;> rfl)
    have reads := OrderCancelReplaceRequest.ofMessage_of_get typed (get Tag.origClOrdId (by decide))
      (get Tag.clOrdId (by decide)) (get Tag.symbol (by decide)) (get Tag.side (by decide))
      (get Tag.ordType (by decide)) (get Tag.orderQty (by decide)) price
    simp only [kind, Kind.read, reads]
    rfl
  | report order exec id type status name side leaves cum avg px =>
    change ∀ tag ∈ Kind.report.reads, _ at get
    have price : m.get Tag.price = px.map Decimal.toText :=
      (get Tag.price (by decide)).trans (by cases px <;> rfl)
    have reads := ExecutionReport.ofMessage_of_get typed (get Tag.orderId (by decide))
      (get Tag.execId (by decide)) (get Tag.clOrdId (by decide)) (get Tag.symbol (by decide))
      (get Tag.execType (by decide)) (get Tag.ordStatus (by decide)) (get Tag.side (by decide))
      (get Tag.leavesQty (by decide)) (get Tag.cumQty (by decide)) (get Tag.avgPx (by decide))
    simp only [kind, Kind.read, reads, bind, Except.bind, ExecutionReport.price,
      Message.value?_decimal_of_get price]
    rfl
  | cancelReject order id orig status response =>
    change ∀ tag ∈ Kind.cancelReject.reads, _ at get
    have reads := OrderCancelReject.ofMessage_of_get typed (get Tag.orderId (by decide))
      (get Tag.clOrdId (by decide)) (get Tag.origClOrdId (by decide)) (get Tag.ordStatus (by decide))
      (get Tag.cxlRejResponseTo (by decide))
    simp only [kind, Kind.read, reads]
    rfl

/-! ### Making a content -/

/-- Of the calls that matter there is one for each value and no other. Calls may be repeated, and other
fields be set as well. -/
structure GivenBy (c : Content) (calls : List Setting) : Prop where
  all : ∀ s ∈ c.settings, s ∈ calls
  only : ∀ s ∈ calls, s.field.tag ∈ c.kind.reads → s ∈ c.settings

theorem Kind.nodup_reads (kind : Kind) : kind.reads.Nodup := by
  cases kind <;> decide

theorem Kind.notMem_reads {kind : Kind} {tag : Tag} (read : tag ∈ kind.reads) :
    tag ∉ Tag.msgType :: Tag.requiredHeader := by
  have apart : kind.reads.all (· ∉ Tag.msgType :: Tag.requiredHeader) = true := by cases kind <;> rfl
  exact of_decide_eq_true (List.all_eq_true.mp apart tag read)

/-- The values are given for the required fields in their order, and then for the price. -/
theorem tags_settings (c : Content) :
    ((c.settings.map Setting.field).map Field.tag).Sublist c.kind.reads := by
  cases c with
  | newOrder _ _ _ _ _ px | replace _ _ _ _ _ _ px | report _ _ _ _ _ _ _ _ _ _ px =>
    cases px with
    | none => exact List.sublist_append_left _ [Tag.price]
    | some px => exact List.Sublist.refl _
  | cancel | cancelReject => exact List.Sublist.refl _

/-- Calls that give a content fill a draft with it. -/
theorem carriedBy_fill {V : Type} [MessageView V] {calls : List Setting}
    (typed : MessageView.type V = c.kind.type) (given : c.GivenBy calls) (version : String) :
    c.CarriedBy ((Draft.start V version).fill calls).message where
  typed := by
    rw [Draft.get_fill_of_unset fun s _ => s.ne_of_field.2.1, Draft.get_start, if_pos rfl, typed]
  fields := by
    intro tag read
    have finds (s : Setting) (call : s ∈ calls) (named : s.field.tag = tag) :
        Message.lookup tag (c.settings.map Setting.field) = some s.field.value := by
      rw [Message.lookup_eq_some_iff _ (c.tags_settings.nodup c.kind.nodup_reads), ← named]
      exact List.mem_map_of_mem (given.only s call (named ▸ read))
    -- A field the view reads is set by calls of the content, or stays empty as in the content.
    by_cases set : ∃ s ∈ calls, s.field.tag = tag
    · obtain ⟨s, call, named⟩ := set
      rw [finds s call named]
      refine Draft.get_fill_of_set ⟨s, call, named⟩ fun s' call' named' => ?_
      exact Option.some.inj ((finds s' call' named').symm.trans (finds s call named))
    · push Not at set
      have other : Tag.msgType ≠ tag := fun same => Kind.notMem_reads read (same ▸ List.mem_cons_self)
      have absent : Message.lookup tag (c.settings.map Setting.field) = none := by
        cases found : Message.lookup tag (c.settings.map Setting.field) with
        | none => rfl
        | some value =>
          rw [Message.lookup_eq_some_iff _ (c.tags_settings.nodup c.kind.nodup_reads)] at found
          obtain ⟨s, member, field⟩ := List.mem_map.mp found
          exact absurd (congrArg Field.tag field) (set s (given.all s member))
      rw [Draft.get_fill_of_unset set, Draft.get_start, if_neg other, absent]

theorem CarriedBy.of_get {m m' : Message} (carried : c.CarriedBy m)
    (same : ∀ tag, tag ∉ Tag.requiredHeader → m'.get tag = m.get tag) : c.CarriedBy m' where
  typed := (same _ (by decide)).trans carried.typed
  fields tag read := by
    have apart : tag ∉ Tag.requiredHeader := fun header =>
      Kind.notMem_reads read (List.mem_cons_of_mem _ header)
    exact (same tag apart).trans (carried.fields tag read)

/-- A message that has been made, and has no header yet. -/
structure Made (c : Content) (version : String) (m : Message) : Prop where
  carried : c.CarriedBy m
  composed : m.Composed
  written : Wire.checkValues m = .ok ()
  beginString : m.beginString = version

theorem made_eq_fill {V : Type} [MessageView V] [LawfulView V] {calls : List Setting}
    (typed : MessageView.type V = c.kind.type) (given : c.GivenBy calls) (version : String)
    (views : ∀ m, c.CarriedBy m → ∃ v : V, ofMessage m = .ok v) :
    Kind.made V version calls = .ok ((Draft.start V version).fill calls).message := by
  let d := (Draft.start V version).fill calls
  obtain ⟨v, viewed⟩ := views d.message (carriedBy_fill typed given version)
  have kept : message v = d.message :=
    LawfulView.message_of_read ((ofMessage_eq_ok_iff ..).mp viewed).2.2
  rw [Kind.made, Draft.build, viewed, ← kept]
  rfl

theorem Kind.checkValue_type (kind : Kind) : Wire.checkValue Tag.msgType kind.type.text = .ok () := by
  cases kind <;> decide

theorem made_of_givenBy {V : Type} [MessageView V] [LawfulView V] {calls : List Setting}
    {version : String} (typed : MessageView.type V = c.kind.type) (given : c.GivenBy calls)
    (speakable : Wire.Writable Tag.beginString version)
    (fit : ∀ s ∈ calls, s.Fits)
    (views : ∀ m, c.CarriedBy m → ∃ v : V, ofMessage m = .ok v) :
    ∃ m, Kind.made V version calls = .ok m ∧ c.Made version m := by
  have known := typed ▸ c.kind.checkValue_type
  refine ⟨_, made_eq_fill typed given version views, carriedBy_fill typed given version, ?_, ?_, ?_⟩
  · exact Draft.composed_fill (Message.composed_ofType version _)
  · exact (Draft.fits_start speakable known).fill fit
  · exact Draft.beginString_fill

theorem make_of_givenBy {calls : List Setting} {version : String} (given : c.GivenBy calls)
    (priced : c.Priced) (speakable : Wire.Writable Tag.beginString version)
    (fit : ∀ s ∈ calls, s.Fits) :
    ∃ m, c.kind.make version calls = .ok m ∧ c.Made version m := by
  have reads (m : Message) (carried : c.CarriedBy m) := read_of_carriedBy carried priced
  -- A content can only be read from a message that has a view.
  cases c with
  | newOrder | cancel | replace | report | cancelReject =>
    refine made_of_givenBy rfl given speakable fit fun m carried => ?_
    obtain ⟨v, viewed, -⟩ := (bind_eq_ok_iff ..).mp (reads m carried)
    exact ⟨v, viewed⟩

/-- Calls for different fields do not override each other. -/
theorem agree_settings (c : Content) :
    ∀ s ∈ c.settings, ∀ t ∈ c.settings, t.field.tag = s.field.tag → t.field.value = s.field.value := by
  have distinct := c.tags_settings.nodup c.kind.nodup_reads
  rw [List.map_map] at distinct
  intro s here t there same
  rw [List.inj_on_of_nodup_map distinct there here same]

/-- With one call for each value a message is always made, under any version. It can be written exactly
if the version and all its texts can. -/
theorem make_settings (c : Content) (priced : c.Priced) (version : String) :
    ∃ m, c.kind.make version c.settings = .ok m ∧
      (Wire.checkValues m = .ok () ↔
        Wire.Writable Tag.beginString version ∧ ∀ s ∈ c.settings, s.Fits) := by
  have reads (m : Message) (carried : c.CarriedBy m) := read_of_carriedBy carried priced
  have known := c.kind.checkValue_type
  have agree := c.agree_settings
  have given : c.GivenBy c.settings := ⟨fun _ call => call, fun _ call _ => call⟩
  cases c with
  | newOrder | cancel | replace | report | cancelReject =>
    refine ⟨_, made_eq_fill rfl given version fun m carried => ?_, Draft.fits_fill_iff known agree⟩
    obtain ⟨v, viewed, -⟩ := (bind_eq_ok_iff ..).mp (reads m carried)
    exact ⟨v, viewed⟩

/-! ### On the wire -/

theorem Made.checkValues_headed {version : String} {m : Message} (made : c.Made version m)
    {sender target number time : String}
    (header : ∀ text ∈ [sender, target, number, time], text ≠ "" ∧ Wire.Inline text) :
    Wire.checkValues (m.headed sender target number time) = .ok () := by
  have put {m : Message} (checked : Wire.checkValues m = .ok ()) (tag : Tag)
      (framed : tag ≠ 0 ∧ tag ≠ Tag.bodyLength ∧ tag ≠ Tag.checkSum) (text : String)
      (member : text ∈ [sender, target, number, time]) : Wire.checkValues (m.set tag text) = .ok () := by
    obtain ⟨nonempty, inline⟩ := header text member
    exact (Wire.checkValues_set_iff checked text framed.2).mpr ⟨framed.1, nonempty, inline⟩
  have sent := put made.written Tag.senderCompId (by decide) sender (by simp)
  have received := put sent Tag.targetCompId (by decide) target (by simp)
  have numbered := put received Tag.msgSeqNum (by decide) number (by simp)
  exact put numbered Tag.sendingTime (by decide) time (by simp)

/-- **What is set is what is read.** Calls of the setters, in any order, that give an order message its
content: each required value, and a price where one is wanted or wished for. Under any FIX version they
build a message; with a header it can be written, and as long as its length can be told, what is written
can be read, and has a view whose values are the ones that were set, but for the signs of zeros. If
decimals survive as text, they are the very same. -/
theorem survives (c : Content) {calls : List Setting} (given : c.GivenBy calls) (priced : c.Priced)
    (fit : ∀ s ∈ calls, s.Fits) {version : String} (fix : SessionConfig.isVersion version = true)
    (inline : Wire.Inline version) {sender target number time : String}
    (header : ∀ text ∈ [sender, target, number, time], text ≠ "" ∧ Wire.Inline text) :
    ∃ m bytes, c.kind.make version calls = .ok m ∧
      Wire.encode (m.headed sender target number time) = .ok bytes ∧
      (bytes.length < Numeral.limit64 → ∃ m', Wire.decode bytes = .ok m' ∧
        c.kind.read m' = .ok c.plain ∧
        ((∀ a ∈ c.decimals, Decimal.ofText? a.toText = some a) → c.kind.read m' = .ok c)) := by
  have front := SessionConfig.prefix_of_isVersion fix
  have named : version ≠ "" := by
    rintro rfl
    cases fix
  obtain ⟨m, makes, made⟩ := make_of_givenBy given priced ⟨by decide, named, inline⟩ fit
  obtain ⟨bytes, encodes⟩ := (Wire.exists_encode_iff _).mpr (made.checkValues_headed header)
  refine ⟨m, bytes, makes, encodes, fun short => ?_⟩
  have deliverable := Wire.deliverable_headed made.composed (made.beginString ▸ front)
    made.carried.typed sender target number time
  obtain ⟨m', decodes, -, same⟩ := deliverable.decode encodes
    (lt_of_le_of_lt (Wire.length_body_le encodes) short)
  have carried : c.CarriedBy m' := made.carried.of_get fun tag other =>
    (same tag).trans (m.get_headed sender target number time other)
  have reads := read_of_carriedBy carried priced
  exact ⟨m', decodes, reads, fun lossless => reads.trans (congrArg Except.ok (plain_eq lossless))⟩

/-- The calls of a limit order come in disorder, one of them twice and one for a field that no new order
is read from; its texts look like fields and are not ASCII. -/
theorem survives_in_disorder :
    let qty : Decimal := ⟨false, 1000, 2, by decide, by decide⟩
    let px : Decimal := ⟨false, 9995, 3, by decide, by decide⟩
    let c : Content := .newOrder "11=A|35=8" "ZÜRN" .sell qty .limit (some px)
    let calls : List Setting := [.price px, .text "half now", .ordType .limit, .symbol "ZÜRN",
      .orderQty qty, .side .sell, .symbol "ZÜRN", .clOrdId "11=A|35=8"]
    ∃ m bytes m', c.kind.make "FIX.4.2" calls = .ok m ∧
      Wire.encode (m.headed "C" "S" "7" "now") = .ok bytes ∧ Wire.decode bytes = .ok m' ∧
      c.kind.read m' = .ok c := by
  intro qty px c calls
  have given : c.GivenBy calls := ⟨by decide, by decide⟩
  have fit : ∀ s ∈ calls, s.Fits := by decide
  have fix : SessionConfig.isVersion "FIX.4.2" = true := by decide
  have header : ∀ text ∈ ["C", "S", "7", "now"], text ≠ "" ∧ Wire.Inline text := by decide
  obtain ⟨m, bytes, makes, encodes, arrives⟩ :=
    c.survives given (fun _ => rfl) fit fix (by decide) header
  let written : Option (List UInt8) := (c.kind.make "FIX.4.2" calls).toOption.bind fun m =>
    (Wire.encode (m.headed "C" "S" "7" "now")).toOption
  have whole : written = some bytes := by
    simp only [written, makes, Except.toOption, Option.bind_some, encodes]
  have short : ∀ bytes ∈ written, bytes.length < Numeral.limit64 := by decide +kernel
  obtain ⟨m', decodes, -, reads⟩ := arrives (short bytes whole)
  exact ⟨m, bytes, m', makes, encodes, decodes, reads (by decide +kernel)⟩

end Content

end FixBench
