import FixBench.Proofs.Exchange.Handling
import FixBench.Proofs.Link.Replies

/-!
# What the exchange says can be written

A report is made of texts that came in with a request, of texts the exchange has made itself, and of
numbers and codes. The first have been on the wire before, and the others have no separator in them.
So a report can be written as soon as the order's own texts can and the text of its occasion
(`Notice.fits_iff`), and a refused cancellation or replacement can always be (`Refused.fits`). The one
text that nothing vouches for is the configured one of a rejection.
-/
namespace FixBench

namespace Wire

/-! ### Texts by their characters -/

theorem inline_ofList {chars : List Char} (apart : ∀ c ∈ chars, soh ∉ String.utf8EncodeChar c) :
    Inline (String.ofList chars) := by
  induction chars with
  | nil => exact List.not_mem_nil
  | cons c rest ih =>
    rw [Inline, Numeral.encode_ofList_cons, List.mem_append, not_or]
    exact ⟨apart c List.mem_cons_self, ih fun c member => apart c (List.mem_cons_of_mem _ member)⟩

theorem soh_notMem_of_isDigit {c : Char} (digital : c.isDigit = true) :
    soh ∉ String.utf8EncodeChar c := by
  have bounds := (Numeral.isDigit_char_iff c).mp digital
  rw [Numeral.utf8EncodeChar_of_isDigit digital, List.mem_singleton]
  intro same
  have number := congrArg UInt8.toNat same
  rw [UInt8.toNat_ofNat'] at number
  change 1 = _ at number
  omega

end Wire

/-! ### Values of the exchange's own -/

theorem Decimal.inline_toText (a : Decimal) : Wire.Inline a.toText := by
  apply Wire.inline_ofList
  have digital {c : Char} := @isDigit_of_mem_shownDigits a c
  intro c member
  -- A sign, the digits before the point, and the point with the digits behind it.
  rw [shownChars_eq, unsignedChars, List.mem_append, List.mem_append] at member
  rcases member with sign | whole | fraction
  · split at sign
    · rw [List.mem_singleton.mp sign]
      decide
    · cases sign
  · exact Wire.soh_notMem_of_isDigit (digital (List.mem_of_mem_take whole))
  · split at fraction
    · cases fraction
    · rcases List.mem_cons.mp fraction with rfl | digit
      · decide
      · exact Wire.soh_notMem_of_isDigit (digital (List.mem_of_mem_drop digit))

theorem Decimal.toText_ne_empty (a : Decimal) : a.toText ≠ "" := by
  -- There is a digit before the point.
  have long := a.scale_lt_length_shownDigits
  intro empty
  have length := congrArg (List.length ∘ String.toList) empty
  simp only [Function.comp_apply, toText, String.toList_ofList, shownChars_eq, unsignedChars,
    List.length_append, List.length_take] at length
  have none : "".toList.length = 0 := rfl
  omega

theorem Wire.writable_decimal {tag : Tag} (positive : tag ≠ 0) (a : Decimal) :
    Writable tag a.toText :=
  ⟨positive, a.toText_ne_empty, a.inline_toText⟩

/-- No code of the set ends the field it stands in. -/
class InlineCodeSet (α : Type) [CodeSet α] : Prop where
  soh_notMem_char : ∀ code : α, Wire.soh ∉ String.utf8EncodeChar (CodeSet.char code)

instance : InlineCodeSet Side := ⟨fun code => by cases code <;> decide⟩
instance : InlineCodeSet OrdType := ⟨fun code => by cases code <;> decide⟩
instance : InlineCodeSet ExecType := ⟨fun code => by cases code <;> decide⟩
instance : InlineCodeSet OrdStatus := ⟨fun code => by cases code <;> decide⟩
instance : InlineCodeSet CxlRejResponseTo := ⟨fun code => by cases code <;> decide⟩

theorem Wire.writable_code {α : Type} [CodeSet α] [InlineCodeSet α] {tag : Tag} (positive : tag ≠ 0)
    (code : α) : Writable tag (CodeSet.text code) := by
  have single : CodeSet.text code = String.ofList [CodeSet.char code] := rfl
  refine ⟨positive, ?_, ?_⟩
  · intro empty
    have chars := congrArg String.toList empty
    rw [single, String.toList_ofList] at chars
    cases chars
  · rw [single]
    apply inline_ofList
    intro c member
    rw [List.mem_singleton.mp member]
    exact InlineCodeSet.soh_notMem_char code

/-! ### Faults of a request -/

section Faults

variable {α : Type} {format : ValueFormat α} {tag : Tag}

theorem Wire.inline_fieldValue (tag : Tag) {reason : String} (inline : Inline reason) :
    Inline (BuildFault.fieldValue tag reason).message := by
  have front : Inline "invalid field value for tag " := by decide +kernel
  have middle : Inline ": " := by decide
  exact ((front.append (inline_toString _)).append middle).append inline

/-- The complaint about a text quotes it. -/
theorem Wire.inline_read {text : String} {fault : DecodeFault} (named : Inline format.name)
    (inline : Inline text) (refused : format.read tag text = .error fault) : Inline fault.message := by
  rw [ValueFormat.read] at refused
  split at refused
  · cases refused
  · cases refused
    have front : Inline "failed to parse '" := by decide +kernel
    have middle : Inline "' as " := by decide +kernel
    exact inline_fieldValue tag (((front.append inline).append middle).append named)

variable {m : Message} {fault : BuildFault}

theorem Message.inline_value (inline : ∀ text, m.get tag = some text → Wire.Inline text)
    (named : Wire.Inline format.name) (refused : m.value format tag = .error fault) :
    Wire.Inline fault.message := by
  rw [Message.value] at refused
  split at refused
  · cases refused
  · rename_i cause reads
    cases refused
    apply Wire.inline_fieldValue
    rw [getAs] at reads
    split at reads
    · cases reads
      have front : Wire.Inline "missing required field: tag " := by decide +kernel
      exact front.append (Wire.inline_toString _)
    · rename_i text found
      exact Wire.inline_read named (inline text found) reads

theorem Message.inline_optionalValue (inline : ∀ text, m.get tag = some text → Wire.Inline text)
    (named : Wire.Inline format.name) (refused : m.optionalValue format tag = .error fault) :
    Wire.Inline fault.message := by
  rw [optionalValue] at refused
  split at refused
  · cases refused
  · rename_i cause reads
    cases refused
    apply Wire.inline_fieldValue
    rw [getOptional] at reads
    split at reads
    · cases reads
    · rename_i text found
      rcases read : format.read tag text with refused | value
      · rw [read] at reads
        cases reads
        exact Wire.inline_read named (inline text found) read
      · rw [read] at reads
        cases reads

/-- A complaint about a request has no separator in it, as the request's own texts have none. -/
theorem Message.OrderFault.inline (wrong : m.OrderFault fault)
    (inline : ∀ tag text, m.get tag = some text → Wire.Inline text) :
    Wire.Inline fault.message := by
  cases wrong with
  | missing typed tag =>
    have front : Wire.Inline "missing required field for msg type " := by decide +kernel
    have middle : Wire.Inline ": tag " := by decide
    exact ((front.append (inline _ _ typed)).append middle).append (Wire.inline_toString _)
  | ordType refused | side refused | orderQty refused =>
    exact inline_value (inline _) (by decide +kernel) refused
  | price refused =>
    exact inline_optionalValue (inline _) (by decide +kernel) refused

end Faults

/-! ### Drafts -/

namespace Draft

variable {V : Type}

/-- Everything put into the draft can be written. -/
def Fits (d : Draft V) : Prop := Wire.checkValues d.message = .ok ()

theorem fits_start [MessageView V] {version : String}
    (speakable : Wire.Writable Tag.beginString version)
    (typed : Wire.checkValue Tag.msgType (MessageView.type V).text = .ok ()) :
    (start V version).Fits :=
  Wire.checkValues_ofType _ speakable typed

variable {d : Draft V} {tag : Tag}

theorem Fits.put_iff (fits : d.Fits) (carried : tag ≠ Tag.bodyLength ∧ tag ≠ Tag.checkSum)
    (text : String) : (d.put tag text).Fits ↔ Wire.Writable tag text :=
  Wire.checkValues_set_iff fits text carried

theorem Fits.put (fits : d.Fits) {text : String} (writable : Wire.Writable tag text)
    (carried : tag ≠ Tag.bodyLength ∧ tag ≠ Tag.checkSum) : (d.put tag text).Fits :=
  (fits.put_iff carried text).mpr writable

theorem Fits.putDecimal (fits : d.Fits) (tag : Tag) (a : Decimal)
    (carried : tag ≠ 0 ∧ tag ≠ Tag.bodyLength ∧ tag ≠ Tag.checkSum) : (d.putDecimal tag a).Fits :=
  fits.put (Wire.writable_decimal carried.1 a) carried.2

theorem Fits.putCode {α : Type} [CodeSet α] [InlineCodeSet α] (fits : d.Fits) (tag : Tag) (code : α)
    (carried : tag ≠ 0 ∧ tag ≠ Tag.bodyLength ∧ tag ≠ Tag.checkSum) : (d.putCode tag code).Fits :=
  fits.put (Wire.writable_code carried.1 code) carried.2

theorem Fits.priceIfSome (fits : d.Fits) (price : Option Decimal) : (d.priceIfSome price).Fits := by
  cases price with
  | none => exact fits
  | some px => exact fits.putDecimal Tag.price px (by decide)

end Draft

namespace Exchange

/-! ### Identifiers -/

theorem IdCounters.writable_orderId (n : Nat) : Wire.Writable Tag.orderId (orderId n) :=
  Wire.Writable.append ((Wire.checkValue_eq_ok_iff _ _).mp (by decide)) (Wire.inline_padded 8 n)

theorem IdCounters.writable_execId (n : Nat) : Wire.Writable Tag.execId (execId n) :=
  Wire.Writable.append ((Wire.checkValue_eq_ok_iff _ _).mp (by decide)) (Wire.inline_padded 8 n)

/-! ### Reports -/

/-- The texts of the order can be written. -/
structure RestingOrder.Written (o : RestingOrder) : Prop where
  orderId : Wire.Writable Tag.orderId o.orderId
  clOrdId : Wire.Writable Tag.clOrdId o.clOrdId
  symbol : Wire.Writable Tag.symbol o.symbol

/-- The text that the occasion brings in, if it brings one in, can be written. -/
def Occasion.Written : Occasion → Prop
  | .rejected text => Wire.Writable Tag.text text
  | .canceled request => Wire.Writable Tag.clOrdId request
  | .replaced former => Wire.Writable Tag.origClOrdId former
  | .acknowledged | .executed .. => True

namespace Notice

variable {n : Notice}

theorem fits_standing (version : Wire.Writable Tag.beginString n.version) (order : n.order.Written)
    (execId : Wire.Writable Tag.execId n.execId) : n.standing.Fits := by
  have opening : (Draft.start ExecutionReport n.version).Fits := Draft.fits_start version (by decide)
  have named := ((opening.put order.orderId (by decide)).put execId (by decide)).put order.clOrdId
    (by decide)
  have coded := (named.putCode Tag.execType n.execType (by decide)).putCode Tag.ordStatus n.ordStatus
    (by decide)
  have sided := (coded.put order.symbol (by decide)).putCode Tag.side n.order.side (by decide)
  have typed := sided.putCode Tag.ordType n.order.ordType (by decide)
  have counted := (typed.putDecimal Tag.orderQty n.order.orderQty (by decide)).putDecimal
    Tag.leavesQty n.leaves (by decide)
  have valued := (counted.putDecimal Tag.cumQty n.order.cumQty (by decide)).putDecimal Tag.avgPx
    n.order.avgPx (by decide)
  exact valued.priceIfSome n.order.price

/-- A report of an order that can be written can be, exactly if the text of its occasion can. -/
theorem fits_iff (version : Wire.Writable Tag.beginString n.version) (order : n.order.Written)
    (execId : Wire.Writable Tag.execId n.execId) :
    Wire.checkValues n.message = .ok () ↔ n.occasion.Written := by
  have standing := fits_standing version order execId
  obtain ⟨version, o, leaves, execId, occasion⟩ := n
  cases occasion with
  | rejected text => exact standing.put_iff (by decide) text
  | acknowledged => exact ⟨fun _ => trivial, fun _ => standing⟩
  | executed qty px =>
    refine ⟨fun _ => trivial, fun _ => ?_⟩
    exact (standing.putDecimal Tag.lastQty qty (by decide)).putDecimal Tag.lastPx px (by decide)
  | canceled request =>
    -- Two fields are set anew here, so the text is read off the finished message.
    constructor
    · intro fits
      exact Wire.writable_of_get fits (Notice.get_clOrdId _) (by decide)
    · intro writable
      exact (standing.put writable (by decide)).put (order.clOrdId.of_tag (by decide)) (by decide)
  | replaced former => exact standing.put_iff (by decide) former

end Notice

/-! ### Refusals -/

/-- A refusal names an order the exchange has given a name to, or none. -/
theorem Refused.fits {n : Refused} (version : Wire.Writable Tag.beginString n.version)
    (known : ∀ o ∈ n.order, o.Written) (clOrdId : Wire.Writable Tag.clOrdId n.clOrdId)
    (origClOrdId : Wire.Writable Tag.origClOrdId n.origClOrdId) :
    Wire.checkValues n.message = .ok () := by
  have name : Wire.Writable Tag.orderId ((n.order.map RestingOrder.orderId).getD "NONE") := by
    cases order : n.order with
    | none => exact (Wire.checkValue_eq_ok_iff _ _).mp (by decide)
    | some o => exact (known o order).orderId
  have code : Wire.Writable Tag.cxlRejReason n.refusal.code := by
    rw [← Wire.checkValue_eq_ok_iff]
    cases n.refusal <;> decide
  have text : Wire.Writable Tag.text n.refusal.text := by
    rw [← Wire.checkValue_eq_ok_iff]
    cases n.refusal <;> decide
  have opening : (Draft.start OrderCancelReject n.version).Fits := Draft.fits_start version (by decide)
  have named := ((opening.put name (by decide)).put clOrdId (by decide)).put origClOrdId (by decide)
  have coded := (named.putCode Tag.ordStatus ((n.order.map RestingOrder.status).getD .rejected)
    (by decide)).putCode Tag.cxlRejResponseTo n.responseTo (by decide)
  exact (coded.put code (by decide)).put text (by decide)

end Exchange

end FixBench
