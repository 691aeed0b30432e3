import FixBench.Text.Quoted

/-!
# Codes and component identifiers

Fields such as the side of an order carry one character out of a fixed set. Each set is a type with
one constructor per code; `CodeSet` gives the character and the name of each and reads them back.
The two ends of a session name each other with short texts of 1 to 32 bytes.
-/
namespace FixBench

/-- A text that names no member of the set called `kind`. -/
structure UnknownCode where
  kind : String
  value : String
  deriving DecidableEq, Repr

def UnknownCode.message (code : UnknownCode) : String :=
  s!"unknown {code.kind} value: {Text.quoted code.value}"

/-! ### Component identifiers -/

/-- Longest identifier, in bytes. -/
def CompId.maxLength : Nat := 32

structure CompId where
  text : String
  nonempty : text ≠ ""
  length_le : text.utf8ByteSize ≤ CompId.maxLength
  deriving DecidableEq, Repr

namespace CompId

instance : ToString CompId := ⟨text⟩

def ofText? (text : String) : Option CompId :=
  if within : text ≠ "" ∧ text.utf8ByteSize ≤ maxLength then some ⟨text, within.1, within.2⟩
  else none

def ofText (text : String) : Except UnknownCode CompId :=
  match ofText? text with
  | some id => .ok id
  | none => .error ⟨"CompId", text⟩

end CompId

/-! ### Code sets -/

/-- A finite set of single-character codes. -/
class CodeSet (α : Type) where
  /-- Name of the set. -/
  kind : String
  /-- Every code, in the order of the characters. -/
  all : List α
  char : α → Char
  name : α → String

namespace CodeSet

variable {α : Type} [CodeSet α]

def ofChar? (c : Char) : Option α := (all : List α).find? fun code => char code == c

/-- A text is a code when it is exactly one character of the set. -/
def ofText? (text : String) : Option α :=
  match text.toList with
  | [c] => ofChar? c
  | _ => none

def ofText (text : String) : Except UnknownCode α :=
  match ofText? text with
  | some code => .ok code
  | none => .error ⟨kind α, text⟩

def text (code : α) : String := String.singleton (char code)

def ofName? (text : String) : Option α := (all : List α).find? fun code => name code == text

end CodeSet

inductive Side where
  | buy
  | sell
  | buyMinus
  | sellPlus
  | sellShort
  | sellShortExempt
  deriving DecidableEq, Repr

instance : CodeSet Side where
  kind := "Side"
  all := [.buy, .sell, .buyMinus, .sellPlus, .sellShort, .sellShortExempt]
  char
    | .buy => '1'
    | .sell => '2'
    | .buyMinus => '3'
    | .sellPlus => '4'
    | .sellShort => '5'
    | .sellShortExempt => '6'
  name
    | .buy => "Buy"
    | .sell => "Sell"
    | .buyMinus => "BuyMinus"
    | .sellPlus => "SellPlus"
    | .sellShort => "SellShort"
    | .sellShortExempt => "SellShortExempt"

def Side.isBuy : Side → Bool
  | .buy | .buyMinus => true
  | _ => false

inductive OrdType where
  | market
  | limit
  | stop
  | stopLimit
  deriving DecidableEq, Repr

instance : CodeSet OrdType where
  kind := "OrdType"
  all := [.market, .limit, .stop, .stopLimit]
  char
    | .market => '1'
    | .limit => '2'
    | .stop => '3'
    | .stopLimit => '4'
  name
    | .market => "Market"
    | .limit => "Limit"
    | .stop => "Stop"
    | .stopLimit => "StopLimit"

def OrdType.requiresPrice : OrdType → Bool
  | .limit | .stopLimit => true
  | _ => false

/-- What an execution report tells about. -/
inductive ExecType where
  | new
  | partialFill
  | fill
  | doneForDay
  | canceled
  | replaced
  | pendingCancel
  | stopped
  | rejected
  | suspended
  | pendingNew
  | calculated
  | expired
  | restated
  | pendingReplace
  | trade
  deriving DecidableEq, Repr

instance : CodeSet ExecType where
  kind := "ExecType"
  all :=
    [.new, .partialFill, .fill, .doneForDay, .canceled, .replaced, .pendingCancel, .stopped,
     .rejected, .suspended, .pendingNew, .calculated, .expired, .restated, .pendingReplace, .trade]
  char
    | .new => '0'
    | .partialFill => '1'
    | .fill => '2'
    | .doneForDay => '3'
    | .canceled => '4'
    | .replaced => '5'
    | .pendingCancel => '6'
    | .stopped => '7'
    | .rejected => '8'
    | .suspended => '9'
    | .pendingNew => 'A'
    | .calculated => 'B'
    | .expired => 'C'
    | .restated => 'D'
    | .pendingReplace => 'E'
    | .trade => 'F'
  name
    | .new => "New"
    | .partialFill => "PartialFill"
    | .fill => "Fill"
    | .doneForDay => "DoneForDay"
    | .canceled => "Canceled"
    | .replaced => "Replaced"
    | .pendingCancel => "PendingCancel"
    | .stopped => "Stopped"
    | .rejected => "Rejected"
    | .suspended => "Suspended"
    | .pendingNew => "PendingNew"
    | .calculated => "Calculated"
    | .expired => "Expired"
    | .restated => "Restated"
    | .pendingReplace => "PendingReplace"
    | .trade => "Trade"

def ExecType.isFill : ExecType → Bool
  | .partialFill | .fill | .trade => true
  | _ => false

/-- State of an order as its exchange reports it. -/
inductive OrdStatus where
  | new
  | partiallyFilled
  | filled
  | doneForDay
  | canceled
  | replaced
  | pendingCancel
  | stopped
  | rejected
  | suspended
  | pendingNew
  | calculated
  | expired
  | acceptedForBidding
  | pendingReplace
  deriving DecidableEq, Repr

instance : CodeSet OrdStatus where
  kind := "OrdStatus"
  all :=
    [.new, .partiallyFilled, .filled, .doneForDay, .canceled, .replaced, .pendingCancel, .stopped,
     .rejected, .suspended, .pendingNew, .calculated, .expired, .acceptedForBidding,
     .pendingReplace]
  char
    | .new => '0'
    | .partiallyFilled => '1'
    | .filled => '2'
    | .doneForDay => '3'
    | .canceled => '4'
    | .replaced => '5'
    | .pendingCancel => '6'
    | .stopped => '7'
    | .rejected => '8'
    | .suspended => '9'
    | .pendingNew => 'A'
    | .calculated => 'B'
    | .expired => 'C'
    | .acceptedForBidding => 'D'
    | .pendingReplace => 'E'
  name
    | .new => "New"
    | .partiallyFilled => "PartiallyFilled"
    | .filled => "Filled"
    | .doneForDay => "DoneForDay"
    | .canceled => "Canceled"
    | .replaced => "Replaced"
    | .pendingCancel => "PendingCancel"
    | .stopped => "Stopped"
    | .rejected => "Rejected"
    | .suspended => "Suspended"
    | .pendingNew => "PendingNew"
    | .calculated => "Calculated"
    | .expired => "Expired"
    | .acceptedForBidding => "AcceptedForBidding"
    | .pendingReplace => "PendingReplace"

def OrdStatus.isTerminal : OrdStatus → Bool
  | .filled | .canceled | .rejected | .expired => true
  | _ => false

/-- The kind of request a cancel reject answers. -/
inductive CxlRejResponseTo where
  | cancelRequest
  | cancelReplaceRequest
  deriving DecidableEq, Repr

instance : CodeSet CxlRejResponseTo where
  kind := "CxlRejResponseTo"
  all := [.cancelRequest, .cancelReplaceRequest]
  char
    | .cancelRequest => '1'
    | .cancelReplaceRequest => '2'
  name
    | .cancelRequest => "CancelRequest"
    | .cancelReplaceRequest => "CancelReplaceRequest"

end FixBench
