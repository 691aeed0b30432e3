import FixBench.Order.Basic
import FixBench.Protocol.Code
import FixBench.Text.Numeral

/-!
# The order book

An exchange keeps its orders under the identifiers it gives them, each with the connection that owns
it. An index leads from a connection's own identifiers to the exchange's; entering an identifier a
second time makes it lead to the later order. Closed orders stay until their connection is removed.
-/
namespace FixBench.Exchange

/-- An order as the exchange sees it. -/
structure RestingOrder where
  orderId : String
  clOrdId : String
  symbol : String
  side : Side
  ordType : OrdType
  orderQty : Decimal
  price : Option Decimal
  cumQty : Decimal
  avgPx : Decimal
  status : OrdStatus
  deriving DecidableEq, Repr

namespace RestingOrder

/-- It can still be canceled, replaced or filled. -/
def isOpen (o : RestingOrder) : Bool := !o.status.isTerminal

def leavesQty (o : RestingOrder) : Except Decimal.ArithmeticError Decimal :=
  if o.isOpen then o.orderQty.sub o.cumQty else .ok .zero

/-- Executes `qty` at `px`. -/
def execute (o : RestingOrder) (qty px : Decimal) (weigh : Weighing := Averaging.weighed) :
    Except Decimal.ArithmeticError RestingOrder := do
  let filled ← o.cumQty.add qty
  let avgPx ← averagePrice o.avgPx o.cumQty px qty filled weigh
  let status := if o.orderQty ≤ filled then OrdStatus.filled else .partiallyFilled
  return { o with avgPx, cumQty := filled, status }

end RestingOrder

/-- The connection an order came in on, and the version it speaks. -/
structure Owner where
  id : Nat
  version : String
  deriving DecidableEq, Repr

structure Entry where
  order : RestingOrder
  owner : Owner
  deriving DecidableEq, Repr

/-- A connection's identifier, and the exchange's identifier it leads to. -/
structure IndexEntry where
  ownerId : Nat
  clOrdId : String
  orderId : String
  deriving DecidableEq, Repr

structure Book where
  entries : List Entry
  index : List IndexEntry
  deriving DecidableEq, Repr

namespace Book

def empty : Book := ⟨[], []⟩

def find? (b : Book) (orderId : String) : Option Entry :=
  b.entries.find? (·.order.orderId == orderId)

/-- The exchange's identifier behind a connection's own. -/
def resolve? (b : Book) (ownerId : Nat) (clOrdId : String) : Option String :=
  (b.index.find? fun i => i.ownerId == ownerId && i.clOrdId == clOrdId).map IndexEntry.orderId

/-- Enters an identifier into the index, in place of an older entry for it. -/
def point (b : Book) (ownerId : Nat) (clOrdId orderId : String) : Book :=
  let others := b.index.filter fun i => !(i.ownerId == ownerId && i.clOrdId == clOrdId)
  { b with index := ⟨ownerId, clOrdId, orderId⟩ :: others }

def insert (b : Book) (order : RestingOrder) (owner : Owner) : Book :=
  let b := b.point owner.id order.clOrdId order.orderId
  let others := b.entries.filter fun e => e.order.orderId != order.orderId
  { b with entries := others ++ [⟨order, owner⟩] }

/-- Changes the order under its identifier. -/
def update (b : Book) (order : RestingOrder) : Book :=
  { b with entries := b.entries.map fun e =>
      if e.order.orderId = order.orderId then { e with order } else e }

/-- Whether a connection has an open order under this identifier. -/
def hasOpen (b : Book) (ownerId : Nat) (clOrdId : String) : Bool :=
  match (b.resolve? ownerId clOrdId).bind b.find? with
  | some e => e.order.isOpen
  | none => false

/-- A connection's order: by the exchange's identifier if that is given and known, otherwise by the
connection's own. Orders of other connections are never found. -/
def locate? (b : Book) (ownerId : Nat) (orderId : Option String) (origClOrdId : String) :
    Option RestingOrder :=
  let known := orderId.filter fun id => (b.find? id).isSome
  match (known.or (b.resolve? ownerId origClOrdId)).bind b.find? with
  | some e => if e.owner.id = ownerId then some e.order else none
  | none => none

def openCount (b : Book) : Nat := b.entries.countP (·.order.isOpen)

/-- Removes a connection with all that is its own. -/
def removeOwner (b : Book) (ownerId : Nat) : Book where
  entries := b.entries.filter (·.owner.id != ownerId)
  index := b.index.filter (·.ownerId != ownerId)

end Book

/-- Counters behind the exchange's identifiers. -/
structure IdCounters where
  orders : Nat
  executions : Nat
  deriving DecidableEq, Repr

namespace IdCounters

def zero : IdCounters := ⟨0, 0⟩

def orderId (n : Nat) : String := "ORD" ++ Numeral.padded 8 n

def execId (n : Nat) : String := "EXEC" ++ Numeral.padded 8 n

def nextOrderId (c : IdCounters) : String × IdCounters :=
  (orderId (c.orders + 1), { c with orders := c.orders + 1 })

def nextExecId (c : IdCounters) : String × IdCounters :=
  (execId (c.executions + 1), { c with executions := c.executions + 1 })

end IdCounters

end FixBench.Exchange
