import FixBench.Proofs.Exchange.Run

/-!
# Connections do not meet in the book

All orders lie in one book, but what one connection does changes neither the orders nor the index of
another. A request touches the order it enters or finds, and that one is its own connection's; the
index is entered under its own connection's key. An execution touches the order it executes.

All of this is one list of changes, `Book.Change`, and the rest of the module is about these.
`Book.SameFor` is the frame: it holds of every change that is not the connection's own. The index
keeps to its connection as well: whatever it leads to is an order in the book, and an order of the
connection the entry belongs to (`Book.Indexed`). Together they keep connections apart in every
exchange that can be reached (`State.isolated`).
-/
namespace FixBench.Exchange

/-! ### Changes of the book -/

/-- What can be done to the book on behalf of a connection. Only open orders are ever changed. -/
inductive Book.Change (b : Book) (ownerId : Nat) : Book → Prop where
  | kept : b.Change ownerId b
  | entered {o : RestingOrder} {owner : Owner} (own : owner.id = ownerId)
      (fresh : b.Fresh o.orderId) : b.Change ownerId (b.insert o owner)
  | changed {o : RestingOrder} {former : Entry} (member : former ∈ b.entries)
      (own : former.owner.id = ownerId) (opened : former.order.isOpen = true)
      (named : former.order.orderId = o.orderId) : b.Change ownerId (b.update o)
  | renamed {o : RestingOrder} {former : Entry} {clOrdId : String} (member : former ∈ b.entries)
      (own : former.owner.id = ownerId) (opened : former.order.isOpen = true)
      (named : former.order.orderId = o.orderId) :
      b.Change ownerId ((b.update o).point ownerId clOrdId o.orderId)

variable {x after : State} {m : Message} {owner : Owner} {ownerId : Nat} {b b' : Book}

theorem Handles.change {reports : List Message} (sound : x.Sound)
    (handles : Handles x m owner reports after) : x.book.Change owner.id after.book := by
  cases handles with
  | rejected => exact .kept
  | refused => exact .kept
  | @accepted request => exact .entered rfl (sound.fresh request)
  | @filledAtOnce request => exact .entered rfl (sound.fresh request)
  | canceled reads found opened =>
    obtain ⟨resting, there, own, -⟩ := Book.mem_of_locate? found
    exact .changed there own opened rfl
  | @replaced request o leaves reads found opened =>
    obtain ⟨resting, there, own, -⟩ := Book.mem_of_locate? found
    have named : o.orderId = (o.replaced request).orderId := rfl
    exact named ▸ .renamed there own opened named

theorem Fills.change {orderId : String} {qty px : Decimal} {report : Message}
    (fills : Fills x orderId qty px report owner after) : x.book.Change owner.id after.book := by
  cases fills with
  | executed found opened known positive within executes =>
    obtain ⟨member, -⟩ := Book.mem_of_find? found
    obtain ⟨_, _, -, -, rfl⟩ := (execute_eq_ok_iff ..).mp executes
    exact .changed member rfl opened rfl

/-! ### The frame -/

/-- Two books are the same as far as one connection is concerned. -/
structure Book.SameFor (ownerId : Nat) (b b' : Book) : Prop where
  orders : ∀ e : Entry, e.owner.id = ownerId → (e ∈ b'.entries ↔ e ∈ b.entries)
  index : ∀ clOrdId, b'.resolve? ownerId clOrdId = b.resolve? ownerId clOrdId

namespace Book.SameFor

variable {b'' : Book} {o : RestingOrder}

theorem refl (ownerId : Nat) (b : Book) : SameFor ownerId b b := ⟨fun _ _ => Iff.rfl, fun _ => rfl⟩

theorem trans (first : SameFor ownerId b b') (second : SameFor ownerId b' b'') :
    SameFor ownerId b b'' where
  orders e own := (second.orders e own).trans (first.orders e own)
  index clOrdId := (second.index clOrdId).trans (first.index clOrdId)

theorem insert (fresh : b.Fresh o.orderId) (other : owner.id ≠ ownerId) :
    SameFor ownerId b (b.insert o owner) where
  orders e own := by
    rw [mem_insert fresh]
    refine ⟨fun member => member.resolve_right ?_, Or.inl⟩
    rintro rfl
    exact other own
  index clOrdId := by rw [resolve?_insert, if_neg fun same => other same.1]

/-- Changing an order concerns its owner only. -/
theorem update (distinct : b.Distinct) {former : Entry} (there : former ∈ b.entries)
    (same : former.order.orderId = o.orderId) (other : former.owner.id ≠ ownerId) :
    SameFor ownerId b (b.update o) where
  orders e own := by
    rw [mem_update]
    constructor
    -- The changed order is another connection's before and after.
    · rintro (⟨member, -⟩ | ⟨changed, member, named, rfl⟩)
      · exact member
      · rw [distinct.eq_of_orderId member there (named.trans same.symm)] at own
        exact absurd own other
    · intro member
      refine .inl ⟨member, fun named => ?_⟩
      rw [distinct.eq_of_orderId member there (named.trans same.symm)] at own
      exact other own
  index clOrdId := resolve?_update b o ownerId clOrdId

theorem point {own : Nat} {clOrdId orderId : String} (other : own ≠ ownerId) :
    SameFor ownerId b (b.point own clOrdId orderId) where
  orders _ _ := Iff.rfl
  index clOrdId := by rw [resolve?_point, if_neg fun same => other same.1]

theorem removeOwner {gone : Nat} (other : gone ≠ ownerId) :
    SameFor ownerId b (b.removeOwner gone) where
  orders e own := by
    rw [mem_removeOwner, and_iff_left]
    rw [own]
    exact other.symm
  index clOrdId := by rw [resolve?_removeOwner, if_neg other.symm]

end Book.SameFor

/-- What is done on behalf of one connection leaves the others' part of the book as it is. -/
theorem Book.Change.sameFor {other : Nat} (distinct : b.Distinct) (change : b.Change ownerId b')
    (apart : ownerId ≠ other) : b.SameFor other b' := by
  cases change with
  | kept => exact .refl ..
  | entered own fresh => exact .insert fresh (own ▸ apart)
  | changed member own opened named => exact .update distinct member named (own ▸ apart)
  | renamed member own opened named =>
    have changed := Book.SameFor.update distinct member named (own ▸ apart)
    exact changed.trans (.point apart)

theorem Handles.sameFor {reports : List Message} (sound : x.Sound)
    (handles : Handles x m owner reports after) (other : owner.id ≠ ownerId) :
    x.book.SameFor ownerId after.book :=
  (handles.change sound).sameFor sound.distinct other

theorem Fills.sameFor {orderId : String} {qty px : Decimal} {report : Message} (sound : x.Sound)
    (fills : Fills x orderId qty px report owner after) (other : owner.id ≠ ownerId) :
    x.book.SameFor ownerId after.book :=
  fills.change.sameFor sound.distinct other

/-! ### The index -/

/-- Every entry of the index leads to an order in the book, which is its own connection's. -/
def Book.Indexed (b : Book) : Prop :=
  ∀ ownerId clOrdId orderId, b.resolve? ownerId clOrdId = some orderId →
    ∃ e ∈ b.entries, e.order.orderId = orderId ∧ e.owner.id = ownerId

namespace Book.Indexed

variable {o : RestingOrder}

theorem insert (indexed : b.Indexed) (fresh : b.Fresh o.orderId) (owner : Owner) :
    (b.insert o owner).Indexed := by
  intro ownerId clOrdId orderId leads
  rw [resolve?_insert] at leads
  split at leads
  · rename_i own
    cases leads
    exact ⟨⟨o, owner⟩, (mem_insert fresh).mpr (.inr rfl), rfl, own.1⟩
  · obtain ⟨e, member, named, own⟩ := indexed _ _ _ leads
    exact ⟨e, (mem_insert fresh).mpr (.inl member), named, own⟩

/-- An order keeps its identifier and its owner when it changes. -/
theorem update (indexed : b.Indexed) (o : RestingOrder) : (b.update o).Indexed := by
  intro ownerId clOrdId orderId leads
  rw [resolve?_update] at leads
  obtain ⟨e, member, named, own⟩ := indexed _ _ _ leads
  by_cases same : e.order.orderId = o.orderId
  · exact ⟨{ e with order := o }, mem_update.mpr (.inr ⟨e, member, same, rfl⟩),
      same.symm.trans named, own⟩
  · exact ⟨e, mem_update.mpr (.inl ⟨member, same⟩), named, own⟩

theorem point (indexed : b.Indexed) {e : Entry} (member : e ∈ b.entries) (clOrdId : String) :
    (b.point e.owner.id clOrdId e.order.orderId).Indexed := by
  intro ownerId name orderId leads
  rw [resolve?_point] at leads
  split at leads
  · rename_i own
    cases leads
    exact ⟨e, member, rfl, own.1⟩
  · exact indexed _ _ _ leads

/-- A connection goes together with all that led to its orders. -/
theorem removeOwner (indexed : b.Indexed) (gone : Nat) : (b.removeOwner gone).Indexed := by
  intro ownerId clOrdId orderId leads
  rw [resolve?_removeOwner] at leads
  split at leads
  · cases leads
  · rename_i stays
    obtain ⟨e, member, named, own⟩ := indexed _ _ _ leads
    refine ⟨e, mem_removeOwner.mpr ⟨member, ?_⟩, named, own⟩
    rw [own]
    exact stays

theorem change (indexed : b.Indexed) (change : b.Change ownerId b') : b'.Indexed := by
  cases change with
  | kept => exact indexed
  | entered own fresh => exact indexed.insert fresh _
  | changed => exact indexed.update _
  | @renamed o former clOrdId member own opened named =>
    -- The new identifier leads to the order as it stands after the change.
    have changed : { former with order := o } ∈ (b.update o).entries :=
      mem_update.mpr (.inr ⟨former, member, named, rfl⟩)
    exact own ▸ (indexed.update o).point changed clOrdId

theorem step (sound : x.Sound) (indexed : x.book.Indexed) (event : Event) :
    (x.step event).book.Indexed := by
  generalize reaches : x.step event = y
  have moves := reaches ▸ moves_step sound.funded event
  cases moves with
  | idle => exact indexed
  | handled handles => exact indexed.change (handles.change sound)
  | filled fills => exact indexed.change fills.change
  | removed => exact indexed.removeOwner _

theorem reached (settings : Settings) (events : List Event) :
    (State.reached settings events).book.Indexed := by
  induction events using List.reverseRecOn with
  | nil =>
    intro ownerId clOrdId orderId leads
    cases leads
  | append_singleton events event ih =>
    rw [State.reached_append_singleton]
    exact ih.step (State.Sound.reached settings events) event

end Book.Indexed

/-! ### Isolation -/

/-- What an exchange owes to connections that have nothing to do with each other. -/
structure State.Isolated (x : State) : Prop where
  /-- A message is answered, and all other connections keep their part of the book. -/
  messages : ∀ m owner, ∃ answer after, onMessage x m owner = .ok (answer, after) ∧
    ∀ other, other ≠ owner.id → x.book.SameFor other after.book
  /-- A connection that ends takes its own orders with it and no others. -/
  orders : ∀ gone e,
    e ∈ (onLogout x gone).book.entries ↔ e ∈ x.book.entries ∧ e.owner.id ≠ gone
  /-- The same goes for its entries in the index. -/
  index : ∀ gone ownerId clOrdId orderId,
    (onLogout x gone).book.resolve? ownerId clOrdId = some orderId ↔
      x.book.resolve? ownerId clOrdId = some orderId ∧ ownerId ≠ gone
  indexed : x.book.Indexed

/-- Connections are kept apart in every exchange that can be reached. -/
theorem State.isolated (settings : Settings) (events : List Event) :
    (State.reached settings events).Isolated := by
  have sound := State.Sound.reached settings events
  have indexed := Book.Indexed.reached settings events
  -- From here on only the invariants matter, not how the state was reached.
  generalize State.reached settings events = x at sound indexed
  constructor
  case messages =>
    intro m owner
    obtain ⟨idle, ends, -⟩ | ⟨reports, after, ends, handles⟩ :=
      onMessage_ends x m owner sound.funded
    · exact ⟨idle, x, ends, fun other _ => .refl other x.book⟩
    · exact ⟨_, after, ends, fun other apart => handles.sameFor sound apart.symm⟩
  case orders =>
    intro gone e
    exact Book.mem_removeOwner
  case index =>
    intro gone ownerId clOrdId orderId
    rw [onLogout, Book.resolve?_removeOwner]
    by_cases ends : ownerId = gone
    · simp [ends]
    · simp [ends]
  case indexed => exact indexed

end FixBench.Exchange
