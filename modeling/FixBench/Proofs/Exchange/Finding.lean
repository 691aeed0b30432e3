import Mathlib.Data.List.Infix
import FixBench.Proofs.Exchange.Run

/-!
# Which open orders can be found

An open order should be found under the identifier its connection knows it by. New orders see to
that: one whose identifier belongs to an open order of its connection is rejected. Replacements do
not. A replacement that takes the identifier of another open order of its connection leads that
identifier to the replaced order, and the other order is lost to its owner.

This is the only way to lose an order: a run keeps all open orders findable exactly as long as no
replacement takes an identifier over (`findable_iff_no_takeover`).
-/
namespace FixBench.Exchange

/-- Every open order is found by its own connection under its current identifier. -/
def Book.Findable (b : Book) : Prop :=
  ∀ e ∈ b.entries, e.order.isOpen = true →
    b.locate? e.owner.id none e.order.clOrdId = some e.order

/-- No two open orders of a connection have the same identifier. -/
def Book.Unshared (b : Book) : Prop :=
  ∀ e ∈ b.entries, ∀ f ∈ b.entries, e.order.isOpen = true → f.order.isOpen = true →
    e.owner.id = f.owner.id → e.order.clOrdId = f.order.clOrdId → e = f

/-- A replacement that is carried out under the identifier of another open order. -/
def State.TakesOver (x : State) : Event → Prop
  | .message m owner =>
    ∃ (request : OrderCancelReplaceRequest) (o : RestingOrder),
      MessageView.ofMessage m = .ok request ∧
      x.book.locate? owner.id none request.origClOrdId = some o ∧ o.isOpen = true ∧
      o.cumQty < request.orderQty ∧
      ∃ other ∈ x.book.entries, other.order.isOpen = true ∧ other.owner.id = owner.id ∧
        other.order.clOrdId = request.clOrdId ∧ other.order.orderId ≠ o.orderId
  | _ => False

/-- The index leads from the identifier of every open order to that order. -/
def Book.Keyed (b : Book) : Prop :=
  ∀ e ∈ b.entries, e.order.isOpen = true →
    b.resolve? e.owner.id e.order.clOrdId = some e.order.orderId

theorem Book.findable_iff_keyed {b : Book} (distinct : b.Distinct) : b.Findable ↔ b.Keyed := by
  constructor
  · intro findable e member opened
    exact resolve?_of_locate? (findable e member opened)
  · intro keyed e member opened
    exact locate?_of_resolve? distinct member (keyed e member opened)

theorem Book.Keyed.unshared {b : Book} (distinct : b.Distinct) (keyed : b.Keyed) : b.Unshared := by
  intro e first f second opened opened' same alike
  have leads := keyed e first opened
  rw [same, alike, keyed f second opened'] at leads
  exact distinct.eq_of_orderId first second (Option.some.inj leads).symm

/-! ### Steps that keep orders findable -/

namespace Book.Keyed

variable {x : State} {owner : Owner}

/-- An order may enter under any identifier that does not belong to an open order. -/
theorem insert (distinct : x.book.Distinct) (keyed : x.book.Keyed) {o : RestingOrder}
    (fresh : x.book.Fresh o.orderId) (free : rejection? x owner.id o.clOrdId = none) :
    (x.book.insert o owner).Keyed := by
  intro e member opened
  rw [resolve?_insert]
  obtain old | rfl := (mem_insert fresh).mp member
  · have leads := keyed e old opened
    rw [if_neg, leads]
    rintro ⟨own, same⟩
    rw [← own, ← same] at leads
    rw [rejection?, hasOpen_of_resolve? distinct old opened leads] at free
    cases free
  · rw [if_pos ⟨rfl, rfl⟩]

/-- An order may change as long as it keeps its identifiers, or it is closed. -/
theorem update {b : Book} (keyed : b.Keyed) {o : RestingOrder}
    (kept : o.isOpen = true → ∀ former ∈ b.entries, former.order.orderId = o.orderId →
      former.order.isOpen = true ∧ former.order.clOrdId = o.clOrdId) :
    (b.update o).Keyed := by
  intro e member opened
  rw [resolve?_update]
  obtain ⟨old, -⟩ | ⟨former, there, same, rfl⟩ := mem_update.mp member
  · exact keyed e old opened
  · obtain ⟨opened, alike⟩ := kept opened former there same
    have leads := keyed former there opened
    rw [alike, same] at leads
    exact leads

theorem removeOwner {b : Book} (keyed : b.Keyed) (ownerId : Nat) : (b.removeOwner ownerId).Keyed := by
  intro e member opened
  obtain ⟨old, stays⟩ := mem_removeOwner.mp member
  rw [resolve?_removeOwner, if_neg stays]
  exact keyed e old opened

theorem step (sound : x.Sound) (keyed : x.book.Keyed) {event : Event}
    (harmless : ¬ x.TakesOver event) : (x.step event).book.Keyed := by
  generalize after : x.step event = y
  have moves := after ▸ moves_step sound.funded event
  cases moves with
  | idle => exact keyed
  | removed => exact keyed.removeOwner _
  | @filled _ _ _ report owner _ fills =>
    cases fills with
    | @executed e _ _ _ found opened known positive within executes =>
      obtain ⟨member, -⟩ := mem_of_find? found
      obtain ⟨_, _, -, -, rfl⟩ := (execute_eq_ok_iff ..).mp executes
      refine keyed.update fun _ former there same => ?_
      rw [sound.distinct.eq_of_orderId there member same]
      exact ⟨opened, rfl⟩
  | @handled m owner _ _ handles =>
    cases handles with
    | rejected => exact keyed
    | refused => exact keyed
    | @accepted request _ _ free => exact keyed.insert sound.distinct (sound.fresh request) free
    | @filledAtOnce request _ _ free => exact keyed.insert sound.distinct (sound.fresh request) free
    | canceled => exact keyed.update fun opened => by cases opened
    | @replaced request o leaves reads found opened above =>
      intro e member still
      rw [resolve?_point]
      -- The new identifier leads to the replaced order; any other order has lost its own only if that
      -- is the identifier, and then it has been taken over.
      obtain ⟨resting, there, own, -⟩ := mem_of_locate? found
      obtain ⟨old, other⟩ | ⟨former, place, same, rfl⟩ := mem_update.mp member
      · rw [if_neg, resolve?_update]
        · exact keyed e old still
        · rintro ⟨alike, taken⟩
          exact harmless ⟨request, o, reads, found, opened, above, e, old, still, alike.symm,
            taken.symm, other⟩
      · have itself := sound.distinct.eq_of_orderId place there same
        rw [itself, if_pos ⟨own.symm, rfl⟩]
        rfl

end Book.Keyed

/-! ### Takeovers -/

/-- After a takeover the identifier of the other order leads to the replaced one. -/
theorem not_findable_of_takesOver {x : State} (sound : x.Sound) {event : Event}
    (takes : x.TakesOver event) : ¬ (x.step event).book.Findable := by
  cases event with
  | fill | logout => cases takes
  | message m owner =>
    obtain ⟨request, o, reads, found, opened, above, other, member, alive, own, same, apart⟩ := takes
    obtain ⟨resting, there, -⟩ := Book.mem_of_locate? found
    have nonneg : 0 ≤ o.cumQty.value := sound.funded ⟨o, resting⟩ there opened
    obtain ⟨leaves, known⟩ := o.exists_leavesQty_replaced opened nonneg above
    -- The other order is still in the book, and its identifier leads elsewhere.
    have after := sound.step (.message m owner)
    rw [Book.findable_iff_keyed after.distinct]
    intro keyed
    have typed : m.msgType = .orderCancelReplaceRequest := MessageView.msgType_of_ofMessage reads
    simp only [State.step, onMessage, typed, onReplace_of_open reads found opened above known]
      at keyed
    have leads := keyed other (Book.mem_update.mpr (.inl ⟨member, apart⟩)) alive
    rw [Book.resolve?_point, if_pos ⟨own.symm, same.symm⟩] at leads
    exact apart (Option.some.inj leads).symm

/-- Two orders of one connection, the second replaced under the identifier of the first. -/
def takeover : List Event :=
  let new := fun id : String => Message.mk "FIX.4.4"
    [⟨Tag.msgType, "D"⟩, ⟨Tag.clOrdId, id⟩, ⟨Tag.symbol, "ACME"⟩, ⟨Tag.side, "1"⟩,
      ⟨Tag.orderQty, "100"⟩, ⟨Tag.ordType, "1"⟩] none
  let replace := Message.mk "FIX.4.4"
    [⟨Tag.msgType, "G"⟩, ⟨Tag.origClOrdId, "C2"⟩, ⟨Tag.clOrdId, "C1"⟩, ⟨Tag.symbol, "ACME"⟩,
      ⟨Tag.side, "1"⟩, ⟨Tag.orderQty, "50"⟩, ⟨Tag.ordType, "1"⟩] none
  let owner : Owner := ⟨1, "FIX.4.4"⟩
  [.message (new "C1") owner, .message (new "C2") owner, .message replace owner]

/-- Both orders are open and known as `C1`, which leads to the second; the first is lost. -/
theorem takeover_loses_order :
    ∃ e ∈ (State.reached .default takeover).book.entries,
      ∃ f ∈ (State.reached .default takeover).book.entries,
        e.order.isOpen = true ∧ f.order.isOpen = true ∧ e ≠ f ∧ e.owner.id = f.owner.id ∧
          e.order.clOrdId = f.order.clOrdId ∧
          (State.reached .default takeover).book.locate? e.owner.id none e.order.clOrdId =
            some f.order := by
  decide +kernel

/-- All along a run every open order is found under its identifier, and none shares it with another
of its connection, if and only if no replacement takes over the identifier of another open order. -/
theorem findable_iff_no_takeover (settings : Settings) (events : List Event) :
    (∀ before, before <+: events →
      (State.reached settings before).book.Findable ∧
        (State.reached settings before).book.Unshared) ↔
    ∀ before event, before ++ [event] <+: events →
      ¬ (State.reached settings before).TakesOver event := by
  constructor
  · intro findable before event along takes
    refine not_findable_of_takesOver (State.Sound.reached settings before) takes ?_
    rw [← State.reached_append_singleton]
    exact (findable _ along).1
  · intro harmless before along
    have sound := State.Sound.reached settings before
    suffices keyed : (State.reached settings before).book.Keyed from
      ⟨(Book.findable_iff_keyed sound.distinct).mpr keyed, keyed.unshared sound.distinct⟩
    induction before using List.reverseRecOn with
    | nil => exact fun _ none => (List.not_mem_nil none).elim
    | append_singleton before event ih =>
      rw [State.reached_append_singleton]
      have earlier := (List.prefix_append before [event]).trans along
      have sound := State.Sound.reached settings before
      exact (ih earlier sound).step sound (harmless before event along)

end FixBench.Exchange
