import FixBench.Proofs.Exchange.Handling
import FixBench.Proofs.Text.NumberText

/-!
# Runs of an exchange

An exchange starts with an empty book and goes through messages of its connections, executions on
its own account, and connections that end. One step either changes nothing or is one of the moves
that `Handles` and `Fills` list (`moves_step`); every invariant is proved over these.

The first of them is `Sound`: no two orders have the same identifier, because every identifier comes
from a counter that only grows, and no open order has executed less than nothing. The latter means
that no order request is ever lost to arithmetic.
-/
namespace FixBench.Exchange

/-- What an exchange can be met with. -/
inductive Event where
  | message (m : Message) (owner : Owner)
  | fill (orderId : String) (qty px : Decimal)
  | logout (ownerId : Nat)

namespace State

/-- The exchange after an event. Where the arithmetic fails nothing has been changed yet. -/
def step (x : State) : Event → State
  | .message m owner =>
    match onMessage x m owner with
    | .ok (_, after) => after
    | .error _ => x
  | .fill orderId qty px =>
    match executeFill x orderId qty px with
    | .ok (_, after) => after
    | .error _ => x
  | .logout ownerId => onLogout x ownerId

def run (x : State) (events : List Event) : State := events.foldl step x

/-- The exchange after a run from its start. -/
def reached (settings : Settings) (events : List Event) : State := (start settings).run events

theorem reached_append_singleton (settings : Settings) (events : List Event) (event : Event) :
    reached settings (events ++ [event]) = (reached settings events).step event := by
  rw [reached, run, List.foldl_append]
  rfl

/-- What holds at the start and is kept by every step holds all along. -/
theorem reached_induction {P : State → Prop} {settings : Settings} (initial : P (start settings))
    (kept : ∀ x event, P x → P (x.step event)) (events : List Event) :
    P (reached settings events) := by
  induction events using List.reverseRecOn with
  | nil => exact initial
  | append_singleton events event ih =>
    rw [reached_append_singleton]
    exact kept _ event ih

end State

/-- The ways an event can change the exchange. -/
inductive Moves (x : State) : Event → State → Prop where
  | idle {event : Event} : Moves x event x
  | handled {m : Message} {owner : Owner} {reports : List Message} {after : State}
      (handles : Handles x m owner reports after) : Moves x (.message m owner) after
  | filled {orderId : String} {qty px : Decimal} {report : Message} {owner : Owner} {after : State}
      (fills : Fills x orderId qty px report owner after) : Moves x (.fill orderId qty px) after
  | removed {ownerId : Nat} : Moves x (.logout ownerId) (onLogout x ownerId)

theorem moves_step {x : State} (funded : x.book.Funded) (event : Event) :
    Moves x event (x.step event) := by
  cases event with
  | message m owner =>
    rw [State.step]
    split
    · rename_i answer after answers
      obtain rfl | ⟨reports, -, handles⟩ := onMessage_cases funded answers
      · exact .idle
      · exact .handled handles
    · exact .idle
  | fill orderId qty px =>
    rw [State.step]
    split
    · rename_i result after executes
      obtain ⟨-, rfl⟩ | ⟨report, owner, -, fills⟩ := executeFill_cases executes
      · exact .idle
      · exact .filled fills
    · exact .idle
  | logout ownerId => exact .removed

/-! ### Exact counts -/

namespace RestingOrder

/-- Neither what is left of the order nor what it has executed after `qty` more is rounded. -/
def countsExactly (o : RestingOrder) (qty : Decimal) : Bool :=
  o.orderQty.subtractsExactly o.cumQty && o.cumQty.addsExactly qty

variable {o : RestingOrder} {qty : Decimal}

theorem value_leavesQty_of_exactly (exactly : o.countsExactly qty = true) (opened : o.isOpen = true)
    {leaves : Decimal} (known : o.leavesQty = .ok leaves) :
    leaves.value = o.orderQty.value - o.cumQty.value := by
  rw [leavesQty, if_pos opened] at known
  exact Decimal.value_sub_of_exactly ((Bool.and_eq_true ..).mp exactly).1 known

theorem value_filled_of_exactly (exactly : o.countsExactly qty = true) {filled : Decimal}
    (sums : o.cumQty.add qty = .ok filled) : filled.value = o.cumQty.value + qty.value :=
  Decimal.value_add_of_exactly ((Bool.and_eq_true ..).mp exactly).2 sums

end RestingOrder

/-! ### Soundness -/

structure State.Sound (x : State) : Prop where
  distinct : x.book.Distinct
  numbered : ∀ e ∈ x.book.entries, ∃ k ≤ x.ids.orders, e.order.orderId = IdCounters.orderId k
  funded : x.book.Funded

theorem IdCounters.orderId_injective : Function.Injective IdCounters.orderId := by
  intro m n same
  exact Numeral.padded_injective 8 ((String.append_right_inj _).mp same)

namespace State.Sound

variable {x : State}

/-- The next identifier is not in use. -/
theorem fresh (sound : x.Sound) (request : NewOrderSingle) :
    x.book.Fresh (x.incoming request).orderId := by
  intro e member same
  obtain ⟨k, old, named⟩ := sound.numbered e member
  have next := IdCounters.orderId_injective (named.symm.trans same)
  omega

theorem counted (sound : x.Sound) (orders reports : Nat) : (x.counted orders reports).Sound where
  distinct := sound.distinct
  numbered e member := by
    obtain ⟨k, old, named⟩ := sound.numbered e member
    exact ⟨k, Nat.le_add_right_of_le old, named⟩
  funded := sound.funded

/-- An order enters under the next identifier. -/
theorem insert (sound : x.Sound) {o : RestingOrder} (owner : Owner) (reports : Nat)
    (named : o.orderId = x.ids.nextOrderId.1) (funded : o.isOpen = true → 0 ≤ o.cumQty.value)
    (fresh : x.book.Fresh o.orderId) :
    State.Sound { x.counted 1 reports with book := x.book.insert o owner } where
  distinct := sound.distinct.insert fresh
  numbered e member := by
    obtain old | rfl := (Book.mem_insert fresh).mp member
    · exact (sound.counted 1 reports).numbered e old
    · exact ⟨_, Nat.le_refl _, named⟩
  funded e member opened := by
    obtain old | rfl := (Book.mem_insert fresh).mp member
    · exact sound.funded e old opened
    · exact funded opened

/-- An order changes under its identifier. -/
theorem update (sound : x.Sound) {o : RestingOrder} (reports : Nat)
    (funded : o.isOpen = true → 0 ≤ o.cumQty.value) :
    State.Sound { x.counted 0 reports with book := x.book.update o } where
  distinct := sound.distinct.update
  numbered e member := by
    obtain ⟨old, -⟩ | ⟨former, there, same, rfl⟩ := Book.mem_update.mp member
    · exact sound.numbered e old
    · obtain ⟨k, old, named⟩ := sound.numbered former there
      exact ⟨k, old, same.symm.trans named⟩
  funded e member opened := by
    obtain ⟨old, -⟩ | ⟨former, there, same, rfl⟩ := Book.mem_update.mp member
    · exact sound.funded e old opened
    · exact funded opened

theorem onLogout (sound : x.Sound) (ownerId : Nat) : (onLogout x ownerId).Sound where
  distinct := sound.distinct.removeOwner
  numbered e member := sound.numbered e (Book.mem_removeOwner.mp member).1
  funded e member := sound.funded e (Book.mem_removeOwner.mp member).1

theorem handled (sound : x.Sound) {m : Message} {owner : Owner} {reports : List Message}
    {after : State} (handles : Handles x m owner reports after) : after.Sound := by
  cases handles with
  | rejected => exact sound.counted 1 1
  | @accepted request =>
    exact sound.insert _ _ rfl (fun _ => Decimal.value_zero.ge) (sound.fresh request)
  | @filledAtOnce request =>
    exact sound.insert _ _ rfl (fun opened => by cases opened) (sound.fresh request)
  | refused => exact sound
  | canceled => exact sound.update _ fun opened => by cases opened
  | @replaced request o leaves reads found opened =>
    obtain ⟨resting, member, -⟩ := Book.mem_of_locate? found
    have nonneg : 0 ≤ o.cumQty.value := sound.funded ⟨o, resting⟩ member opened
    -- Entering an identifier leaves the orders as they are.
    have changed := sound.update (o := o.replaced request) 1 fun _ => nonneg
    exact ⟨changed.distinct, changed.numbered, changed.funded⟩

theorem filled (sound : x.Sound) {orderId : String} {qty px : Decimal} {report : Message}
    {owner : Owner} {after : State} (fills : Fills x orderId qty px report owner after) :
    after.Sound := by
  cases fills with
  | @executed e leaves left filled found opened known positive within executes =>
    have nonneg : 0 ≤ e.order.cumQty.value := sound.funded e (Book.mem_of_find? found).1 opened
    obtain ⟨cumQty, avgPx, sums, -, rfl⟩ := (execute_eq_ok_iff ..).mp executes
    rw [Decimal.lt_iff, Decimal.value_zero] at positive
    exact sound.update _ fun _ => Decimal.value_add_nonneg nonneg positive.le sums

theorem step (sound : x.Sound) (event : Event) : (x.step event).Sound := by
  generalize after : x.step event = y
  have moves := after ▸ moves_step sound.funded event
  cases moves with
  | idle => exact sound
  | handled handles => exact sound.handled handles
  | filled fills => exact sound.filled fills
  | removed => exact sound.onLogout _

theorem reached (settings : Settings) (events : List Event) : (reached settings events).Sound := by
  refine reached_induction ?_ (fun _ event sound => sound.step event) events
  exact ⟨List.nodup_nil, fun _ none => (List.not_mem_nil none).elim,
    fun _ none => (List.not_mem_nil none).elim⟩

end State.Sound

end FixBench.Exchange
