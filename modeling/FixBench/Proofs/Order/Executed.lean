import FixBench.Proofs.Decimal.Value
import FixBench.Proofs.Order.History

/-!
# What an order has executed

An execution is taken into an order only if it is within what is left of it, so what has been executed
should never be more than was ordered. The quantity of an order may change, though: a confirmed
replacement puts a new one into force, and nobody compares it with what has been executed. A
replacement below that leaves an order with a negative rest, and it still works.

This is the only way: over any run whose executions are counted exactly, an order is never executed
beyond its quantity if and only if no replacement goes below what has been executed
(`covered_iff_no_undercut`). The invariant is `Covered`, and it is proved for the changes of an order
one by one.
-/
namespace FixBench.Order

open Tracker (track)

/-! ### Exact counts -/

/-- If the operation is an execution that succeeds, neither what was left before it nor what has been
executed after it is rounded. -/
def countsExactly (o : Order) (operation : Operation) : Bool :=
  match operation.plain?, o.apply operation with
  | some (.fill qty _), .ok _ =>
    o.orderQty.subtractsExactly o.cumQty && o.cumQty.addsExactly qty
  | _, _ => true

/-- All executions of a run are counted without rounding. -/
def runsExactly (o : Order) : List Operation → Bool
  | [] => true
  | operation :: rest => o.countsExactly operation && (o.perform operation).runsExactly rest

theorem runsExactly_append (o : Order) (before rest : List Operation) :
    o.runsExactly (before ++ rest) = (o.runsExactly before && (track o before).runsExactly rest) := by
  induction before generalizing o with
  | nil => rfl
  | cons operation before ih =>
    rw [List.cons_append, runsExactly, runsExactly, ih, Bool.and_assoc, Tracker.track_cons]

theorem countsExactly_along {o : Order} {before operations : List Operation}
    {operation : Operation} (exactly : o.runsExactly operations = true)
    (along : before ++ [operation] <+: operations) :
    (track o before).countsExactly operation = true := by
  obtain ⟨rest, rfl⟩ := along
  rw [List.append_assoc, runsExactly_append, Bool.and_eq_true] at exactly
  have next : ((track o before).countsExactly operation && _) = true := exactly.2
  rw [Bool.and_eq_true] at next
  exact next.1

/-! ### Executed quantity -/

/-- A replacement is confirmed that leaves the order with a quantity below what it has executed. -/
def Undercut (o : Order) (operation : Operation) : Prop :=
  operation.plain? = some .ackReplaced ∧
    ∃ after, o.apply operation = .ok after ∧ after.orderQty < o.cumQty

/-- What has been executed is between nothing and the quantity of the order. -/
structure Covered (o : Order) : Prop where
  nonneg : 0 ≤ o.cumQty.value
  within : o.cumQty.value ≤ o.orderQty.value

variable {o after : Order} {operation plain : Operation}

@[simp]
theorem cumQty_record (o : Order) (action : OrderAction) (state : OrderState) :
    (o.record action state).cumQty = o.cumQty :=
  rfl

@[simp]
theorem cumQty_amend (o : Order) : o.amend.cumQty = o.cumQty := by
  unfold amend
  split <;> rfl

@[simp]
theorem cumQty_withTerms (o : Order) (qty price : Option Decimal) :
    (o.withTerms qty price).cumQty = o.cumQty :=
  rfl

/-- Nothing but executions changes what has been executed, and they add to it. -/
theorem Change.cumQty_nonneg (change : Change o plain after) (nonneg : 0 ≤ o.cumQty.value) :
    0 ≤ after.cumQty.value := by
  cases change with
  | issuedNew | acknowledged | refused | issuedCancel | canceled | issuedReplace => exact nonneg
  | replaced qty price allowed =>
    rw [cumQty_withTerms, cumQty_amend, cumQty_record]
    exact nonneg
  | @filled next leaves qty px total average known allowed positive within sums =>
    have above : 0 < qty.value := by
      rw [Decimal.le_iff, Decimal.value_zero, not_le] at positive
      exact positive
    exact Decimal.value_add_nonneg nonneg above.le sums

theorem cumQty_nonneg_perform (nonneg : 0 ≤ o.cumQty.value) (operation : Operation) :
    0 ≤ (o.perform operation).cumQty.value := by
  obtain same | ⟨plain, -, -, change⟩ := o.perform_cases operation
  · rw [same]
    exact nonneg
  · exact change.cumQty_nonneg nonneg

theorem cumQty_nonneg_track (nonneg : 0 ≤ o.cumQty.value) (operations : List Operation) :
    0 ≤ (track o operations).cumQty.value := by
  induction operations generalizing o with
  | nil => exact nonneg
  | cons operation rest ih =>
    rw [Tracker.track_cons]
    exact ih (cumQty_nonneg_perform nonneg operation)

/-- Only a replacement can leave an order with less than it has executed. -/
theorem Covered.perform (covered : o.Covered) (exactly : o.countsExactly operation = true)
    (honest : ¬ o.Undercut operation) : (o.perform operation).Covered := by
  obtain same | ⟨plain, told, applies, change⟩ := o.perform_cases operation
  · rw [same]
    exact covered
  refine ⟨change.cumQty_nonneg covered.nonneg, ?_⟩
  generalize o.perform operation = after at applies change
  cases change with
  | issuedNew | acknowledged | refused | issuedCancel | canceled | issuedReplace =>
    exact covered.within
  | @replaced next qty price allowed =>
    have enough : ¬ ((o.record .ackReplaced next).amend.withTerms qty price).orderQty < o.cumQty :=
      fun below => honest ⟨told, _, applies, below⟩
    rw [Decimal.lt_iff, not_lt] at enough
    rw [cumQty_withTerms, cumQty_amend, cumQty_record]
    exact enough
  | @filled next leaves qty px total average known allowed positive within sums =>
    -- A finished order takes no execution, so what was left is the difference of the quantities.
    have working : o.state.isTerminal = false := by
      rw [← Bool.not_eq_true]
      intro finished
      rw [OrderState.next_of_isTerminal finished] at allowed
      cases allowed
    simp only [countsExactly, told, applies, Bool.and_eq_true] at exactly
    rw [leavesQty, working, if_neg Bool.false_ne_true, ofArithmetic_eq_ok_iff] at known
    have left : leaves.value = o.orderQty.value - o.cumQty.value :=
      Decimal.value_sub_of_exactly exactly.1 known
    have counted : total.value = o.cumQty.value + qty.value :=
      Decimal.value_add_of_exactly exactly.2 sums
    rw [Decimal.lt_iff, not_lt] at within
    show total.value ≤ o.orderQty.value
    linarith

theorem not_covered_of_undercut (undercut : o.Undercut operation) :
    ¬ (o.perform operation).Covered := by
  obtain ⟨told, after, applies, below⟩ := undercut
  have reached : o.perform operation = after := by rw [Order.perform, applies]
  -- The replacement has left the executed quantity as it was.
  have kept : after.cumQty = o.cumQty := by
    obtain ⟨-, rfl⟩ | ⟨plain, stands, change⟩ := apply_cases applies
    · rfl
    · cases told.symm.trans stands
      cases change with
      | replaced qty price allowed => rw [cumQty_withTerms, cumQty_amend, cumQty_record]
  intro covered
  have within := covered.within
  rw [reached, kept] at within
  rw [Decimal.lt_iff] at below
  exact absurd within (not_le.mpr below)

/-- What is left of an order can be told, and it is not negative. -/
theorem Covered.exists_leavesQty (covered : o.Covered) :
    ∃ leaves, o.leavesQty = .ok leaves ∧ 0 ≤ leaves.value := by
  unfold leavesQty
  by_cases finished : o.state.isTerminal = true
  · rw [if_pos finished]
    exact ⟨.zero, rfl, Decimal.value_zero.ge⟩
  · rw [if_neg finished]
    obtain ⟨leaves, subtracts⟩ := Decimal.exists_sub covered.nonneg covered.within
    refine ⟨leaves, ?_, Decimal.value_sub_nonneg covered.within subtracts⟩
    rw [subtracts, OrderFault.ofArithmetic]

theorem Covered.entered (clOrdId symbol : String) (side : Side) {qty : Decimal}
    (price : Option Decimal) (positive : .zero < qty) :
    (Order.entered clOrdId symbol side qty price).Covered := by
  rw [Decimal.lt_iff, Decimal.value_zero] at positive
  cases price with
  | none => exact ⟨Decimal.value_zero.ge, Decimal.value_zero.trans_le positive.le⟩
  | some px => exact ⟨Decimal.value_zero.ge, Decimal.value_zero.trans_le positive.le⟩

/-! ### Runs -/

/-- Over a run from the start of an order, as long as executions are counted exactly: what has been
executed is never negative; and it stays within the quantity of the order, with a rest that is not
negative, if and only if no replacement of the run goes below what has been executed. -/
theorem covered_iff_no_undercut (clOrdId symbol : String) (side : Side) (qty : Decimal)
    (price : Option Decimal) (operations : List Operation) (positive : .zero < qty)
    (exactly : (entered clOrdId symbol side qty price).runsExactly operations = true) :
    (∀ before, before <+: operations →
      0 ≤ (track (entered clOrdId symbol side qty price) before).cumQty.value) ∧
    ((∀ before, before <+: operations →
      (track (entered clOrdId symbol side qty price) before).Covered ∧
        ∃ leaves, (track (entered clOrdId symbol side qty price) before).leavesQty = .ok leaves ∧
          0 ≤ leaves.value) ↔
      ∀ before operation, before ++ [operation] <+: operations →
        ¬ (track (entered clOrdId symbol side qty price) before).Undercut operation) := by
  have start := Covered.entered clOrdId symbol side price positive
  generalize entered clOrdId symbol side qty price = o at start exactly
  refine ⟨fun before _ => cumQty_nonneg_track start.nonneg before, ?_⟩
  constructor
  -- A replacement below what has been executed shows in the very next state.
  · intro covered before operation along undercut
    refine not_covered_of_undercut undercut ?_
    rw [← Tracker.track_append_singleton]
    exact (covered _ along).1
  · intro honest before along
    suffices covered : (track o before).Covered from ⟨covered, covered.exists_leavesQty⟩
    induction before using List.reverseRecOn with
    | nil => exact start
    | append_singleton before operation ih =>
      rw [Tracker.track_append_singleton]
      have earlier := (List.prefix_append before [operation]).trans along
      exact (ih earlier).perform (countsExactly_along exactly along) (honest before operation along)

/-- Trades 60 of 100 at 10, and is then replaced at a quantity of 50. -/
def shrunk : List Operation :=
  let amount (text : String) := (Decimal.ofText? text).getD .zero
  [.issueNew, .ackNew (some "ORD1"), .fill (amount "60") (amount "10"),
    .issueReplace ⟨"MOD_C1", amount "50", none⟩, .ackReplaced]

/-- Somewhere in this run a replacement goes below what has been executed. -/
theorem covered_iff_no_undercut_shrunk :
    Decimal.zero < .hundred ∧
      (entered "C1" "AAPL" .buy .hundred none).runsExactly shrunk = true ∧
      ∃ before operation, before ++ [operation] <+: shrunk ∧
        (track (entered "C1" "AAPL" .buy .hundred none) before).Undercut operation := by
  have positive : Decimal.zero < .hundred := by decide
  have exactly : (entered "C1" "AAPL" .buy .hundred none).runsExactly shrunk = true := by
    decide +kernel
  refine ⟨positive, exactly, ?_⟩
  by_contra never
  -- Without one the whole run would be covered, and its end is not.
  have honest : ∀ before operation, before ++ [operation] <+: shrunk →
      ¬ (track (entered "C1" "AAPL" .buy .hundred none) before).Undercut operation :=
    fun before operation along undercut => never ⟨before, operation, along, undercut⟩
  obtain ⟨-, covered⟩ :=
    covered_iff_no_undercut "C1" "AAPL" .buy .hundred none shrunk positive exactly
  have within := (covered.mpr honest shrunk (List.prefix_refl _)).1.within
  rw [← Decimal.le_iff] at within
  exact absurd within (by decide +kernel)

/-- The order has executed more than its quantity, and what is left of it is negative. -/
theorem shrunk_is_overexecuted :
    Decimal.zero < .hundred ∧
      (entered "C1" "AAPL" .buy .hundred none).runsExactly shrunk = true ∧
      (track (entered "C1" "AAPL" .buy .hundred none) shrunk).orderQty <
        (track (entered "C1" "AAPL" .buy .hundred none) shrunk).cumQty ∧
      ∃ leaves, (track (entered "C1" "AAPL" .buy .hundred none) shrunk).leavesQty = .ok leaves ∧
        leaves < .zero := by
  refine ⟨by decide, by decide +kernel, by decide +kernel,
    (Decimal.ofText? "-10").getD .zero, by decide +kernel, by decide +kernel⟩

end FixBench.Order
