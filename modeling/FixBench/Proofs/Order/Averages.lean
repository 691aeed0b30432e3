import FixBench.Proofs.Failing
import FixBench.Proofs.Order.Executed

/-!
# What an order has paid on average

The average price of an order is kept along with its executed quantity, one execution at a time: the
first execution sets it, each further one is weighed in. As long as no result is rounded, the two
always tell what has been traded: the executed quantity is the sum of the quantities of all executions
taken, and the average price times it is the sum of what they cost (`accounts_track`). Replacements in
between leave both alone.

An execution is taken only by an order that works, and only within what is left of it; it finishes the
order if it is all that is left, and only then (`finishes_iff_of_executed`).
-/
namespace FixBench

/-! ### Weighing in -/

/-- None of the results on the way to an average price is rounded. -/
def weighsExactly (avgPx cumQty px qty filled : Decimal) : Bool :=
  cumQty.isZero ||
    match avgPx.mul cumQty, px.mul qty with
    | .ok before, .ok added =>
      avgPx.multipliesExactly cumQty && px.multipliesExactly qty && before.addsExactly added &&
        match before.add added with
        | .ok total => total.dividesExactly filled
        | .error _ => true
    | _, _ => true

/-- An exact average times the quantity it is over is what everything cost. -/
theorem value_averagePrice {avgPx cumQty px qty filled average : Decimal}
    (exactly : weighsExactly avgPx cumQty px qty filled = true)
    (sum : filled.value = cumQty.value + qty.value)
    (averages : averagePrice avgPx cumQty px qty filled = .ok average) :
    average.value * filled.value = avgPx.value * cumQty.value + px.value * qty.value := by
  unfold averagePrice at averages
  split at averages
  · rename_i first
    cases averages
    rw [sum, Decimal.value_of_isZero first, zero_add, mul_zero, zero_add]
  · rename_i later
    simp only [Averaging.weighed, bind_eq_ok_iff] at averages
    obtain ⟨before, weighs, added, costs, total, adds, divides⟩ := averages
    rw [Bool.not_eq_true] at later
    simp only [weighsExactly, later, weighs, costs, adds, Bool.false_or, Bool.and_eq_true] at exactly
    obtain ⟨⟨⟨beforeExactly, addedExactly⟩, totalExactly⟩, averageExactly⟩ := exactly
    -- There is a quotient, so what it was divided by is not zero.
    have nonzero : filled.value ≠ 0 := by
      intro null
      rw [Decimal.div, if_pos (Decimal.isZero_of_value null)] at divides
      cases divides
    calc average.value * filled.value
      _ = total.value := by
        rw [Decimal.value_div_of_exactly averageExactly divides, div_mul_cancel₀ _ nonzero]
      _ = before.value + added.value := Decimal.value_add_of_exactly totalExactly adds
      _ = avgPx.value * cumQty.value + px.value * qty.value := by
        rw [Decimal.value_mul_of_exactly beforeExactly weighs,
          Decimal.value_mul_of_exactly addedExactly costs]

/-- What was traded, and at what price. -/
structure Execution where
  qty : Decimal
  px : Decimal
  deriving DecidableEq, Repr

namespace Order

open Tracker (track)

/-! ### Executions of a run -/

/-- The execution an operation asks an order to take. -/
def Operation.execution? : Operation → Option Execution
  | .fill qty px => some ⟨qty, px⟩
  | _ => none

/-- The execution that the order takes by an operation, if it takes one. -/
def executed? (o : Order) (operation : Operation) : Option Execution :=
  match ((Tracker.perform operation).run o).1 with
  | .ok () => operation.plain?.bind Operation.execution?
  | .error _ => none

/-- All executions that the order takes, one operation after another. -/
def executions (o : Order) : List Operation → List Execution
  | [] => []
  | operation :: rest => (o.executed? operation).toList ++ (o.perform operation).executions rest

/-- If the operation is an execution that the order takes, the new executed quantity is not rounded,
and nothing is on the way to the new average price. -/
def averagesExactly (o : Order) (operation : Operation) : Bool :=
  match o.executed? operation with
  | none => true
  | some e =>
    o.cumQty.addsExactly e.qty &&
      match o.cumQty.add e.qty with
      | .ok filled => weighsExactly o.avgPx o.cumQty e.px e.qty filled
      | .error _ => true

/-- Nothing is rounded in a run. -/
def averagesExactlyAlong (o : Order) : List Operation → Bool
  | [] => true
  | operation :: rest => o.averagesExactly operation && (o.perform operation).averagesExactlyAlong rest

variable {o after : Order} {operation plain : Operation} {e : Execution}

theorem executed?_of_refused {fault : OrderFault} (refuses : o.apply operation = .error fault) :
    o.executed? operation = none := by
  rw [executed?, Tracker.run_perform, refuses]
  rfl

theorem executed?_of_change (told : operation.plain? = some plain)
    (applies : o.apply operation = .ok after) :
    o.executed? operation = plain.execution? := by
  rw [executed?, Tracker.run_perform, applies, told]
  rfl

theorem executed?_of_isPendingReport (pending : operation.IsPendingReport) :
    o.executed? operation = none := by
  rw [executed?, Operation.plain?_of_isPendingReport pending]
  split <;> rfl

/-- An execution that is taken is a change of the order. -/
theorem change_of_executed (taken : o.executed? operation = some e) :
    o.apply operation = .ok (o.perform operation) ∧
      Change o (.fill e.qty e.px) (o.perform operation) := by
  unfold perform
  cases applies : o.apply operation with
  | error fault =>
    rw [executed?_of_refused applies] at taken
    cases taken
  | ok after =>
    obtain ⟨pending, -⟩ | ⟨plain, told, change⟩ := apply_cases applies
    · rw [executed?_of_isPendingReport pending] at taken
      cases taken
    · rw [executed?_of_change told applies] at taken
      cases plain with
      | fill qty px =>
        cases taken
        exact ⟨rfl, change⟩
      | _ => cases taken

/-! ### Executed quantity and average price -/

@[simp]
theorem avgPx_record (o : Order) (action : OrderAction) (state : OrderState) :
    (o.record action state).avgPx = o.avgPx :=
  rfl

@[simp]
theorem avgPx_amend (o : Order) : o.amend.avgPx = o.avgPx := by
  unfold amend
  split <;> rfl

@[simp]
theorem avgPx_withTerms (o : Order) (qty price : Option Decimal) :
    (o.withTerms qty price).avgPx = o.avgPx :=
  rfl

/-- An order that takes no execution keeps its executed quantity and its average price, through
replacements too. -/
theorem kept_of_not_executed (none : o.executed? operation = none) :
    (o.perform operation).cumQty = o.cumQty ∧ (o.perform operation).avgPx = o.avgPx := by
  obtain same | ⟨plain, told, applies, change⟩ := o.perform_cases operation
  · rw [same]
    exact ⟨rfl, rfl⟩
  rw [executed?_of_change told applies] at none
  generalize o.perform operation = after at change
  cases change with
  -- A confirmed replacement is the only other change of quantities, and it changes the terms.
  | issuedNew | acknowledged | refused | issuedCancel | canceled | issuedReplace => exact ⟨rfl, rfl⟩
  | replaced qty price allowed => simp
  | filled => cases none

/-- Quantity and price of an order account for the executions it has taken. -/
structure Accounts (o : Order) (taken : List Execution) : Prop where
  quantity : o.cumQty.value = (taken.map fun e => e.qty.value).sum
  turnover : o.avgPx.value * o.cumQty.value = (taken.map fun e => e.px.value * e.qty.value).sum

variable {taken : List Execution}

theorem Accounts.perform (accounts : o.Accounts taken)
    (exactly : o.averagesExactly operation = true) :
    (o.perform operation).Accounts (taken ++ (o.executed? operation).toList) := by
  cases executed : o.executed? operation with
  | none =>
    obtain ⟨quantity, price⟩ := kept_of_not_executed executed
    rw [Option.toList_none, List.append_nil]
    constructor
    · rw [quantity, accounts.quantity]
    · rw [quantity, price, accounts.turnover]
  | some e =>
    obtain ⟨-, change⟩ := change_of_executed executed
    generalize o.perform operation = after at change
    cases change with
    | @filled next leaves qty px total average known allowed positive within sums averages =>
      simp only [averagesExactly, executed, sums, Bool.and_eq_true] at exactly
      have quantity : total.value = o.cumQty.value + e.qty.value :=
        Decimal.value_add_of_exactly exactly.1 sums
      have turnover : average.value * total.value =
          o.avgPx.value * o.cumQty.value + e.px.value * e.qty.value :=
        value_averagePrice exactly.2 quantity averages
      -- Multiplied by the new quantity, the new average is the turnover it was divided out of.
      constructor
      · simpa [accounts.quantity] using quantity
      · simpa [accounts.turnover] using turnover

/-- The account grows along the run, which may start from any order and any account of it. -/
theorem Accounts.track (accounts : o.Accounts taken) {operations : List Operation}
    (exactly : o.averagesExactlyAlong operations = true) :
    (track o operations).Accounts (taken ++ o.executions operations) := by
  induction operations generalizing o taken with
  | nil =>
    rw [executions, List.append_nil]
    exact accounts
  | cons operation rest ih =>
    rw [averagesExactlyAlong, Bool.and_eq_true] at exactly
    rw [Tracker.track_cons, executions, ← List.append_assoc]
    exact ih (accounts.perform exactly.1) exactly.2

theorem Accounts.entered (clOrdId symbol : String) (side : Side) (qty : Decimal)
    (price : Option Decimal) : (Order.entered clOrdId symbol side qty price).Accounts [] := by
  cases price with
  | none => exact ⟨Decimal.value_zero, by simp [Order.entered, unsent]⟩
  | some px => exact ⟨Decimal.value_zero, by simp [Order.entered, unsent, withPrice]⟩

/-! ### What an execution is taken for -/

/-- An order that takes an execution is working, has as much left, and is filled by it exactly if it
is all that is left. -/
structure Takes (o : Order) (e : Execution) (after : Order) : Prop where
  working : o.state = .new
  positive : .zero < e.qty
  within : ∃ leaves, o.leavesQty = .ok leaves ∧ e.qty ≤ leaves ∧
    (after.state = .filled ↔ e.qty.sameValue leaves = true)

theorem takes_of_executed (taken : o.executed? operation = some e) :
    o.Takes e (o.perform operation) := by
  obtain ⟨-, change⟩ := change_of_executed taken
  generalize o.perform operation = after at change
  cases change with
  | @filled next leaves qty px total average known allowed positive within sums averages =>
    have below : e.qty ≤ leaves := Decimal.le_of_not_lt within
    -- The action has been chosen before the quantity was checked, so it only compares one way.
    have working : o.state = .new ∧ (next = .filled ↔ leaves ≤ e.qty) := by
      unfold fillAction at allowed
      split at allowed <;> cases state : o.state <;> rw [state] at allowed <;> cases allowed <;>
        simp_all
    refine ⟨working.1, Decimal.lt_of_not_le positive, leaves, known, below, ?_⟩
    rw [state_record, working.2, Decimal.sameValue_iff, Decimal.le_iff]
    rw [Decimal.le_iff] at below
    constructor
    · exact fun above => le_antisymm below above
    · exact fun same => same.ge

/-- Over a run from the start of an order: if nothing is rounded, the executed quantity is the sum of
the quantities of the executions taken, and the average price times it is the sum of what they cost.
And whenever an execution is taken, it is within what was left, and finishes the order if it is all of
that and only then. -/
theorem fills_accounted (clOrdId symbol : String) (side : Side) (qty : Decimal)
    (price : Option Decimal) (operations : List Operation) :
    ((entered clOrdId symbol side qty price).averagesExactlyAlong operations = true →
      (track (entered clOrdId symbol side qty price) operations).Accounts
        ((entered clOrdId symbol side qty price).executions operations)) ∧
    ∀ operation e,
      (track (entered clOrdId symbol side qty price) operations).executed? operation = some e →
        (track (entered clOrdId symbol side qty price) operations).Takes e
          (track (entered clOrdId symbol side qty price) (operations ++ [operation])) := by
  constructor
  · intro exactly
    exact (Accounts.entered clOrdId symbol side qty price).track exactly
  · intro operation e taken
    rw [Tracker.track_append_singleton]
    exact takes_of_executed taken

/-- The decimal that a text denotes. -/
def amount (text : String) : Decimal := (Decimal.ofText? text).getD .zero

/-- Trades 60 of 100 at 10, is replaced at a quantity of 140, and then trades 80 at 17. -/
def resized : List Operation :=
  [.issueNew, .ackNew (some "ORD1"), .fill (amount "60") (amount "10"),
    .issueReplace ⟨"MOD_C1", amount "140", none⟩, .ackReplaced, .fill (amount "80") (amount "17")]

/-- Both executions are accounted for, across the replacement. The second is all that is left behind it,
and finishes the order. -/
theorem fills_accounted_resized :
    (entered "C1" "AAPL" .buy .hundred none).averagesExactlyAlong resized = true ∧
      (track (entered "C1" "AAPL" .buy .hundred none) resized).cumQty.value = 60 + 80 ∧
      (track (entered "C1" "AAPL" .buy .hundred none) resized).avgPx.value * (60 + 80) =
        10 * 60 + 17 * 80 ∧
      (track (entered "C1" "AAPL" .buy .hundred none) resized).state = .filled := by
  have exactly : (entered "C1" "AAPL" .buy .hundred none).averagesExactlyAlong resized = true := by
    decide +kernel
  have taken : (entered "C1" "AAPL" .buy .hundred none).executions resized =
      [⟨amount "60", amount "10"⟩, ⟨amount "80", amount "17"⟩] := by
    decide +kernel
  have values : (amount "60").value = 60 ∧ (amount "10").value = 10 ∧ (amount "80").value = 80 ∧
      (amount "17").value = 17 := by
    decide +kernel
  obtain ⟨sixty, ten, eighty, seventeen⟩ := values
  obtain ⟨quantity, turnover⟩ :=
    (fills_accounted "C1" "AAPL" .buy .hundred none resized).1 exactly
  rw [taken] at quantity turnover
  simp only [List.map_cons, List.map_nil, List.sum_cons, List.sum_nil, add_zero, sixty, ten, eighty,
    seventeen] at quantity turnover
  rw [quantity] at turnover
  obtain ⟨leaves, known, -, finishes⟩ :=
    ((fills_accounted "C1" "AAPL" .buy .hundred none (resized.take 5)).2
      (.fill (amount "80") (amount "17")) ⟨amount "80", amount "17"⟩ (by decide +kernel)).within
  have left : (track (entered "C1" "AAPL" .buy .hundred none) (resized.take 5)).leavesQty =
      .ok (amount "80") := by
    decide +kernel
  rw [left] at known
  cases known
  exact ⟨exactly, quantity, turnover, finishes.mpr (by decide +kernel)⟩

end Order

end FixBench
