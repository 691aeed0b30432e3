import FixBench.Order.Tracker
import FixBench.Proofs.Order.Changes

/-!
# The history of an order

A tracker writes to its order in place, so an operation that fails could leave it half changed. It
does not: a tracker does what `Order.apply` says, and where that refuses, the order is as it was
before (`run_perform`). Hence the history of an order is a faithful log of it (`history_faithful`).
Every operation that succeeds has entered exactly one action, reports of a pending state apart, which
change nothing; taken through the table of states the actions lead to the states entered with them;
and nothing happens to an order that is finished.

The proof of the first part is one equation for each operation of the tracker. The invariant of the
second is `Recorded`, which every change keeps because it is entered with the state it leads to.
-/
namespace FixBench

/-! ### Running a tracker -/

/-- The answer and the order after an operation that either succeeds or leaves the order as it was. -/
def Order.settle (o : Order) (result : Except OrderFault Order) : Except OrderFault Unit × Order :=
  match result with
  | .ok after => (.ok (), after)
  | .error fault => (.error fault, o)

namespace Tracker

variable {α β : Type} (o : Order)

@[simp]
theorem run_pure (a : α) : run (pure a) o = (.ok a, o) := rfl

@[simp]
theorem run_get : run get o = (.ok o, o) := rfl

@[simp]
theorem run_modify (f : Order → Order) : run (modify f) o = (.ok (), f o) := rfl

@[simp]
theorem run_throw (fault : OrderFault) : run (throw fault : Tracker α) o = (.error fault, o) := rfl

@[simp]
theorem run_lift (result : Except OrderFault α) : run (liftM result) o = (result, o) := rfl

theorem run_bind (t : Tracker α) (next : α → Tracker β) :
    run (t >>= next) o =
      match t.run o with
      | (.ok a, after) => (next a).run after
      | (.error fault, after) => (.error fault, after) := by
  unfold run ExceptT.run
  simp only [bind, ExceptT.bind, ExceptT.mk, StateT.bind, ExceptT.bindCont]
  cases t o with
  | mk result after => cases result <;> rfl

/-! ### The operations of a tracker -/

theorem run_get_bind (next : Order → Tracker β) : run (get >>= next) o = (next o).run o := by
  rw [run_bind, run_get]

/-- A check leaves the order as it is, whatever comes of it. -/
theorem run_check {result : Except OrderFault α} {next : α → Tracker Unit}
    {f : α → Except OrderFault Order} (settles : ∀ a, (next a).run o = o.settle (f a)) :
    run (liftM result >>= next) o = o.settle (result >>= f) := by
  rw [run_bind, run_lift]
  cases result with
  | error fault => rfl
  | ok a => exact settles a

theorem run_act (action : OrderAction) : (act action).run o = o.settle (o.act action) := by
  unfold act Order.act
  rw [run_get_bind]
  apply run_check
  intro next
  rfl

/-- An operation that is followed by writing only. -/
theorem run_then {t written : Tracker Unit} {result : Except OrderFault Order} {f : Order → Order}
    (settles : t.run o = o.settle result) (writes : ∀ entered, written.run entered = (.ok (), f entered)) :
    run (do t; written) o = o.settle (do let entered ← result; return f entered) := by
  rw [run_bind, settles]
  cases result with
  | error fault => rfl
  | ok entered => exact writes entered

theorem run_ackNew (orderId : Option String) : (ackNew orderId).run o = o.settle (o.ackNew orderId) := by
  apply run_then o (run_act o .ackNew)
  intro entered
  cases orderId with
  | none => rfl
  | some id => rfl

theorem run_ackReject : ackReject.run o = o.settle o.ackReject := by
  apply run_then o (run_act o .ackReject)
  intro entered
  rfl

theorem run_issueCancel (clOrdId : String) :
    (issueCancel clOrdId).run o = o.settle (o.issueCancel clOrdId) := by
  apply run_then o (run_act o .issueCancel)
  intro entered
  rfl

theorem run_issueReplace (amendment : Amendment) :
    (issueReplace amendment).run o = o.settle (o.issueReplace amendment) := by
  apply run_then o (run_act o .issueReplace)
  intro entered
  rfl

theorem run_ackReplaced : ackReplaced.run o = o.settle o.ackReplaced := by
  apply run_then o (run_act o .ackReplaced)
  intro entered
  unfold Order.amend
  simp only [run_bind, run_get]
  cases entered.pendingAmendment with
  | none => rfl
  | some amendment =>
    obtain ⟨clOrdId, orderQty, price⟩ := amendment
    cases price with
    | none => rfl
    | some px => rfl

theorem run_adopt (r : ExecutionReport) : (adopt r).run o = (.ok (), o.adopt r) := by
  unfold adopt Order.adopt
  cases r.orderQty with
  | none => cases r.price <;> rfl
  | some qty => cases r.price <;> rfl

/-- Nothing is written before the last check of an execution. -/
theorem run_fill (qty px : Decimal) (weigh : Weighing) :
    (fill qty px weigh).run o = o.settle (o.fill qty px weigh) := by
  unfold fill Order.fill
  rw [run_get_bind]
  apply run_check
  intro leaves
  rw [run_get_bind]
  apply run_check
  intro next
  by_cases refused : qty ≤ .zero ∨ leaves < qty
  · simp only [if_pos refused]
    rfl
  · simp only [if_neg refused]
    rw [run_get_bind]
    apply run_check
    intro total
    rw [run_get_bind, run_get_bind]
    apply run_check
    intro average
    rfl

theorem run_applyExecution (r : ExecutionReport) :
    (applyExecution r).run o = o.settle (o.applyExecution r) := by
  unfold applyExecution Order.applyExecution
  cases r.execType
  case new => exact run_ackNew o _
  case rejected => exact run_ackReject o
  case canceled => exact run_act o .ackCanceled
  case replaced => exact run_then o (run_ackReplaced o) (run_adopt · r)
  case partialFill | fill | trade =>
    cases r.lastQty with
    | none => rfl
    | some qty => exact run_fill o qty _ _
  -- Reports of pending states change nothing, and the rest is refused.
  all_goals rfl

theorem run_applyReport (m : Message) : (applyReport m).run o = o.settle (o.applyReport m) := by
  unfold applyReport Order.applyReport
  cases m.msgType
  case orderCancelReject => exact run_ackReject o
  case executionReport =>
    cases (MessageView.ofMessage m : Except BuildFault ExecutionReport) with
    | error fault => rfl
    | ok r => exact run_applyExecution o r
  all_goals rfl

/-- A tracker does what is said of the operation, and leaves the order as it was where it is refused. -/
theorem run_perform (operation : Order.Operation) :
    (perform operation).run o = o.settle (o.apply operation) := by
  cases operation with
  | issueNew => exact run_act o .issueNew
  | ackNew orderId => exact run_ackNew o orderId
  | ackReject => exact run_ackReject o
  | issueCancel clOrdId => exact run_issueCancel o clOrdId
  | ackCanceled => exact run_act o .ackCanceled
  | issueReplace amendment => exact run_issueReplace o amendment
  | ackReplaced => exact run_ackReplaced o
  | fill qty px => exact run_fill o qty px _
  | report m => exact run_applyReport o m

/-! ### Runs -/

theorem snd_run_perform (operation : Order.Operation) :
    ((perform operation).run o).2 = o.perform operation := by
  rw [run_perform]
  unfold Order.settle Order.perform
  cases o.apply operation with
  | error fault => rfl
  | ok after => rfl

theorem track_cons (operation : Order.Operation) (rest : List Order.Operation) :
    track o (operation :: rest) = track (o.perform operation) rest := by
  rw [track, List.foldl_cons, snd_run_perform]
  rfl

theorem track_append_singleton (operations : List Order.Operation) (operation : Order.Operation) :
    track o (operations ++ [operation]) = (track o operations).perform operation := by
  rw [track, List.foldl_append, List.foldl_cons, snd_run_perform]
  rfl

end Tracker

/-- An order that has not been sent: at a limit if there is a price, otherwise at market. -/
def Order.entered (clOrdId symbol : String) (side : Side) (qty : Decimal) (price : Option Decimal) :
    Order :=
  match price with
  | none => unsent clOrdId symbol side qty
  | some px => (unsent clOrdId symbol side qty).withPrice px

/-! ### Replaying actions -/

/-- The states that actions lead through one after another, if all of them are allowed. -/
def OrderState.replay (state : OrderState) : List OrderAction → Option (List OrderState)
  | [] => some []
  | action :: rest => do
    let next ← state.next action
    let later ← next.replay rest
    return next :: later

theorem OrderState.replay_append_singleton {state next : OrderState} {actions : List OrderAction}
    {states : List OrderState} {action : OrderAction} (leads : state.replay actions = some states)
    (allowed : (states.getLast?.getD state).next action = some next) :
    state.replay (actions ++ [action]) = some (states ++ [next]) := by
  induction actions generalizing state states with
  | nil =>
    cases leads
    simp only [List.getLast?_nil, Option.getD_none] at allowed
    simp [replay, allowed]
  | cons first rest ih =>
    simp only [replay, Option.bind_eq_bind, Option.bind_eq_some_iff] at leads
    obtain ⟨entered, taken, later, rest_leads, made⟩ := leads
    cases made
    -- The last state does not depend on where the actions start, once there has been one.
    have last : (later.getLast?.getD entered).next action = some next := by
      rw [List.getLast?_cons] at allowed
      exact allowed
    simp [replay, taken, ih rest_leads last]

/-- A finished order takes no action. -/
theorem OrderState.next_of_isTerminal {state : OrderState} (finished : state.isTerminal = true)
    (action : OrderAction) : state.next action = none := by
  cases state with
  | filled | canceled | rejected => cases action <;> rfl
  | _ => cases finished

namespace Order

variable {o after : Order}

/-- The history replays to the states in it, and they end in the state of the order. -/
structure Recorded (o : Order) : Prop where
  replays : OrderState.unsent.replay (o.history.map HistoryEntry.action) =
    some (o.history.map HistoryEntry.state)
  ends : (o.history.map HistoryEntry.state).getLast?.getD .unsent = o.state

theorem Recorded.entered (clOrdId symbol : String) (side : Side) (qty : Decimal)
    (price : Option Decimal) : (Order.entered clOrdId symbol side qty price).Recorded := by
  cases price with
  | none => exact ⟨rfl, rfl⟩
  | some px => exact ⟨rfl, rfl⟩

theorem Recorded.change (recorded : o.Recorded) {plain : Operation} (change : Change o plain after) :
    after.Recorded := by
  obtain ⟨action, allowed, logged⟩ := change.recorded
  constructor
  · rw [logged, List.map_append, List.map_append]
    apply OrderState.replay_append_singleton recorded.replays
    rw [recorded.ends]
    exact allowed
  · simp [logged]

theorem Recorded.perform (recorded : o.Recorded) (operation : Operation) :
    (o.perform operation).Recorded := by
  obtain same | ⟨plain, -, -, change⟩ := o.perform_cases operation
  · rw [same]
    exact recorded
  · exact recorded.change change

theorem Recorded.track (recorded : o.Recorded) (operations : List Operation) :
    (Tracker.track o operations).Recorded := by
  induction operations generalizing o with
  | nil => exact recorded
  | cons operation rest ih =>
    rw [Tracker.track_cons]
    exact ih (recorded.perform operation)

theorem perform_of_isTerminal (finished : o.state.isTerminal = true) (operation : Operation) :
    o.perform operation = o := by
  obtain same | ⟨plain, -, -, change⟩ := o.perform_cases operation
  · exact same
  · obtain ⟨action, allowed, -⟩ := change.recorded
    rw [OrderState.next_of_isTerminal finished action] at allowed
    cases allowed

theorem track_of_isTerminal (finished : o.state.isTerminal = true) (operations : List Operation) :
    Tracker.track o operations = o := by
  induction operations with
  | nil => rfl
  | cons operation rest ih => rw [Tracker.track_cons, perform_of_isTerminal finished, ih]

/-! ### The history as a log -/

/-- What the history of an order owes its readers. -/
structure Faithful (o : Order) : Prop where
  /-- An operation that fails leaves the order and its history as they were. -/
  refused : ∀ operation fault after, (Tracker.perform operation).run o = (.error fault, after) →
    after = o
  /-- A report of a pending state is accepted and changes nothing. -/
  pending : ∀ operation, operation.IsPendingReport → (Tracker.perform operation).run o = (.ok (), o)
  /-- Any other operation that succeeds makes one entry. -/
  entered : ∀ operation after, ¬ operation.IsPendingReport →
    (Tracker.perform operation).run o = (.ok (), after) →
      ∃ entry, after.history = o.history ++ [entry]
  recorded : o.Recorded
  /-- Nothing happens to an order that is filled, canceled or rejected. -/
  finished : o.state.isTerminal = true → ∀ further, Tracker.track o further = o

end Order

/-- From the start of an order, through operations of all kinds and reports of any content, its
history is a faithful log at every moment. -/
theorem history_faithful (clOrdId symbol : String) (side : Side) (qty : Decimal)
    (price : Option Decimal) (operations : List Order.Operation) :
    (Tracker.track (.entered clOrdId symbol side qty price) operations).Faithful := by
  -- Only the clause on the log needs the run from the start; the others hold of any order.
  generalize reached : Tracker.track (.entered clOrdId symbol side qty price) operations = o
  constructor
  case refused =>
    intro operation fault after fails
    rw [Tracker.run_perform] at fails
    cases applies : o.apply operation with
    | ok after' =>
      rw [applies] at fails
      cases fails
    | error fault' =>
      rw [applies] at fails
      exact (congrArg Prod.snd fails).symm
  case pending =>
    intro operation pending
    rw [Tracker.run_perform, Order.apply_of_isPendingReport pending, Order.settle]
  case entered =>
    intro operation after effective succeeds
    rw [Tracker.run_perform] at succeeds
    cases applies : o.apply operation with
    | error fault =>
      rw [applies] at succeeds
      cases succeeds
    | ok after' =>
      rw [applies] at succeeds
      cases succeeds
      obtain ⟨pending, -⟩ | ⟨plain, -, change⟩ := Order.apply_cases applies
      · exact absurd pending effective
      · obtain ⟨action, -, logged⟩ := change.recorded
        exact ⟨_, logged⟩
  case recorded =>
    rw [← reached]
    exact (Order.Recorded.entered clOrdId symbol side qty price).track operations
  case finished =>
    intro finished further
    exact Order.track_of_isTerminal finished further

/-- A cancellation is confirmed too early, which fails, then issued, and refused by a report; after that
the order is filled at once. -/
def Order.filledAfterRefusal : List Order.Operation :=
  [.issueNew, .ackNew (some "ORD1"), .ackCanceled, .issueCancel "CXL_C1",
    .report (.ofType "FIX.4.4" .orderCancelReject), .fill .hundred .hundred]

/-- Five of the six operations are in the history, which replays to the states in it, and nothing happens
to the order any more. -/
theorem history_faithful_filled :
    let o := Tracker.track (.entered "C1" "AAPL" .buy .hundred none) Order.filledAfterRefusal
    o.history.map HistoryEntry.action = [.issueNew, .ackNew, .issueCancel, .ackReject, .fullFill] ∧
      o.history.map HistoryEntry.state = [.pendingNew, .new, .pendingCancel, .new, .filled] ∧
      o.state = .filled ∧ ∀ further, Tracker.track o further = o := by
  intro o
  obtain ⟨-, -, -, recorded, finished⟩ : o.Faithful :=
    history_faithful "C1" "AAPL" .buy .hundred none Order.filledAfterRefusal
  have actions : o.history.map HistoryEntry.action =
      [.issueNew, .ackNew, .issueCancel, .ackReject, .fullFill] := by decide +kernel
  obtain ⟨replays, ends⟩ := recorded
  rw [actions] at replays
  have states : o.history.map HistoryEntry.state =
      [.pendingNew, .new, .pendingCancel, .new, .filled] := (Option.some.inj replays).symm
  rw [states] at ends
  have filled : o.state = .filled := ends.symm
  exact ⟨actions, states, filled, finished (by rw [filled]; rfl)⟩

end FixBench
