import FixBench.Proofs.Order.History

/-!
# Requests under way

An order keeps what it needs to know of a request until the request is decided: the amendment of a
replacement, and the identifier a cancellation goes by. The next answer is awaited under the identifier
of that request (`pendingClOrdId`), so a value that is kept too long, or lost, would make the owner
wait for the wrong one.

`Holds` says of one such value that it is there exactly while it is due, and that it is then the latest
of its kind that has been issued. Four operations write these values, and a refusal serves three
states. Read by action, the table of states tells where each of them can happen
(`OrderState.next_eq_some_iff`), and that settles one change after the other.
-/
namespace FixBench

/-- The table of states, read by action. -/
theorem OrderState.next_eq_some_iff {state next : OrderState} {action : OrderAction} :
    state.next action = some next ↔
      match action with
      | .issueNew => state = .unsent ∧ next = .pendingNew
      | .ackNew => state = .pendingNew ∧ next = .new
      | .ackReject =>
        state = .pendingNew ∧ next = .rejected ∨
          (state = .pendingCancel ∨ state = .pendingReplace) ∧ next = .new
      | .issueCancel => state = .new ∧ next = .pendingCancel
      | .ackCanceled => state = .pendingCancel ∧ next = .canceled
      | .issueReplace => state = .new ∧ next = .pendingReplace
      | .ackReplaced => state = .pendingReplace ∧ next = .new
      | .partialFill => state = .new ∧ next = .new
      | .fullFill => state = .new ∧ next = .filled := by
  cases action <;> cases state <;> simp [OrderState.next, eq_comm]

namespace Order

open Tracker (track)

/-! ### The operations that are taken -/

/-- The operation that an order takes, with a report taken for what it stands for. -/
def taken? (o : Order) (operation : Operation) : Option Operation :=
  match ((Tracker.perform operation).run o).1 with
  | .ok () => operation.plain?
  | .error _ => none

/-- All operations that an order takes, one after another. -/
def taken (o : Order) : List Operation → List Operation
  | [] => []
  | operation :: rest => (o.taken? operation).toList ++ (o.perform operation).taken rest

/-- The identifier a cancellation is issued under. -/
def Operation.cancelId? : Operation → Option String
  | .issueCancel clOrdId => some clOrdId
  | _ => none

/-- The amendment that is issued. -/
def Operation.amendment? : Operation → Option Amendment
  | .issueReplace amendment => some amendment
  | _ => none

/-- The exchange's identifier that an acknowledgement brings. -/
def Operation.orderId? : Operation → Option String
  | .ackNew orderId => orderId
  | _ => none

/-- The latest of all that has been issued in these operations. -/
def latest {α : Type} (issued? : Operation → Option α) (operations : List Operation) : Option α :=
  (operations.filterMap issued?).getLast?

variable {o after : Order} {operation plain : Operation} {done : List Operation}

/-- Nothing is taken and nothing changes, or the operation that is taken is a change. -/
theorem taken?_cases (o : Order) (operation : Operation) :
    o.taken? operation = none ∧ o.perform operation = o ∨
      ∃ plain, o.taken? operation = some plain ∧ Change o plain (o.perform operation) := by
  rw [taken?, Tracker.run_perform]
  unfold perform
  cases applies : o.apply operation with
  | error fault => exact .inl ⟨rfl, rfl⟩
  | ok after =>
    obtain ⟨pending, same⟩ | ⟨plain, told, change⟩ := apply_cases applies
    · exact .inl ⟨Operation.plain?_of_isPendingReport pending, same⟩
    · exact .inr ⟨plain, told, change⟩

theorem latest_append_singleton {α : Type} (issued? : Operation → Option α) (done : List Operation)
    (operation : Operation) :
    latest issued? (done ++ [operation]) = (issued? operation).or (latest issued? done) := by
  rw [latest, latest, List.filterMap_append]
  cases issued : issued? operation with
  | none => simp [issued]
  | some a => simp [issued]

/-! ### Values that are kept while they are due -/

/-- A value is there exactly while it is due, and it is the latest that has been issued. -/
structure Holds {α : Type} (value : Option α) (due : Prop) (issued : Option α) : Prop where
  isSome_iff : value.isSome = true ↔ due
  latest : ∀ a, value = some a → issued = some a

namespace Holds

variable {α : Type} {value issued : Option α} {due : Prop}

theorem absent (none : value = none) (idle : ¬ due) : Holds value due issued where
  isSome_iff := by simp [none, idle]
  latest a present := by
    rw [none] at present
    cases present

theorem present {a : α} (there : value = some a) (waiting : due) (last : issued = some a) :
    Holds value due issued where
  isSome_iff := by simp [there, waiting]
  latest b same := by rw [last, ← there, same]

theorem eq_none (holds : Holds value due issued) (idle : ¬ due) : value = none := by
  rw [← Option.not_isSome_iff_eq_none, holds.isSome_iff]
  exact idle

/-- What is due is there, and is what has been issued last. -/
theorem eq_latest (holds : Holds value due issued) (waiting : due) :
    ∃ a, value = some a ∧ issued = some a := by
  obtain ⟨a, present⟩ := Option.isSome_iff_exists.mp (holds.isSome_iff.mpr waiting)
  exact ⟨a, present, holds.latest a present⟩

end Holds

/-- The amendment that an order keeps is that of the replacement under way. -/
def KeepsAmendment (o : Order) (done : List Operation) : Prop :=
  Holds o.pendingAmendment (o.state = .pendingReplace) (latest Operation.amendment? done)

/-- The identifier that an order keeps for a cancellation is that of the one under way, or of the one
that has been carried out. -/
def KeepsCancel (o : Order) (done : List Operation) : Prop :=
  Holds o.cancelClOrdId (o.state = .pendingCancel ∨ o.state = .canceled)
    (latest Operation.cancelId? done)

/-- The exchange's identifier is the only one that any acknowledgement has brought. -/
structure KeepsOrderId (o : Order) (done : List Operation) : Prop where
  only : done.filterMap Operation.orderId? = o.orderId.toList
  unknown : o.state = .unsent ∨ o.state = .pendingNew → o.orderId = none

@[simp]
theorem pendingAmendment_amend (o : Order) : o.amend.pendingAmendment = none := by
  unfold amend
  split
  · assumption
  · rfl

@[simp]
theorem cancelClOrdId_amend (o : Order) : o.amend.cancelClOrdId = o.cancelClOrdId := by
  unfold amend
  split <;> rfl

@[simp]
theorem orderId_amend (o : Order) : o.amend.orderId = o.orderId := by
  unfold amend
  split <;> rfl

/-- An order trades while it works, and goes on working or is filled. -/
theorem states_of_fill {qty leaves : Decimal} {next : OrderState}
    (allowed : o.state.next (fillAction qty leaves) = some next) :
    o.state = .new ∧ (next = .new ∨ next = .filled) := by
  unfold fillAction at allowed
  split at allowed
  · obtain ⟨working, finished⟩ := OrderState.next_eq_some_iff.mp allowed
    exact ⟨working, .inr finished⟩
  · obtain ⟨working, goes_on⟩ := OrderState.next_eq_some_iff.mp allowed
    exact ⟨working, .inl goes_on⟩

theorem Change.keepsAmendment (change : Change o plain after) (keeps : o.KeepsAmendment done) :
    after.KeepsAmendment (done ++ [plain]) := by
  cases change with
  | issuedNew allowed | acknowledged allowed | issuedCancel allowed | canceled allowed =>
    -- No replacement is under way before, nor after.
    obtain ⟨before, rfl⟩ := OrderState.next_eq_some_iff.mp allowed
    exact .absent (keeps.eq_none (by simp [before])) (by simp)
  | filled known allowed =>
    obtain ⟨before, rfl | rfl⟩ := states_of_fill allowed
    all_goals exact .absent (keeps.eq_none (by simp [before])) (by simp)
  | @issuedReplace next amendment allowed =>
    obtain ⟨before, rfl⟩ := OrderState.next_eq_some_iff.mp allowed
    exact .present rfl (by simp) (latest_append_singleton ..)
  | refused allowed =>
    obtain ⟨-, rfl⟩ | ⟨-, rfl⟩ := OrderState.next_eq_some_iff.mp allowed
    all_goals exact .absent rfl (by simp)
  | replaced qty price allowed =>
    obtain ⟨-, rfl⟩ := OrderState.next_eq_some_iff.mp allowed
    exact .absent (pendingAmendment_amend _) (by simp [withTerms])

theorem Change.keepsCancel (change : Change o plain after) (keeps : o.KeepsCancel done) :
    after.KeepsCancel (done ++ [plain]) := by
  cases change with
  | issuedNew allowed | acknowledged allowed | issuedReplace allowed =>
    obtain ⟨before, rfl⟩ := OrderState.next_eq_some_iff.mp allowed
    exact .absent (keeps.eq_none (by simp [before])) (by simp)
  | filled known allowed =>
    obtain ⟨before, rfl | rfl⟩ := states_of_fill allowed
    all_goals exact .absent (keeps.eq_none (by simp [before])) (by simp)
  | replaced qty price allowed =>
    obtain ⟨before, rfl⟩ := OrderState.next_eq_some_iff.mp allowed
    refine .absent ?_ (by simp [withTerms])
    exact (cancelClOrdId_amend _).trans (keeps.eq_none (by simp [before]))
  | refused allowed =>
    obtain ⟨-, rfl⟩ | ⟨-, rfl⟩ := OrderState.next_eq_some_iff.mp allowed
    all_goals exact .absent rfl (by simp)
  | @issuedCancel next clOrdId allowed =>
    obtain ⟨-, rfl⟩ := OrderState.next_eq_some_iff.mp allowed
    exact .present rfl (by simp) (latest_append_singleton ..)
  | canceled allowed =>
    -- The identifier stays when the cancellation is confirmed.
    obtain ⟨before, rfl⟩ := OrderState.next_eq_some_iff.mp allowed
    obtain ⟨id, present, issued⟩ := keeps.eq_latest (.inl before)
    exact .present present (by simp) ((latest_append_singleton ..).trans issued)

theorem Change.keepsOrderId (change : Change o plain after) (keeps : o.KeepsOrderId done) :
    after.KeepsOrderId (done ++ [plain]) := by
  -- All operations but one bring no identifier and leave the order's as it is.
  have stays (brings : plain.orderId? = none) (kept : after.orderId = o.orderId)
      (known : after.state = .unsent ∨ after.state = .pendingNew → o.orderId = none) :
      after.KeepsOrderId (done ++ [plain]) := by
    refine ⟨?_, fun early => kept.trans (known early)⟩
    rw [List.filterMap_append, keeps.only, kept]
    simp [brings]
  cases change with
  | @acknowledged next orderId allowed =>
    -- An order is acknowledged once, and until then nothing has been brought.
    obtain ⟨before, rfl⟩ := OrderState.next_eq_some_iff.mp allowed
    have unknown : o.orderId = none := keeps.unknown (.inr before)
    refine ⟨?_, by simp⟩
    rw [List.filterMap_append, keeps.only, unknown]
    cases orderId <;> rfl
  | issuedNew allowed =>
    obtain ⟨before, rfl⟩ := OrderState.next_eq_some_iff.mp allowed
    exact stays rfl rfl fun _ => keeps.unknown (.inl before)
  | refused allowed =>
    obtain ⟨-, rfl⟩ | ⟨-, rfl⟩ := OrderState.next_eq_some_iff.mp allowed
    all_goals exact stays rfl rfl (by simp)
  | issuedCancel allowed | canceled allowed | issuedReplace allowed =>
    obtain ⟨-, rfl⟩ := OrderState.next_eq_some_iff.mp allowed
    exact stays rfl rfl (by simp)
  | replaced qty price allowed =>
    obtain ⟨-, rfl⟩ := OrderState.next_eq_some_iff.mp allowed
    exact stays rfl (orderId_amend _) (by simp [withTerms])
  | filled known allowed =>
    obtain ⟨-, rfl | rfl⟩ := states_of_fill allowed
    all_goals exact stays rfl rfl (by simp)

/-! ### Runs -/

/-- What an order keeps fits the operations it has taken. -/
structure Keeps (o : Order) (done : List Operation) : Prop where
  amendment : o.KeepsAmendment done
  cancel : o.KeepsCancel done
  orderId : o.KeepsOrderId done

namespace Keeps

theorem entered (clOrdId symbol : String) (side : Side) (qty : Decimal) (price : Option Decimal) :
    (Order.entered clOrdId symbol side qty price).Keeps [] := by
  have unsent : (Order.entered clOrdId symbol side qty price).state = .unsent := by
    cases price <;> rfl
  have unknown : (Order.entered clOrdId symbol side qty price).orderId = none := by
    cases price <;> rfl
  constructor
  case amendment => exact .absent (by cases price <;> rfl) (by simp [unsent])
  case cancel => exact .absent (by cases price <;> rfl) (by simp [unsent])
  case orderId => exact ⟨by rw [unknown]; rfl, fun _ => unknown⟩

theorem perform (keeps : o.Keeps done) (operation : Operation) :
    (o.perform operation).Keeps (done ++ (o.taken? operation).toList) := by
  obtain ⟨idle, same⟩ | ⟨plain, taken, change⟩ := o.taken?_cases operation
  · rw [idle, same, Option.toList_none, List.append_nil]
    exact keeps
  · rw [taken]
    exact ⟨change.keepsAmendment keeps.amendment, change.keepsCancel keeps.cancel,
      change.keepsOrderId keeps.orderId⟩

theorem track (keeps : o.Keeps done) (operations : List Operation) :
    (track o operations).Keeps (done ++ o.taken operations) := by
  induction operations generalizing o done with
  | nil =>
    rw [taken, List.append_nil]
    exact keeps
  | cons operation rest ih =>
    rw [Tracker.track_cons, taken, ← List.append_assoc]
    exact ih (keeps.perform operation)

/-- An identifier of the exchange stays whatever is done further. -/
theorem orderId_track (keeps : o.Keeps done) {id : String} (known : o.orderId = some id)
    (further : List Operation) : (Tracker.track o further).orderId = some id := by
  -- What has been brought so far comes first in all that will have been brought.
  have only := (keeps.track further).orderId.only
  rw [List.filterMap_append, keeps.orderId.only, known] at only
  cases later : (Tracker.track o further).orderId with
  | none =>
    rw [later] at only
    cases only
  | some other =>
    rw [later] at only
    exact congrArg some (List.cons.inj only).1.symm

/-- The identifier under which an answer is due is that of the latest request that is undecided. -/
theorem pendingClOrdId (keeps : o.Keeps done) :
    match o.state with
    | .pendingCancel => latest Operation.cancelId? done = some o.pendingClOrdId
    | .pendingReplace =>
      (latest Operation.amendment? done).map Amendment.clOrdId = some o.pendingClOrdId
    | _ => o.pendingClOrdId = o.clOrdId := by
  unfold Order.pendingClOrdId
  cases state : o.state with
  | pendingCancel =>
    obtain ⟨id, present, issued⟩ := keeps.cancel.eq_latest (.inl state)
    simp [present, issued]
  | pendingReplace =>
    obtain ⟨amendment, present, issued⟩ := keeps.amendment.eq_latest state
    simp [present, issued]
  | _ => rfl

end Keeps

/-- After any operations and reports from the start of an order, some of which it has taken: it keeps
an amendment exactly while a replacement is under way, and an identifier of a cancellation exactly
while one is under way or has been carried out. The exchange's identifier is the only one that any
acknowledgement has brought, and stays whatever happens further. The next answer is awaited under the
identifier of the latest cancellation, if that is undecided, of the latest amendment, if that is, and
otherwise under the order's own. -/
theorem pending_requests_kept (clOrdId symbol : String) (side : Side) (qty : Decimal)
    (price : Option Decimal) (operations : List Operation) :
    let start := entered clOrdId symbol side qty price
    let o := track start operations
    let done := start.taken operations
    (o.pendingAmendment.isSome = true ↔ o.state = .pendingReplace) ∧
      (o.cancelClOrdId.isSome = true ↔ o.state = .pendingCancel ∨ o.state = .canceled) ∧
      done.filterMap Operation.orderId? = o.orderId.toList ∧
      (∀ id, o.orderId = some id → ∀ further, (track o further).orderId = some id) ∧
      match o.state with
      | .pendingCancel => latest Operation.cancelId? done = some o.pendingClOrdId
      | .pendingReplace =>
        (latest Operation.amendment? done).map Amendment.clOrdId = some o.pendingClOrdId
      | _ => o.pendingClOrdId = o.clOrdId := by
  intro start o done
  have keeps : o.Keeps done := (Keeps.entered clOrdId symbol side qty price).track operations
  refine ⟨keeps.amendment.isSome_iff, keeps.cancel.isSome_iff, keeps.orderId.only, ?_,
    keeps.pendingClOrdId⟩
  intro id known further
  exact keeps.orderId_track known further

/-- A replacement is asked for and refused, then a cancellation is asked for. Another acknowledgement comes
too late to be taken. -/
def refusedOnce : List Operation :=
  [.issueNew, .ackNew (some "ORD1"), .issueReplace ⟨"MOD_C1", .hundred, none⟩, .ackReject,
    .issueCancel "CXL_C1", .ackNew (some "ORD2")]

/-- The next answer is awaited under the identifier of one request and then of the other, and the exchange's
identifier is the first one for good. -/
theorem pending_requests_kept_refused :
    let start := entered "C1" "AAPL" .buy .hundred none
    let o := track start refusedOnce
    (track start (refusedOnce.take 3)).pendingClOrdId = "MOD_C1" ∧ o.pendingClOrdId = "CXL_C1" ∧
      o.pendingAmendment.isSome = false ∧ o.cancelClOrdId.isSome = true ∧
      ∀ further, (track o further).orderId = some "ORD1" := by
  intro start o
  have states : (track start (refusedOnce.take 3)).state = .pendingReplace ∧
      o.state = .pendingCancel := by decide +kernel
  have taken : start.taken (refusedOnce.take 3) = refusedOnce.take 3 ∧
      start.taken refusedOnce = refusedOnce.take 5 := by decide +kernel
  obtain ⟨-, -, -, -, replacing⟩ :=
    pending_requests_kept "C1" "AAPL" .buy .hundred none (refusedOnce.take 3)
  rw [states.1, taken.1] at replacing
  obtain ⟨amends, cancels, brought, stays, canceling⟩ :=
    pending_requests_kept "C1" "AAPL" .buy .hundred none refusedOnce
  rw [states.2] at amends cancels canceling
  rw [taken.2] at brought canceling
  have known : o.orderId = some "ORD1" := Option.toList_eq_singleton_iff.mp brought.symm
  exact ⟨(Option.some.inj replacing).symm, (Option.some.inj canceling).symm, by simpa using amends,
    cancels.mpr (.inl rfl), stays "ORD1" known⟩

end Order

end FixBench
