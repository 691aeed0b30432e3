import FixBench.Link.OrderFlow
import FixBench.Proofs.Failing
import FixBench.Proofs.Order.History

/-!
# Requests that fail

A request can fail in three ways. It cannot be built, or the order's state does not allow it: then
order and client are as they were. Or it has been built and entered and cannot be sent: then the order
stays entered. It waits for the answer to a request that has never left, and no further request can
be made for it, over whatever client (`failed_request_cases`). An order that was sound is stuck.

The first part is `Tracker`'s: what it refuses leaves no trace (`run_perform`). The second part is a
matter of the table of states. A request that is entered leads to a pending state, and from no
pending state a request can be entered.
-/
namespace FixBench

/-! ### Requests in the table of states -/

namespace OrderCall

/-- The action a request is entered as. -/
def action : OrderCall → OrderAction
  | submit => .issueNew
  | cancel => .issueCancel
  | replace _ _ => .issueReplace

theorem isPending_of_next (call : OrderCall) {state next : OrderState}
    (allowed : state.next call.action = some next) : next.isPending = true := by
  cases call <;> cases state <;> cases allowed <;> rfl

theorem next_of_isPending (call : OrderCall) {state : OrderState} (pending : state.isPending = true) :
    state.next call.action = none := by
  cases call <;> cases state <;> first | rfl | cases pending

/-- Whatever a request enters besides, it enters its action. -/
theorem apply_entry_eq_ok (call : OrderCall) {o entered : Order}
    (applies : o.apply (call.entry o) = .ok entered) :
    ∃ next, o.state.next call.action = some next ∧ entered.state = next ∧
      entered.history = o.history ++ [⟨call.action, next⟩] := by
  cases call with
  | submit =>
    obtain ⟨next, allowed, rfl⟩ := (Order.act_eq_ok_iff ..).mp applies
    exact ⟨next, allowed, rfl, rfl⟩
  | cancel | replace _ _ =>
    -- Behind the action stands the write of what was asked for, which leaves state and history alone.
    simp only [entry, Order.apply, Order.issueCancel, Order.issueReplace, bind_eq_ok_iff,
      Order.act_eq_ok_iff] at applies
    obtain ⟨_, ⟨next, allowed, rfl⟩, made⟩ := applies
    cases made
    exact ⟨next, allowed, rfl, rfl⟩

/-- While an answer is due, no request is entered. -/
theorem apply_entry_of_isPending (call : OrderCall) {o : Order} (pending : o.state.isPending = true) :
    ∃ fault, o.apply (call.entry o) = .error fault := by
  cases applies : o.apply (call.entry o) with
  | error fault => exact ⟨fault, rfl⟩
  | ok entered =>
    obtain ⟨_, allowed, _⟩ := call.apply_entry_eq_ok applies
    rw [call.next_of_isPending pending] at allowed
    cases allowed

end OrderCall

/-! ### The ends of a request -/

namespace Order

variable (send : Client → Message → Except SessionFault Nat × Client)

/-- All a request can come to. -/
theorem requestBy_cases (o : Order) (call : OrderCall) (c : Client) :
    (∃ fault, o.requestBy send call c = (.error (.build fault), o, c)) ∨
      (∃ fault, o.apply (call.entry o) = .error fault ∧
        o.requestBy send call c = (.error (.order fault), o, c)) ∨
      ∃ m entered, call.message o c.version = .ok m ∧ o.apply (call.entry o) = .ok entered ∧
        ((∃ seq after, send c m = (.ok seq, after) ∧
            o.requestBy send call c = (.ok (), entered, after)) ∨
          ∃ fault after, send c m = (.error fault, after) ∧
            o.requestBy send call c = (.error (.session fault), entered, after)) := by
  unfold requestBy
  rw [Tracker.run_perform]
  cases call.message o c.version with
  | error fault => exact .inl ⟨fault, rfl⟩
  | ok m =>
    right
    cases applies : o.apply (call.entry o) with
    | error fault => exact .inl ⟨fault, rfl, rfl⟩
    | ok entered =>
      refine .inr ⟨m, entered, rfl, rfl, ?_⟩
      cases sends : send c m with
      | mk result after =>
        cases result with
        | error fault => exact .inr ⟨fault, after, rfl, by simp only [settle, sends]⟩
        | ok seq => exact .inl ⟨seq, after, rfl, by simp only [settle, sends]⟩

/-- A pending order stays as it is, and so does the client it asks over. -/
theorem requestBy_of_isPending {o : Order} (pending : o.state.isPending = true) (call : OrderCall)
    (c : Client) : ∃ failure, o.requestBy send call c = (.error failure, o, c) := by
  obtain ⟨fault, refused⟩ := call.apply_entry_of_isPending pending
  obtain ⟨_, unbuilt⟩ | ⟨_, _, unfit⟩ | ⟨_, _, _, applies, _⟩ := o.requestBy_cases send call c
  · exact ⟨_, unbuilt⟩
  · exact ⟨_, unfit⟩
  · rw [refused] at applies
    cases applies

/-- **A failed request.** However messages are sent: a request that fails before it is sent has changed
neither the order nor the client. One that fails in being sent has been entered into the order, which
is pending from then on, with one more action in its history; and every request that is made for it
afterwards fails and leaves it so. -/
theorem failed_request_cases {o after : Order} {call : OrderCall} {c c' : Client} {failure : Failure}
    (failed : o.requestBy send call c = (.error failure, after, c')) :
    ((∀ fault, failure ≠ .session fault) → after = o ∧ c' = c) ∧
      ∀ fault, failure = .session fault →
        o.apply (call.entry o) = .ok after ∧ after.state.isPending = true ∧
          after.history = o.history ++ [⟨call.action, after.state⟩] ∧ after ≠ o ∧
          ∀ (send' : Client → Message → Except SessionFault Nat × Client) (again : OrderCall)
            (other : Client), ∃ failure', after.requestBy send' again other =
              (.error failure', after, other) := by
  obtain ⟨_, unbuilt⟩ | ⟨_, _, unfit⟩ | ⟨_, _, _, applies, ⟨_, _, _, sent⟩ | ⟨_, _, _, unsent⟩⟩ :=
    o.requestBy_cases send call c
  · rw [unbuilt] at failed
    cases failed
    exact ⟨fun _ => ⟨rfl, rfl⟩, fun _ other => by cases other⟩
  · rw [unfit] at failed
    cases failed
    exact ⟨fun _ => ⟨rfl, rfl⟩, fun _ other => by cases other⟩
  · rw [sent] at failed
    cases failed
  · rw [unsent] at failed
    cases failed
    refine ⟨fun other => absurd rfl (other _), ?_⟩
    intro _ _
    obtain ⟨next, allowed, state, history⟩ := call.apply_entry_eq_ok applies
    have pending : after.state.isPending = true := by
      rw [state]
      exact call.isPending_of_next allowed
    refine ⟨applies, pending, by rw [history, state], ?_, ?_⟩
    · -- The history has grown.
      rintro rfl
      simp at history
    · intro send' again other
      exact requestBy_of_isPending send' pending again other

/-- A client that has just been connected, and an order whose symbol would be read as two fields. -/
def freshClient : Except Failure Client :=
  Client.connect .loopback
    (SessionConfig.default ⟨"CLIENT", by decide, by decide⟩ ⟨"SERVER", by decide, by decide⟩ "FIX.4.4")
    1 ⟨⟨0⟩, 0⟩

def smuggling : Order := .unsent "C1" "AA\x01100=BB" .buy .hundred

/-- The symbol is refused before anything is sent, and the order is stuck all the same. -/
theorem failed_request_cases_smuggling :
    ∃ c after, freshClient = .ok c ∧
      smuggling.request .submit c ⟨⟨0⟩, 0⟩ = (.error (.session
        (.unencodable (.fieldValue Tag.symbol "value contains SOH"))), after, c) ∧
      after.state.isPending = true ∧
      ∀ again, ∃ failure, after.request again c ⟨⟨0⟩, 0⟩ = (.error failure, after, c) := by
  obtain ⟨c, connected⟩ : ∃ c, freshClient = .ok c := ⟨_, rfl⟩
  have failed : smuggling.request .submit c ⟨⟨0⟩, 0⟩ = (.error (.session
      (.unencodable (.fieldValue Tag.symbol "value contains SOH"))),
        smuggling.record .issueNew .pendingNew, c) := by
    cases connected
    decide +kernel
  obtain ⟨_, pending, _, _, stuck⟩ := (failed_request_cases _ failed).2 _ rfl
  exact ⟨c, _, connected, failed, pending, fun again => stuck _ again c⟩

/-- The request fails, the connection is as it was, and the order is not. -/
theorem unsent_request_is_entered :
    ∃ c, freshClient = .ok c ∧
      let (result, after, client) := smuggling.request .submit c ⟨⟨0⟩, 0⟩
      result = .error (.session (.unencodable (.fieldValue Tag.symbol "value contains SOH"))) ∧
        client = c ∧ smuggling.state = .unsent ∧ smuggling.history = [] ∧
        after.state = .pendingNew ∧ after.history = [⟨.issueNew, .pendingNew⟩] ∧
        (after.request .submit client ⟨⟨0⟩, 0⟩).1 =
          .error (.order (.transition "issue New" "PENDING_NEW")) := by
  refine ⟨_, rfl, ?_⟩
  decide +kernel

end Order

end FixBench
