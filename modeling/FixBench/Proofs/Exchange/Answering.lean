import FixBench.Link.Router
import FixBench.Proofs.Exchange.Run

/-!
# Every order request is answered

Whatever has happened to an exchange before, an order request is either refused for a field that
cannot be read, and then nothing has changed, or it is answered by one report, two if it is a new
order that trades at once. The first report carries the request's own identifier, whichever way the
request was handled, so whoever waits for it under that identifier finds it.
-/
namespace FixBench.Exchange

/-- A new order that is accepted where accepted orders trade at once. -/
def TradesAtOnce (x : State) (m : Message) (owner : Owner) : Prop :=
  x.settings.autoFill = true ∧
    ∃ request : NewOrderSingle, MessageView.ofMessage m = .ok request ∧
      rejection? x owner.id request.clOrdId = none

/-- A message is a report of this kind. -/
def ReportsAs (kind : ExecType) (report : Message) : Prop :=
  ∃ r : ExecutionReport, MessageView.ofMessage report = .ok r ∧ r.execType = kind

theorem invalidRequest_code {fault : BuildFault} (ofField : fault.IsOfField) :
    (invalidRequest fault).code = Reject.requiredTagMissing ∨
      (invalidRequest fault).code = Reject.valueIncorrect := by
  cases fault with
  | missingField => exact .inl rfl
  | fieldValue => exact .inr rfl
  | wrongType => cases ofField

/-- A waiter for an identifier, whatever the status, is suited by every report that carries it. -/
theorem suits_of_get {report : Message} {id : String}
    (kind : report.msgType = .executionReport ∨ report.msgType = .orderCancelReject)
    (carried : report.get Tag.clOrdId = some id) :
    (ReportMatch.mk id none).suits report = true := by
  obtain kind | kind := kind <;> simp [ReportMatch.suits, kind, carried]

theorem Notice.suits (n : Notice) : (ReportMatch.mk n.clOrdId none).suits n.message = true :=
  suits_of_get (.inl (Message.msgType_of_get n.get_msgType)) n.get_clOrdId

theorem Refused.suits (n : Refused) : (ReportMatch.mk n.clOrdId none).suits n.message = true :=
  suits_of_get (.inr (Message.msgType_of_get n.get_msgType)) n.get_clOrdId

theorem Notice.reportsAs (n : Notice) : ReportsAs n.execType n.message :=
  ⟨n.view, n.ofMessage_message, rfl⟩

/-- What is answered to a request that is handled. -/
theorem Handles.answered {x : State} {m : Message} {owner : Owner} {reports : List Message}
    {after : State} (handles : Handles x m owner reports after) :
    ∃ id first rest, m.get Tag.clOrdId = some id ∧ reports = first :: rest ∧
      (ReportMatch.mk id none).suits first = true ∧
      (¬ TradesAtOnce x m owner → rest = []) ∧
      (TradesAtOnce x m owner →
        ∃ fill, rest = [fill] ∧ ReportsAs .new first ∧ ReportsAs .fill fill) := by
  cases handles with
  | @rejected request text reads why =>
    refine ⟨_, _, [], NewOrderSingle.get_clOrdId reads, rfl, Notice.suits _, fun _ => rfl, ?_⟩
    rintro ⟨-, other, same, free⟩
    rw [reads] at same
    cases same
    rw [why] at free
    cases free
  | @accepted request leaves reads free manual =>
    refine ⟨_, _, [], NewOrderSingle.get_clOrdId reads, rfl, Notice.suits _, fun _ => rfl, ?_⟩
    rintro ⟨auto, -⟩
    rw [manual] at auto
    cases auto
  | @filledAtOnce request leaves reads free auto =>
    refine ⟨_, _, [_], NewOrderSingle.get_clOrdId reads, rfl, Notice.suits _, ?_, fun _ => ?_⟩
    · intro never
      exact absurd ⟨auto, request, reads, free⟩ never
    · exact ⟨_, rfl, Notice.reportsAs _, Notice.reportsAs _⟩
  -- Only a new order trades at once, and this is a request of another kind.
  | refused typed id =>
    refine ⟨_, _, [], id, rfl, Refused.suits _, fun _ => rfl, ?_⟩
    rintro ⟨-, request, reads, -⟩
    have other := MessageView.msgType_of_ofMessage reads
    rw [other] at typed
    exact absurd typed (by decide)
  | @canceled request o reads =>
    refine ⟨_, _, [], OrderCancelRequest.get_clOrdId reads, rfl, Notice.suits _, fun _ => rfl, ?_⟩
    rintro ⟨-, new, both, -⟩
    have first := MessageView.msgType_of_ofMessage reads
    have second := MessageView.msgType_of_ofMessage both
    exact absurd (first.symm.trans second) (by decide)
  | @replaced request o leaves reads =>
    refine ⟨_, _, [], OrderCancelReplaceRequest.get_clOrdId reads, rfl, Notice.suits _,
      fun _ => rfl, ?_⟩
    rintro ⟨-, new, both, -⟩
    have first := MessageView.msgType_of_ofMessage reads
    have second := MessageView.msgType_of_ofMessage both
    exact absurd (first.symm.trans second) (by decide)

/-- After any run, an order request is answered: if it cannot be read, by a refusal that names the
field at fault and leaves the exchange as it was, otherwise by one report, or by an acknowledgement
and a fill if the order trades at once; and the first report suits the request's identifier. -/
theorem onMessage_answers (settings : Settings) (events : List Event) (m : Message) (owner : Owner)
    (request : IsOrderRequest m) :
    ∃ answer after, onMessage (State.reached settings events) m owner = .ok (answer, after) ∧
      match requestFault? m with
      | some fault =>
        answer = .error (invalidRequest fault) ∧ after = State.reached settings events ∧
          ((invalidRequest fault).code = Reject.requiredTagMissing ∨
            (invalidRequest fault).code = Reject.valueIncorrect)
      | none =>
        ∃ id first rest, m.get Tag.clOrdId = some id ∧ answer = .ok (first :: rest) ∧
          (ReportMatch.mk id none).suits first = true ∧
          (¬ TradesAtOnce (State.reached settings events) m owner → rest = []) ∧
          (TradesAtOnce (State.reached settings events) m owner →
            ∃ fill, rest = [fill] ∧ ReportsAs .new first ∧ ReportsAs .fill fill) := by
  cases readable : requestFault? m with
  | some fault =>
    obtain ⟨answers, ofField⟩ :=
      onMessage_of_unreadable (State.reached settings events) owner readable
    exact ⟨_, _, answers, rfl, rfl, invalidRequest_code ofField⟩
  | none =>
    have sound := State.Sound.reached settings events
    obtain ⟨reports, after, answers, handles⟩ :=
      onMessage_of_readable _ owner request readable sound.funded
    obtain ⟨id, first, rest, carried, made, rest_eq⟩ := handles.answered
    refine ⟨_, after, answers, id, first, rest, carried, ?_, rest_eq⟩
    rw [made]

theorem onMessage_answers_market_order :
    ∃ ack fill after,
      onMessage (State.reached ⟨true, false, ""⟩ [])
        ⟨"FIX.4.4", [⟨Tag.msgType, "D"⟩, ⟨Tag.clOrdId, "A1"⟩, ⟨Tag.symbol, "ACME"⟩,
          ⟨Tag.side, "1"⟩, ⟨Tag.orderQty, "100"⟩, ⟨Tag.ordType, "1"⟩], none⟩ ⟨7, "FIX.4.4"⟩ =
          .ok (.ok [ack, fill], after) ∧
        (ReportMatch.mk "A1" none).suits ack = true ∧ ReportsAs .new ack ∧ ReportsAs .fill fill := by
  obtain ⟨answer, after, answers, id, first, rest, carried, rfl, suits, -, twice⟩ :=
    onMessage_answers ⟨true, false, ""⟩ []
      ⟨"FIX.4.4", [⟨Tag.msgType, "D"⟩, ⟨Tag.clOrdId, "A1"⟩, ⟨Tag.symbol, "ACME"⟩,
        ⟨Tag.side, "1"⟩, ⟨Tag.orderQty, "100"⟩, ⟨Tag.ordType, "1"⟩], none⟩ ⟨7, "FIX.4.4"⟩ (.inl rfl)
  cases carried
  obtain ⟨fill, rfl, acknowledges, fills⟩ := twice ⟨rfl, _, rfl, rfl⟩
  exact ⟨first, fill, after, answers, suits, acknowledges, fills⟩

end FixBench.Exchange
