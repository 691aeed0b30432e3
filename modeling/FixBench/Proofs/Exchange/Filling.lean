import FixBench.Exchange.Fill
import FixBench.Proofs.Exchange.Run
import FixBench.Proofs.Failing

/-!
# Executions that fail

An execution on the exchange's own account can fail before the order is touched or after it. Before
it, nothing has happened: the order is unknown or closed, or the quantity is out of range
(`Declines`). After it, only telling the owner can fail, since the report can always be built; the
execution then stands, exactly as if its report had been sent (`failed_fill`).

There is no way back from an execution: `unreported_fill` is one whose owner has closed its
connection, and whose order has traded all the same.
-/
namespace FixBench.Exchange

/-- Changing an order is seen under its identifier and under no other. -/
theorem Book.find?_update (b : Book) (o : RestingOrder) (orderId : String) :
    (b.update o).find? orderId =
      if orderId = o.orderId then (b.find? orderId).map fun e => { e with order := o }
      else b.find? orderId := by
  let change (e : Entry) : Entry := if e.order.orderId = o.orderId then { e with order := o } else e
  have keeps (e : Entry) : (change e).order.orderId = e.order.orderId := by
    dsimp only [change]
    split
    · rename_i named
      exact named.symm
    · rfl
  have sought : (fun e => e.order.orderId == orderId) ∘ change =
      fun e => e.order.orderId == orderId :=
    funext fun e => congrArg (· == orderId) (keeps e)
  have changed : (b.update o).find? orderId = (b.find? orderId).map change := by
    rw [find?, update, List.find?_map, sought, find?]
  rw [changed]
  cases found : b.find? orderId with
  | none => simp
  | some e =>
    obtain ⟨-, rfl⟩ := mem_of_find? found
    rw [Option.map_some, Option.map_some]
    dsimp only [change]
    split <;> rfl

variable {x after : State} {orderId : String} {qty px : Decimal}

/-- An execution is seen under the identifier of the order and under no other. -/
theorem Fills.find? {report : Message} {owner : Owner}
    (fills : Fills x orderId qty px report owner after) :
    ∃ e filled, x.book.find? orderId = some e ∧ e.order.isOpen = true ∧
      e.order.execute qty px = .ok filled ∧
      ∀ id, after.book.find? id =
        if id = orderId then some { e with order := filled } else x.book.find? id := by
  cases fills with
  | @executed e leaves left filled found opened known positive within executes =>
    refine ⟨e, filled, found, opened, executes, fun id => ?_⟩
    obtain ⟨-, named⟩ := Book.mem_of_find? found
    obtain ⟨_, _, -, -, rfl⟩ := (execute_eq_ok_iff ..).mp executes
    rw [Book.find?_update]
    dsimp only
    rw [named]
    split
    · rename_i here
      rw [here, found, Option.map_some]
    · rfl

/-- Telling the owner fails for want of a connection that takes the report, and whether it does or
not, the exchange stays as it is. -/
theorem Venue.push_cases (v : Venue) (report : Message) (owner : Owner) (now : Moment) :
    (v.push report owner now).2.exchange = v.exchange ∧
      ∀ fault, (v.push report owner now).1 = .error fault → ∃ cause, fault = .session cause := by
  rw [push]
  split
  · refine ⟨rfl, fun fault fails => ?_⟩
    cases fails
    exact ⟨_, rfl⟩
  · rename_i c there
    refine ⟨rfl, fun fault fails => ?_⟩
    dsimp only at fails
    cases sends : (c.send report now).1 with
    | error cause =>
      rw [sends] at fails
      cases fails
      exact ⟨cause, rfl⟩
    | ok seq =>
      rw [sends] at fails
      cases fails

/-- A failed execution either has changed nothing, and there was nothing to be executed, or has
failed to tell the owner, and then the order has been executed as it would have been otherwise and no
other order has changed. -/
theorem failed_fill {v after : Venue} {orderId : String} {qty px : Decimal} {now : Moment}
    {fault : FillFault} (fails : v.fill orderId qty px now = .ok (.error fault, after)) :
    ((∀ cause, fault ≠ .session cause) →
      Declines v.exchange orderId qty fault ∧ after = v) ∧
    ∀ cause, fault = .session cause →
      (∃ report owner, executeFill v.exchange orderId qty px =
        .ok (.ok (report, owner), after.exchange)) ∧
      ∃ e filled, v.exchange.book.find? orderId = some e ∧ e.order.isOpen = true ∧
        e.order.execute qty px = .ok filled ∧
        ∀ id, after.exchange.book.find? id =
          if id = orderId then some { e with order := filled } else v.exchange.book.find? id := by
  rw [Venue.fill, bind_eq_ok_iff] at fails
  obtain ⟨⟨result, exchange⟩, executes, fails⟩ := fails
  obtain ⟨⟨cause, rfl, declines⟩, rfl⟩ | ⟨report, owner, rfl, fills⟩ := executeFill_cases executes
  case inl =>
    cases fails
    refine ⟨fun _ => ⟨declines, rfl⟩, ?_⟩
    rintro cause rfl
    cases declines
  case inr =>
    obtain ⟨same, told⟩ := Venue.push_cases { v with exchange } report owner now
    have pushed := Except.ok.inj fails
    obtain ⟨cause, rfl⟩ := told fault (congrArg Prod.fst pushed)
    have exchanged : after.exchange = exchange :=
      (congrArg (fun outcome => outcome.2.exchange) pushed).symm.trans same
    refine ⟨fun none => absurd rfl (none cause), fun _ _ => ?_⟩
    rw [exchanged]
    exact ⟨⟨report, owner, executes⟩, fills.find?⟩

/-- The first of two owners is gone when its order is executed: what the order has traded stays, and
the other order has not changed. -/
theorem failed_fill_owner_gone :
    let amount (text : String) := (Decimal.ofText? text).getD .zero
    let order (clOrdId : String) := Message.mk "FIX.4.4"
      [⟨Tag.msgType, "D"⟩, ⟨Tag.clOrdId, clOrdId⟩, ⟨Tag.symbol, "ACME"⟩, ⟨Tag.side, "1"⟩,
        ⟨Tag.orderQty, "100"⟩, ⟨Tag.ordType, "1"⟩] none
    let v : Venue :=
      ⟨State.reached .default
        [.message (order "C1") ⟨1, "FIX.4.4"⟩, .message (order "C2") ⟨2, "FIX.4.4"⟩], []⟩
    let now : Moment := ⟨⟨0⟩, 0⟩
    ∃ after, v.fill "ORD00000001" (amount "40") (amount "10") now =
        .ok (.error (.session .disconnected), after) ∧
      ((after.exchange.book.find? "ORD00000001").map fun e => e.order.cumQty) = some (amount "40") ∧
      after.exchange.book.find? "ORD00000002" = v.exchange.book.find? "ORD00000002" := by
  intro amount order v now
  let after := ((v.fill "ORD00000001" (amount "40") (amount "10") now).toOption.map Prod.snd).getD v
  have fails : v.fill "ORD00000001" (amount "40") (amount "10") now =
      .ok (.error (.session .disconnected), after) := by decide +kernel
  obtain ⟨-, e, filled, found, -, executes, seen⟩ := (failed_fill fails).2 .disconnected rfl
  -- The order as it was found has traded nothing.
  have trades : ((v.exchange.book.find? "ORD00000001").map fun e =>
      (e.order.execute (amount "40") (amount "10")).map (·.cumQty)) = some (.ok (amount "40")) := by
    decide +kernel
  rw [found, Option.map_some, executes] at trades
  refine ⟨after, fails, ?_, seen "ORD00000002"⟩
  rw [seen "ORD00000001"]
  exact congrArg some (Except.ok.inj (Option.some.inj trades))

/-- The owner of an order has closed its connection. Executing the order fails, as it cannot be told,
and the order has traded all the same. -/
theorem unreported_fill :
    let amount (text : String) := (Decimal.ofText? text).getD .zero
    let now : Moment := ⟨⟨0⟩, 0⟩
    let config := SessionConfig.default ⟨"S", by decide, by decide⟩ ⟨"C", by decide, by decide⟩
      "FIX.4.4"
    let c := (Connection.create 1 (.create config now)).close
    let order := Message.mk "FIX.4.4"
      [⟨Tag.msgType, "D"⟩, ⟨Tag.clOrdId, "C1"⟩, ⟨Tag.symbol, "ACME"⟩, ⟨Tag.side, "1"⟩,
        ⟨Tag.orderQty, "100"⟩, ⟨Tag.ordType, "1"⟩] none
    let v : Venue := ⟨State.reached .default [.message order (ownerOf c)], [c]⟩
    let standing (v : Venue) := (v.exchange.book.find? "ORD00000001").map fun e =>
      (e.order.cumQty, e.order.avgPx, e.order.status, e.order.leavesQty)
    ∃ after, v.fill "ORD00000001" (amount "40") (amount "10") now =
        .ok (.error (.session .disconnected), after) ∧
      standing v = some (.zero, .zero, .new, .ok (amount "100")) ∧
      standing after = some (amount "40", amount "10", .partiallyFilled, .ok (amount "60")) := by
  intro amount now config c order v standing
  let after := ((v.fill "ORD00000001" (amount "40") (amount "10") now).toOption.map Prod.snd).getD v
  exact ⟨after, by decide +kernel, by decide +kernel, by decide +kernel⟩

end FixBench.Exchange
