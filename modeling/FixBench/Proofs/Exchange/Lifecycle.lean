import FixBench.Proofs.Exchange.Isolation

/-!
# The life of an order at the exchange

An order is new until it trades, then filled in part until it is filled, and it may be canceled
before that. Its status, its quantities and the reports that have been made on it always fit each
other (`lifecycle`): what it has executed is what its fill reports add up to; an order filled in part
has executed something and has something left; a filled one has executed its quantity exactly. An
order that is filled or canceled stays as it is until its connection is removed.

What a step does to the book and what it reports are taken together in `Accounted`, which is kept by
every step: a new order comes with an identifier no report has spoken of, and an execution raises the
executed quantity by what its report tells. Executions have to be counted exactly. A rounded total may
fall short of a quantity that has been reached, or pass it.
-/
namespace FixBench.Exchange

/-! ### The reports of a run -/

namespace State

/-- What an event makes the exchange report. -/
def reports (x : State) : Event → List Message
  | .message m owner =>
    match onMessage x m owner with
    | .ok (.ok reports, _) => reports
    | _ => []
  | .fill orderId qty px =>
    match executeFill x orderId qty px with
    | .ok (.ok (report, _), _) => [report]
    | _ => []
  | .logout _ => []

/-- All that the exchange reports in a run. -/
def log (x : State) : List Event → List Message
  | [] => []
  | event :: rest => x.reports event ++ (x.step event).log rest

/-- If the event is an execution that is carried out, neither what was left before it nor what has
been executed after it is rounded. -/
def countsExactly (x : State) : Event → Bool
  | .fill orderId qty px =>
    match executeFill x orderId qty px with
    | .ok (.ok _, _) => (x.order? orderId).all (·.countsExactly qty)
    | _ => true
  | _ => true

/-- All executions of a run are counted without rounding. -/
def runsExactly (x : State) : List Event → Bool
  | [] => true
  | event :: rest => x.countsExactly event && (x.step event).runsExactly rest

theorem log_append_singleton (x : State) (events : List Event) (event : Event) :
    x.log (events ++ [event]) = x.log events ++ (x.run events).reports event := by
  induction events generalizing x with
  | nil => simp [log, run]
  | cons first rest ih =>
    rw [List.cons_append, log, log, ih, List.append_assoc]
    rfl

theorem runsExactly_append_singleton (x : State) (events : List Event) (event : Event) :
    x.runsExactly (events ++ [event]) =
      (x.runsExactly events && (x.run events).countsExactly event) := by
  induction events generalizing x with
  | nil => simp [runsExactly, run]
  | cons first rest ih =>
    rw [List.cons_append, runsExactly, runsExactly, ih, Bool.and_assoc]
    rfl

end State

/-- What an event can make the exchange report, together with what becomes of the exchange. -/
inductive Tells (x : State) : Event → List Message → State → Prop where
  | silent {event : Event} : Tells x event [] x
  | handled {m : Message} {owner : Owner} {reports : List Message} {after : State}
      (handles : Handles x m owner reports after) : Tells x (.message m owner) reports after
  | filled {orderId : String} {qty px : Decimal} {report : Message} {owner : Owner} {after : State}
      (executes : executeFill x orderId qty px = .ok (.ok (report, owner), after))
      (fills : Fills x orderId qty px report owner after) :
      Tells x (.fill orderId qty px) [report] after
  | removed {ownerId : Nat} : Tells x (.logout ownerId) [] (onLogout x ownerId)

/-- What is reported and what becomes of the exchange come from one and the same call. -/
theorem tells_step {x : State} (funded : x.book.Funded) (event : Event) :
    Tells x event (x.reports event) (x.step event) := by
  cases event with
  | message m owner =>
    obtain ⟨answer, ends, mute⟩ | ⟨reports, after, ends, handles⟩ := onMessage_ends x m owner funded
    · cases answer with
      | error reason =>
        simp only [State.step, State.reports, ends]
        exact .silent
      | ok reports =>
        simp only [State.step, State.reports, ends, mute reports rfl]
        exact .silent
    · simp only [State.step, State.reports, ends]
      exact .handled handles
  | fill orderId qty px =>
    cases ends : executeFill x orderId qty px with
    | error fault =>
      simp only [State.step, State.reports, ends]
      exact .silent
    | ok outcome =>
      obtain ⟨result, after⟩ := outcome
      -- A declined execution reports nothing and changes nothing.
      obtain ⟨⟨fault, rfl, -⟩, rfl⟩ | ⟨report, owner, rfl, fills⟩ := executeFill_cases ends
      · simp only [State.step, State.reports, ends]
        exact .silent
      · simp only [State.step, State.reports, ends]
        exact .filled ends fills
  | logout ownerId => exact .removed

/-! ### Executions in reports -/

/-- The quantity a message tells to have been executed of an order, if it is a fill report on it. -/
def tradedIn (orderId : String) (report : Message) : ℚ :=
  match (MessageView.ofMessage report : Except BuildFault ExecutionReport) with
  | .ok r =>
    if r.orderId = orderId ∧ r.execType.isFill = true then (r.lastQty.map Decimal.value).getD 0 else 0
  | .error _ => 0

/-- Sum of the executions of an order in these reports. -/
def traded (orderId : String) (reports : List Message) : ℚ := (reports.map (tradedIn orderId)).sum

theorem traded_append (orderId : String) (first second : List Message) :
    traded orderId (first ++ second) = traded orderId first + traded orderId second := by
  simp [traded]

theorem traded_singleton (orderId : String) (report : Message) :
    traded orderId [report] = tradedIn orderId report := by
  simp [traded]

theorem traded_executed (version : String) (order : RestingOrder) (leaves : Decimal)
    (execId : String) (qty px : Decimal) (orderId : String) :
    traded orderId [(Notice.mk version order leaves execId (.executed qty px)).message] =
      if order.orderId = orderId then qty.value else 0 := by
  let n : Notice := ⟨version, order, leaves, execId, .executed qty px⟩
  have kind : n.view.execType.isFill = true := by
    show (if order.isOpen then ExecType.partialFill else .fill).isFill = true
    split <;> rfl
  have told : n.view.lastQty = some qty.plain := lastQty_view ..
  have reads : (MessageView.ofMessage n.message : Except BuildFault ExecutionReport) = .ok n.view :=
    n.ofMessage_message
  show traded orderId [n.message] = _
  simp only [traded_singleton, tradedIn, reads, kind, told, and_true, Option.map_some,
    Option.getD_some, Decimal.value_plain]
  rfl

/-- No other report of the exchange is a fill report. -/
theorem traded_notice (n : Notice) (orderId : String)
    (idle : ∀ qty px, n.occasion ≠ .executed qty px) : traded orderId [n.message] = 0 := by
  have kind : n.view.execType.isFill = false := by
    show n.execType.isFill = false
    unfold Notice.execType
    cases occasion : n.occasion with
    | executed qty px => exact absurd occasion (idle qty px)
    | rejected | acknowledged | canceled | replaced => rfl
  have reads : (MessageView.ofMessage n.message : Except BuildFault ExecutionReport) = .ok n.view :=
    n.ofMessage_message
  simp [traded, tradedIn, reads, kind]

theorem traded_refused (n : Refused) (orderId : String) : traded orderId [n.message] = 0 := by
  rw [traded_singleton, tradedIn]
  split
  · rename_i r reads
    have typed := MessageView.msgType_of_ofMessage reads
    rw [Message.msgType_of_get n.get_msgType] at typed
    cases typed
  · rfl

/-! ### Orders by themselves -/

namespace RestingOrder

/-- Status and quantities of an order fit each other. -/
structure Coherent (o : RestingOrder) : Prop where
  status : o.status = .new ∨ o.status = .partiallyFilled ∨ o.status = .filled ∨ o.status = .canceled
  new : o.status = .new → o.cumQty = .zero ∧ o.avgPx = .zero
  partly : o.status = .partiallyFilled →
    0 < o.cumQty.value ∧ o.cumQty.value < o.orderQty.value
  filled : o.status = .filled → o.cumQty.value = o.orderQty.value
  opened : o.isOpen = true → 0 ≤ o.cumQty.value

variable {o after : RestingOrder}

theorem isOpen_of_status (done : o.status = .filled ∨ o.status = .canceled) : o.isOpen = false := by
  rcases done with done | done <;> rw [isOpen, done] <;> rfl

namespace Coherent

theorem ofRequest (request : NewOrderSingle) (orderId : String) :
    (RestingOrder.ofRequest request orderId).Coherent where
  status := .inl rfl
  new _ := ⟨rfl, rfl⟩
  partly other := by cases other
  filled other := by cases other
  opened _ := Decimal.value_zero.ge

theorem ofPartly (part : o.status = .partiallyFilled) (above : 0 < o.cumQty.value)
    (short : o.cumQty.value < o.orderQty.value) : o.Coherent where
  status := .inr (.inl part)
  new fresh := by
    rw [part] at fresh
    cases fresh
  partly _ := ⟨above, short⟩
  filled done := by
    rw [part] at done
    cases done
  opened _ := above.le

theorem ofFilled (done : o.status = .filled) (reached : o.cumQty.value = o.orderQty.value) :
    o.Coherent where
  status := .inr (.inr (.inl done))
  new fresh := by
    rw [done] at fresh
    cases fresh
  partly part := by
    rw [done] at part
    cases part
  filled _ := reached
  opened still := by
    rw [isOpen_of_status (.inl done)] at still
    cases still

theorem canceled (o : RestingOrder) : o.canceled.Coherent where
  status := .inr (.inr (.inr rfl))
  new other := by cases other
  partly other := by cases other
  filled other := by cases other
  opened still := by cases still

/-- A quantity above what has been executed suits any open order. -/
theorem replaced (coherent : o.Coherent) (opened : o.isOpen = true)
    {request : OrderCancelReplaceRequest} (above : o.cumQty < request.orderQty) :
    (o.replaced request).Coherent where
  status := coherent.status
  new fresh := coherent.new fresh
  partly part := ⟨(coherent.partly part).1, (Decimal.lt_iff ..).mp above⟩
  filled done := by
    have closed : o.isOpen = false := isOpen_of_status (.inl done)
    rw [closed] at opened
    cases opened
  opened still := coherent.opened still

/-- An execution within what is left: the order is filled by it if and only if nothing is left. -/
theorem execute (coherent : o.Coherent) (opened : o.isOpen = true) {leaves qty px : Decimal}
    (known : o.leavesQty = .ok leaves) (positive : .zero < qty) (within : qty ≤ leaves)
    (executes : o.execute qty px = .ok after) (exactly : o.countsExactly qty = true) :
    after.Coherent ∧ after.cumQty.value = o.cumQty.value + qty.value := by
  obtain ⟨total, avgPx, sums, -, rfl⟩ := (execute_eq_ok_iff ..).mp executes
  have left := value_leavesQty_of_exactly exactly opened known
  have counted := value_filled_of_exactly exactly sums
  have nonneg := coherent.opened opened
  rw [Decimal.lt_iff, Decimal.value_zero] at positive
  rw [Decimal.le_iff] at within
  refine ⟨?_, counted⟩
  by_cases full : o.orderQty ≤ total
  · -- The execution was within what was left, so a total that has reached the quantity is at it.
    have reached : total.value = o.orderQty.value := by
      rw [Decimal.le_iff] at full
      linarith
    exact .ofFilled (if_pos full) reached
  · have short : total.value < o.orderQty.value := by
      rw [Decimal.le_iff, not_le] at full
      exact full
    have above : 0 < total.value := by linarith
    exact .ofPartly (if_neg full) above short

end Coherent

end RestingOrder

/-! ### The book and its reports -/

/-- The orders of the book are coherent, and what they have executed is what has been reported of
them. Of orders to come nothing has been reported. -/
structure Accounted (x : State) (log : List Message) : Prop where
  coherent : ∀ e ∈ x.book.entries, e.order.Coherent
  counted : ∀ e ∈ x.book.entries, e.order.cumQty.value = traded e.order.orderId log
  unused : ∀ k, x.ids.orders < k → traded (IdCounters.orderId k) log = 0

namespace Accounted

variable {x after : State} {log told : List Message} {o : RestingOrder}

/-- Reports that tell of no execution make no difference. -/
theorem silent (accounted : Accounted x log) (nothing : ∀ id, traded id told = 0)
    (orders reports : Nat) : Accounted (x.counted orders reports) (log ++ told) where
  coherent := accounted.coherent
  counted e member := by
    rw [traded_append, nothing, add_zero]
    exact accounted.counted e member
  unused k beyond := by
    rw [traded_append, nothing, add_zero]
    exact accounted.unused k (Nat.lt_of_le_of_lt (Nat.le_add_right ..) beyond)

/-- An order enters under the next identifier, together with the reports on what it has executed. -/
theorem insert (accounted : Accounted x log) (owner : Owner) (reports : Nat)
    (named : o.orderId = IdCounters.orderId (x.ids.orders + 1)) (fresh : x.book.Fresh o.orderId)
    (coherent : o.Coherent)
    (tells : ∀ id, traded id told = if o.orderId = id then o.cumQty.value else 0) :
    Accounted { x.counted 1 reports with book := x.book.insert o owner } (log ++ told) where
  coherent e member := by
    obtain old | rfl := (Book.mem_insert fresh).mp member
    · exact accounted.coherent e old
    · exact coherent
  counted e member := by
    rw [traded_append, tells]
    obtain old | rfl := (Book.mem_insert fresh).mp member
    · rw [if_neg fun same => fresh e old same.symm, add_zero]
      exact accounted.counted e old
    · -- Nobody has reported on the order before.
      rw [if_pos rfl, named, accounted.unused _ (Nat.lt_succ_self _), zero_add]
  unused k beyond := by
    have later : x.ids.orders + 1 < k := beyond
    have other : o.orderId ≠ IdCounters.orderId k := by
      rw [named]
      exact IdCounters.orderId_injective.ne (Nat.ne_of_lt later)
    rw [traded_append, tells, if_neg other, add_zero]
    exact accounted.unused k (by omega)

/-- An order changes, and the reports tell how much it has executed meanwhile. -/
theorem update (sound : x.Sound) (accounted : Accounted x log) {former : Entry}
    (member : former ∈ x.book.entries) (named : former.order.orderId = o.orderId) (reports : Nat)
    (coherent : o.Coherent)
    (tells : ∀ id, traded id told =
      if o.orderId = id then o.cumQty.value - former.order.cumQty.value else 0) :
    Accounted { x.counted 0 reports with book := x.book.update o } (log ++ told) where
  coherent e there := by
    obtain ⟨old, -⟩ | ⟨_, -, -, rfl⟩ := Book.mem_update.mp there
    · exact accounted.coherent e old
    · exact coherent
  counted e there := by
    rw [traded_append, tells]
    obtain ⟨old, other⟩ | ⟨_, -, -, rfl⟩ := Book.mem_update.mp there
    · rw [if_neg (Ne.symm other), add_zero]
      exact accounted.counted e old
    · rw [if_pos rfl, ← named, ← accounted.counted former member]
      exact (add_sub_cancel ..).symm
  unused k beyond := by
    -- The order has its identifier from an earlier state of the counter.
    obtain ⟨j, early, numbered⟩ := sound.numbered former member
    have later : x.ids.orders < k := beyond
    have other : o.orderId ≠ IdCounters.orderId k := by
      rw [← named, numbered]
      exact IdCounters.orderId_injective.ne (Nat.ne_of_lt (Nat.lt_of_le_of_lt early later))
    rw [traded_append, tells, if_neg other, add_zero]
    exact accounted.unused k later

/-- An order changes that has executed nothing meanwhile, and no execution is told of. -/
theorem amend (sound : x.Sound) (accounted : Accounted x log) {former : Entry}
    (member : former ∈ x.book.entries) (named : former.order.orderId = o.orderId)
    (kept : o.cumQty = former.order.cumQty) (reports : Nat) (coherent : o.Coherent)
    (nothing : ∀ id, traded id told = 0) :
    Accounted { x.counted 0 reports with book := x.book.update o } (log ++ told) := by
  refine accounted.update sound member named reports coherent fun id => ?_
  rw [nothing, kept, sub_self, ite_self]

theorem handled (sound : x.Sound) (accounted : Accounted x log) {m : Message} {owner : Owner}
    (handles : Handles x m owner told after) : Accounted after (log ++ told) := by
  cases handles with
  | rejected =>
    refine accounted.silent (fun id => ?_) 1 1
    exact traded_notice _ id fun _ _ other => by cases other
  | @accepted request =>
    refine accounted.insert owner 1 rfl (sound.fresh request) (.ofRequest ..) fun id => ?_
    rw [traded_notice _ id fun _ _ other => by cases other]
    show 0 = if _ then Decimal.zero.value else 0
    rw [Decimal.value_zero, ite_self]
  | @filledAtOnce request =>
    refine accounted.insert owner 2 rfl (sound.fresh request) (.ofFilled rfl rfl) fun id => ?_
    rw [← List.singleton_append, traded_append, traded_executed,
      traded_notice _ id fun _ _ other => by cases other]
    exact zero_add _
  | refused => exact accounted.silent (fun id => traded_refused _ id) 0 0
  | @canceled request o reads found =>
    obtain ⟨resting, there, -⟩ := Book.mem_of_locate? found
    refine accounted.amend (o := o.canceled) sound there rfl rfl 1 (.canceled o) fun id => ?_
    exact traded_notice _ id fun _ _ other => by cases other
  | @replaced request o leaves reads found opened above =>
    obtain ⟨resting, there, -⟩ := Book.mem_of_locate? found
    have coherent := (accounted.coherent _ there).replaced opened above
    have silent (id : String) := traded_notice
      ⟨m.beginString, o.replaced request, leaves, x.execId 0, .replaced o.clOrdId⟩ id
      fun _ _ other => by cases other
    -- Entering an identifier leaves the orders as they are.
    have changed := accounted.amend (o := o.replaced request) sound there rfl rfl 1 coherent silent
    exact ⟨changed.coherent, changed.counted, changed.unused⟩

theorem filled (sound : x.Sound) (accounted : Accounted x log) {orderId : String}
    {qty px : Decimal} {report : Message} {owner : Owner}
    (exactly : (x.order? orderId).all (·.countsExactly qty) = true)
    (fills : Fills x orderId qty px report owner after) : Accounted after (log ++ [report]) := by
  cases fills with
  | @executed e leaves left filled found opened known positive within executes =>
    obtain ⟨member, -⟩ := Book.mem_of_find? found
    rw [State.order?, found, Option.map_some, Option.all_some] at exactly
    obtain ⟨coherent, counted⟩ :=
      (accounted.coherent e member).execute opened known positive within executes exactly
    have named : filled.orderId = e.order.orderId := by
      obtain ⟨_, _, -, -, rfl⟩ := (execute_eq_ok_iff ..).mp executes
      rfl
    refine accounted.update sound member named.symm 1 coherent fun id => ?_
    rw [traded_executed, counted, add_sub_cancel_left]

theorem step (sound : x.Sound) (accounted : Accounted x log) (event : Event)
    (exactly : x.countsExactly event = true) :
    Accounted (x.step event) (log ++ x.reports event) := by
  have tells := tells_step sound.funded event
  generalize x.reports event = reports at tells ⊢
  generalize x.step event = after at tells ⊢
  cases tells with
  | silent =>
    rw [List.append_nil]
    exact accounted
  | handled handles => exact accounted.handled sound handles
  | filled executes fills =>
    rw [State.countsExactly, executes] at exactly
    exact accounted.filled sound exactly fills
  | removed =>
    rw [List.append_nil]
    refine ⟨fun e member => ?_, fun e member => ?_, accounted.unused⟩
    · exact accounted.coherent e (Book.mem_removeOwner.mp member).1
    · exact accounted.counted e (Book.mem_removeOwner.mp member).1

theorem reached (settings : Settings) (events : List Event)
    (exactly : (State.start settings).runsExactly events = true) :
    Accounted (State.reached settings events) ((State.start settings).log events) := by
  induction events using List.reverseRecOn with
  | nil => exact ⟨fun _ none => (List.not_mem_nil none).elim,
      fun _ none => (List.not_mem_nil none).elim, fun _ _ => rfl⟩
  | append_singleton events event ih =>
    rw [State.runsExactly_append_singleton, Bool.and_eq_true] at exactly
    rw [State.reached_append_singleton, State.log_append_singleton]
    exact (ih exactly.1).step (State.Sound.reached settings events) event exactly.2

end Accounted

/-! ### Finished orders -/

section Finished

variable {x : State} {e : Entry}

/-- Only open orders are changed. -/
theorem Book.Change.mem_of_closed {b b' : Book} {ownerId : Nat} (distinct : b.Distinct)
    (change : b.Change ownerId b') (member : e ∈ b.entries) (closed : e.order.isOpen = false) :
    e ∈ b'.entries := by
  have updated {o : RestingOrder} {former : Entry} (there : former ∈ b.entries)
      (opened : former.order.isOpen = true) (named : former.order.orderId = o.orderId) :
      e ∈ (b.update o).entries := by
    refine mem_update.mpr (.inl ⟨member, fun same => ?_⟩)
    rw [distinct.eq_of_orderId member there (same.trans named.symm), opened] at closed
    cases closed
  cases change with
  | kept => exact member
  | entered own fresh => exact (mem_insert fresh).mpr (.inl member)
  | changed there own opened named => exact updated there opened named
  | renamed there own opened named => exact updated there opened named

theorem mem_step_of_closed (sound : x.Sound) (member : e ∈ x.book.entries)
    (closed : e.order.isOpen = false) {event : Event} (stays : event ≠ .logout e.owner.id) :
    e ∈ (x.step event).book.entries := by
  generalize reaches : x.step event = y
  have moves := reaches ▸ moves_step sound.funded event
  cases moves with
  | idle => exact member
  | handled handles => exact (handles.change sound).mem_of_closed sound.distinct member closed
  | filled fills => exact fills.change.mem_of_closed sound.distinct member closed
  | removed =>
    refine Book.mem_removeOwner.mpr ⟨member, fun own => ?_⟩
    rw [own] at stays
    exact stays rfl

theorem find?_run_of_closed (sound : x.Sound) (member : e ∈ x.book.entries)
    (closed : e.order.isOpen = false) {later : List Event}
    (stays : ∀ event ∈ later, event ≠ .logout e.owner.id) :
    (x.run later).book.find? e.order.orderId = some e := by
  induction later generalizing x with
  | nil => exact (Book.find?_eq_some_iff sound.distinct ..).mpr ⟨member, rfl⟩
  | cons event rest ih =>
    have here := stays event (List.mem_cons_self ..)
    exact ih (sound.step event) (mem_step_of_closed sound member closed here)
      fun event among => stays event (List.mem_cons_of_mem _ among)

end Finished

/-! ### Lives -/

/-- After any run whose executions are counted exactly, every order of the book is coherent and has
executed what its fill reports add up to; and if it is filled or canceled, then it is found unchanged
whatever happens later, as long as its connection is not removed. -/
theorem lifecycle (settings : Settings) (events : List Event)
    (exactly : (State.start settings).runsExactly events = true) :
    ∀ e ∈ (State.reached settings events).book.entries,
      e.order.Coherent ∧
      e.order.cumQty.value = traded e.order.orderId ((State.start settings).log events) ∧
      (e.order.status = .filled ∨ e.order.status = .canceled →
        ∀ later, (∀ event ∈ later, event ≠ .logout e.owner.id) →
          ((State.reached settings events).run later).book.find? e.order.orderId = some e) := by
  intro e member
  have accounted := Accounted.reached settings events exactly
  have sound := State.Sound.reached settings events
  refine ⟨accounted.coherent e member, accounted.counted e member, ?_⟩
  intro done later stays
  exact find?_run_of_closed sound member (RestingOrder.isOpen_of_status done) stays

/-- An order of 100 trades 60, is replaced at a quantity of 80 and trades the rest. -/
def tradedOut : List Event :=
  let new := Message.mk "FIX.4.4"
    [⟨Tag.msgType, "D"⟩, ⟨Tag.clOrdId, "C1"⟩, ⟨Tag.symbol, "ACME"⟩, ⟨Tag.side, "1"⟩,
      ⟨Tag.orderQty, "100"⟩, ⟨Tag.ordType, "1"⟩] none
  let replace := Message.mk "FIX.4.4"
    [⟨Tag.msgType, "G"⟩, ⟨Tag.origClOrdId, "C1"⟩, ⟨Tag.clOrdId, "C2"⟩, ⟨Tag.symbol, "ACME"⟩,
      ⟨Tag.side, "1"⟩, ⟨Tag.orderQty, "80"⟩, ⟨Tag.ordType, "1"⟩] none
  let owner : Owner := ⟨1, "FIX.4.4"⟩
  let amount (text : String) := (Decimal.ofText? text).getD .zero
  [.message new owner, .fill "ORD00000001" (amount "60") (amount "10"), .message replace owner,
    .fill "ORD00000001" (amount "20") (amount "10")]

/-- The reports add up to the new quantity, and the order is settled. -/
theorem lifecycle_traded_out :
    (State.start .default).runsExactly tradedOut = true ∧
      ∃ e ∈ (State.reached .default tradedOut).book.entries,
        traded e.order.orderId ((State.start .default).log tradedOut) = 80 ∧
          ∀ later, (∀ event ∈ later, event ≠ .logout e.owner.id) →
            ((State.reached .default tradedOut).run later).book.find? e.order.orderId = some e := by
  have exactly : (State.start .default).runsExactly tradedOut = true := by decide +kernel
  obtain ⟨e, member, done, executed⟩ : ∃ e ∈ (State.reached .default tradedOut).book.entries,
      e.order.status = .filled ∧ e.order.cumQty.value = 80 := by decide +kernel
  obtain ⟨-, counted, settled⟩ := lifecycle .default tradedOut exactly e member
  exact ⟨exactly, e, member, counted.symm.trans executed, settled (.inl done)⟩

end FixBench.Exchange
