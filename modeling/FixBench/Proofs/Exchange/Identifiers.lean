import FixBench.Proofs.Exchange.Lifecycle

/-!
# Identifiers of orders and reports

The exchange names its orders and its execution reports after two counters. Every execution report
takes one number, whatever it is made for, and every valid new order takes one, whether it is
accepted or rejected; nothing else takes any. So in a run the reports carry the names of the first
numbers in order, and so do the new orders (`Numbered`), and no name comes twice. The counters are
without bound. The width to which a number is padded is none: a number that has outgrown it is still
told from every other.

An order enters the book under a number that has just been taken, and every order in the book has its
name from an earlier one. So it never takes the place of another (`Handles.numbers`).
-/
namespace FixBench.Exchange

/-! ### Names drawn from a counter -/

namespace IdCounters

theorem execId_injective : Function.Injective execId := by
  intro m n same
  exact Numeral.padded_injective 8 ((String.append_right_inj _).mp same)

example : execId 99999999 = "EXEC99999999" ∧ execId 100000000 = "EXEC100000000" := by
  decide +kernel

/-- The names of the next numbers, after some that are used up. -/
def drawn (name : Nat → String) (used count : Nat) : List String :=
  (List.range' (used + 1) count).map name

theorem drawn_add (name : Nat → String) (used first second : Nat) :
    drawn name used (first + second) = drawn name used first ++ drawn name (used + first) second := by
  rw [drawn, drawn, drawn, ← List.map_append, Nat.add_right_comm, List.range'_append_1]

@[simp]
theorem length_drawn (name : Nat → String) (used count : Nat) :
    (drawn name used count).length = count := by
  simp [drawn]

theorem nodup_drawn {name : Nat → String} (injective : Function.Injective name)
    (used count : Nat) : (drawn name used count).Nodup :=
  (List.nodup_range' ..).map injective

theorem notMem_drawn {name : Nat → String} (injective : Function.Injective name)
    {used count n : Nat} (beyond : used + count < n) : name n ∉ drawn name used count := by
  intro among
  obtain ⟨k, inside, same⟩ := List.mem_map.mp among
  rw [List.mem_range'_1] at inside
  have alike := injective same
  omega

end IdCounters

open IdCounters (drawn)

/-! ### Execution reports among messages -/

def executionReports (messages : List Message) : List ExecutionReport :=
  messages.filterMap fun m => (MessageView.ofMessage m : Except BuildFault ExecutionReport).toOption

def execIds (messages : List Message) : List String :=
  (executionReports messages).map ExecutionReport.execId

theorem execIds_append (first second : List Message) :
    execIds (first ++ second) = execIds first ++ execIds second := by
  simp [execIds, executionReports]

@[simp]
theorem executionReports_notice (n : Notice) (rest : List Message) :
    executionReports (n.message :: rest) = n.view :: executionReports rest := by
  have reads : (MessageView.ofMessage n.message : Except BuildFault ExecutionReport) = .ok n.view :=
    n.ofMessage_message
  simp [executionReports, reads, Except.toOption]

theorem Refused.msgType (n : Refused) : n.message.msgType = .orderCancelReject :=
  Message.msgType_of_get n.get_msgType

theorem executionReports_refused (n : Refused) : executionReports [n.message] = [] := by
  cases reads : (MessageView.ofMessage n.message : Except BuildFault ExecutionReport) with
  | error fault => simp [executionReports, reads, Except.toOption]
  | ok r =>
    have other := n.msgType.symm.trans (MessageView.msgType_of_ofMessage reads)
    cases other

/-- A message that is an execution report can be read as one. -/
def Readable (report : Message) : Prop :=
  report.msgType = .executionReport → ∃ r : ExecutionReport, MessageView.ofMessage report = .ok r

theorem Notice.readable (n : Notice) : Readable n.message := fun _ => ⟨n.view, n.ofMessage_message⟩

theorem Refused.readable (n : Refused) : Readable n.message := by
  intro kind
  have other := n.msgType.symm.trans kind
  cases other

/-! ### Numbers taken by a step -/

section Step

variable {x after : State} {m : Message} {owner : Owner} {reports : List Message} {event : Event}

/-- Every execution report takes one number. -/
structure Takes (x : State) (reports : List Message) (after : State) (count : Nat) : Prop where
  execIds_eq : execIds reports = drawn IdCounters.execId x.ids.executions count
  executions_eq : after.ids.executions = x.ids.executions + count
  readable : ∀ report ∈ reports, Readable report

theorem Takes.notice (n : Notice) (named : n.execId = x.execId 0)
    (counted : after.ids.executions = x.ids.executions + 1) : Takes x [n.message] after 1 where
  execIds_eq := by
    rw [execIds, executionReports_notice]
    exact congrArg (· :: []) named
  executions_eq := counted
  readable := List.forall_mem_singleton.mpr n.readable

theorem Handles.takes (handles : Handles x m owner reports after) :
    ∃ count, Takes x reports after count := by
  cases handles with
  | rejected | accepted | canceled | replaced => exact ⟨1, .notice _ rfl rfl⟩
  | filledAtOnce =>
    refine ⟨2, ?_, rfl, ?_⟩
    · rw [execIds, executionReports_notice, executionReports_notice]
      rfl
    · exact List.forall_mem_cons.mpr
        ⟨Notice.readable _, List.forall_mem_singleton.mpr (Notice.readable _)⟩
  | refused =>
    refine ⟨0, ?_, rfl, List.forall_mem_singleton.mpr (Refused.readable _)⟩
    rw [execIds, executionReports_refused]
    rfl

theorem Tells.takes (tells : Tells x event reports after) : ∃ count, Takes x reports after count := by
  cases tells with
  | silent | removed => exact ⟨0, rfl, rfl, fun _ none => (List.not_mem_nil none).elim⟩
  | handled handles => exact handles.takes
  | filled executes fills =>
    cases fills with
    | executed => exact ⟨1, .notice _ rfl rfl⟩

end Step

/-! ### New orders -/

/-- A message that can be read as a new order. -/
def Event.isNewOrder : Event → Bool
  | .message m _ =>
    (MessageView.ofMessage m : Except BuildFault NewOrderSingle).toOption.isSome
  | _ => false

namespace State

/-- The identifier a valid new order is given is the one its reports speak of. -/
def given? (x : State) (event : Event) : Option String :=
  if event.isNewOrder then (executionReports (x.reports event)).head?.map ExecutionReport.orderId
  else none

/-- All identifiers given to the new orders of a run. -/
def given (x : State) : List Event → List String
  | [] => []
  | event :: rest => (x.given? event).toList ++ (x.step event).given rest

theorem given_append_singleton (x : State) (events : List Event) (event : Event) :
    x.given (events ++ [event]) = x.given events ++ ((x.run events).given? event).toList := by
  induction events generalizing x with
  | nil => simp [given, run]
  | cons first rest ih =>
    rw [List.cons_append, given, given, ih, List.append_assoc]
    rfl

end State

/-- A new order of `owner` goes by one name: it is reported on, every report on it carries the name,
and if it enters the book, then behind the orders that are there, which stay as they are. -/
structure GoesBy (x : State) (owner : Owner) (reports : List Message) (after : State)
    (name : String) : Prop where
  reported : executionReports reports ≠ []
  carried : ∀ r ∈ executionReports reports, r.orderId = name
  entered : after.book.entries = x.book.entries ∨
    ∃ o : RestingOrder, o.orderId = name ∧ after.book.entries = x.book.entries ++ [⟨o, owner⟩]

section NewOrder

variable {x after : State} {m : Message} {owner : Owner} {reports : List Message} {event : Event}
  {name : String} {request : NewOrderSingle}

theorem Event.isNewOrder_of_reads (reads : MessageView.ofMessage m = .ok request) :
    (Event.message m owner).isNewOrder = true := by
  rw [isNewOrder, reads]
  rfl

theorem Event.exists_reads (brings : event.isNewOrder = true) :
    ∃ m owner, ∃ request : NewOrderSingle,
      event = .message m owner ∧ MessageView.ofMessage m = .ok request := by
  cases event with
  | message m owner =>
    rw [isNewOrder] at brings
    cases reads : (MessageView.ofMessage m : Except BuildFault NewOrderSingle) with
    | ok request => exact ⟨m, owner, request, rfl, reads⟩
    | error fault =>
      rw [reads] at brings
      cases brings
  | fill | logout => cases brings

theorem handles_newOrder (x : State) (owner : Owner) (reads : MessageView.ofMessage m = .ok request) :
    Handles x m owner (x.reports (.message m owner)) (x.step (.message m owner)) := by
  have typed := MessageView.msgType_of_ofMessage reads
  obtain ⟨reports, after, ends, handles⟩ := onNewOrder_of_reads x owner reads
  have answers : onMessage x m owner = .ok (.ok reports, after) := by
    rw [onMessage, typed]
    exact ends
  simp only [State.reports, State.step, answers]
  exact handles

/-- A new order takes the next number, and no other request takes one. -/
theorem Handles.numbers (sound : x.Sound) (handles : Handles x m owner reports after) :
    (∃ request : NewOrderSingle, MessageView.ofMessage m = .ok request) ∧
        after.ids.orders = x.ids.orders + 1 ∧
        GoesBy x owner reports after (IdCounters.orderId (x.ids.orders + 1)) ∨
      (∀ request : NewOrderSingle, MessageView.ofMessage m ≠ .ok request) ∧
        after.ids.orders = x.ids.orders := by
  -- What can be read as a request of one kind has its type, and so cannot be read as another.
  have other (typed : m.msgType ≠ .newOrderSingle) (request : NewOrderSingle) :
      MessageView.ofMessage m ≠ .ok request := fun reads =>
    typed (MessageView.msgType_of_ofMessage reads)
  cases handles with
  | @rejected request text reads =>
    refine .inl ⟨⟨request, reads⟩, rfl, by simp, ?_, .inl rfl⟩
    rw [executionReports_notice]
    exact List.forall_mem_singleton.mpr rfl
  | @accepted request leaves reads =>
    let new := x.incoming request
    have behind : (x.book.insert new owner).entries = x.book.entries ++ [⟨new, owner⟩] :=
      Book.entries_insert (sound.fresh request)
    refine .inl ⟨⟨request, reads⟩, rfl, by simp, ?_, .inr ⟨new, rfl, behind⟩⟩
    rw [executionReports_notice]
    exact List.forall_mem_singleton.mpr rfl
  | @filledAtOnce request leaves reads =>
    let filled := (x.incoming request).filledAtOnce
    have behind : (x.book.insert filled owner).entries = x.book.entries ++ [⟨filled, owner⟩] :=
      Book.entries_insert (sound.fresh request)
    refine .inl ⟨⟨request, reads⟩, rfl, by simp, ?_, .inr ⟨filled, rfl, behind⟩⟩
    rw [executionReports_notice, executionReports_notice]
    exact List.forall_mem_cons.mpr ⟨rfl, List.forall_mem_singleton.mpr rfl⟩
  | refused typed =>
    refine .inr ⟨other ?_, rfl⟩
    rcases typed with typed | typed <;> rw [typed] <;> decide
  | canceled reads =>
    refine .inr ⟨other ?_, rfl⟩
    rw [MessageView.msgType_of_ofMessage reads]
    decide
  | replaced reads =>
    refine .inr ⟨other ?_, rfl⟩
    rw [MessageView.msgType_of_ofMessage reads]
    decide

theorem orders_step_of_newOrder (sound : x.Sound) (owner : Owner)
    (reads : MessageView.ofMessage m = .ok request) :
    (x.step (.message m owner)).ids.orders = x.ids.orders + 1 ∧
      GoesBy x owner (x.reports (.message m owner)) (x.step (.message m owner))
        (IdCounters.orderId (x.ids.orders + 1)) := by
  obtain ⟨-, numbered⟩ | ⟨other, -⟩ := (handles_newOrder x owner reads).numbers sound
  · exact numbered
  · exact absurd reads (other request)

theorem orders_step_of_other (sound : x.Sound) (other : event.isNewOrder = false) :
    (x.step event).ids.orders = x.ids.orders := by
  have tells := tells_step sound.funded event
  generalize x.reports event = reports at tells
  generalize x.step event = after at tells ⊢
  cases tells with
  | silent | removed => rfl
  | handled handles =>
    -- A request that takes a number would have been a new order.
    obtain ⟨⟨request, reads⟩, -⟩ | ⟨-, kept⟩ := handles.numbers sound
    · rw [Event.isNewOrder_of_reads reads] at other
      cases other
    · exact kept
  | filled executes fills =>
    cases fills with
    | executed => rfl

/-- A new order is given the name it goes by. -/
theorem GoesBy.given? (goes : GoesBy x owner (x.reports event) after name)
    (brings : event.isNewOrder = true) : x.given? event = some name := by
  rw [State.given?, if_pos brings]
  obtain ⟨first, rest, made⟩ := List.exists_cons_of_ne_nil goes.reported
  have named := goes.carried first (made ▸ List.mem_cons_self ..)
  rw [made, List.head?_cons, Option.map_some, named]

/-- A step takes as many numbers for orders as it gives away: one if it is met with a new order. -/
theorem orders_step (sound : x.Sound) (event : Event) :
    (x.step event).ids.orders = x.ids.orders + [event].countP Event.isNewOrder ∧
      (x.given? event).toList =
        drawn IdCounters.orderId x.ids.orders ([event].countP Event.isNewOrder) := by
  cases kind : event.isNewOrder with
  | true =>
    obtain ⟨m, owner, request, rfl, reads⟩ := Event.exists_reads kind
    obtain ⟨taken, goes⟩ := orders_step_of_newOrder sound owner reads
    rw [List.countP_cons_of_pos kind, goes.given? kind]
    exact ⟨taken, rfl⟩
  | false =>
    rw [List.countP_cons_of_neg (by simp [kind]), State.given?, kind]
    exact ⟨orders_step_of_other sound kind, rfl⟩

end NewOrder

/-! ### Runs -/

/-- In a run the execution reports carry the names of the first numbers in order, as many as have
been taken, and so do the new orders. -/
structure Numbered (start : State) (events : List Event) : Prop where
  readable : ∀ report ∈ start.log events, Readable report
  execIds_eq :
    execIds (start.log events) = drawn IdCounters.execId 0 (start.run events).ids.executions
  orders_eq : (start.run events).ids.orders = events.countP Event.isNewOrder
  given_eq : start.given events = drawn IdCounters.orderId 0 (start.run events).ids.orders

namespace Numbered

variable {start : State} {events : List Event}

theorem step (sound : (start.run events).Sound) (numbered : Numbered start events) (event : Event) :
    Numbered start (events ++ [event]) := by
  have moved : start.run (events ++ [event]) = (start.run events).step event := by
    rw [State.run, List.foldl_append]
    rfl
  obtain ⟨count, takes⟩ := (tells_step sound.funded event).takes
  obtain ⟨taken, named⟩ := orders_step sound event
  constructor
  case readable =>
    rw [State.log_append_singleton]
    exact List.forall_mem_append.mpr ⟨numbered.readable, takes.readable⟩
  case execIds_eq =>
    -- What is taken now follows on what has been taken so far.
    rw [State.log_append_singleton, execIds_append, numbered.execIds_eq, takes.execIds_eq, moved,
      takes.executions_eq, IdCounters.drawn_add, Nat.zero_add]
  case orders_eq => rw [List.countP_append, ← numbered.orders_eq, moved, taken]
  case given_eq =>
    rw [State.given_append_singleton, numbered.given_eq, named, moved, taken, IdCounters.drawn_add,
      Nat.zero_add]

theorem reached (settings : Settings) (events : List Event) :
    Numbered (State.start settings) events := by
  induction events using List.reverseRecOn with
  | nil => exact ⟨fun _ none => (List.not_mem_nil none).elim, rfl, rfl, rfl⟩
  | append_singleton events event ih => exact ih.step (State.Sound.reached settings events) event

end Numbered

/-- After any run: everything the exchange has reported as an execution report can be read as one,
and no two reports have the same identifier. No two valid new orders have been given the same
identifier, and each has been given one. If one more valid new order comes, then it goes by an
identifier that no new order has been given and under which no order is found, so nothing in the book
is overwritten. -/
theorem identifiers_never_reused (settings : Settings) (events : List Event) :
    let x := State.reached settings events
    let log := (State.start settings).log events
    let given := (State.start settings).given events
    (∀ report ∈ log, Readable report) ∧ (execIds log).Nodup ∧
      given.Nodup ∧ given.length = events.countP Event.isNewOrder ∧
      ∀ m owner (request : NewOrderSingle), MessageView.ofMessage m = .ok request →
        ∃ name, x.given? (.message m owner) = some name ∧
          GoesBy x owner (x.reports (.message m owner)) (x.step (.message m owner)) name ∧
          name ∉ given ∧ x.book.find? name = none := by
  intro x log given
  have sound : x.Sound := State.Sound.reached settings events
  have numbered := Numbered.reached settings events
  -- Both lists are the first values of a counter, rendered without loss.
  have given_eq : given = drawn IdCounters.orderId 0 x.ids.orders := numbered.given_eq
  refine ⟨numbered.readable, ?_, ?_, ?_, ?_⟩
  · rw [numbered.execIds_eq]
    exact IdCounters.nodup_drawn IdCounters.execId_injective ..
  · rw [given_eq]
    exact IdCounters.nodup_drawn IdCounters.orderId_injective ..
  · rw [given_eq, IdCounters.length_drawn]
    exact numbered.orders_eq
  · intro m owner request reads
    obtain ⟨-, goes⟩ := orders_step_of_newOrder sound owner reads
    have named := goes.given? (Event.isNewOrder_of_reads reads)
    have fresh : x.book.Fresh (IdCounters.orderId (x.ids.orders + 1)) := sound.fresh request
    refine ⟨_, named, goes, ?_, ?_⟩
    · rw [given_eq]
      exact IdCounters.notMem_drawn IdCounters.orderId_injective (by omega)
    · rw [Book.find?, List.find?_eq_none]
      intro e member
      simpa using fresh e member

end FixBench.Exchange
