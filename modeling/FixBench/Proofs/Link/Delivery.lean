import FixBench.Proofs.Link.Account

/-!
# Messages are delivered once and in order

A message that has been dispatched is in the backlog, or it lies in the slot of one live waiter, or it
has been returned to one caller, or it went down with a waiter that was dropped with the message
unread. The backlog is in the order of dispatch. A message goes to the oldest registered waiter it
suits, and a new waiter takes the earliest message of the backlog that suits it.

That the account of a router tells all this truthfully is an invariant of every run. What is left to
say is which way each operation moves a letter.
-/
namespace FixBench.Delivery.Account

variable {a : Account}

/-- A dispatched message goes to the oldest registered waiter it suits, or else into the backlog. -/
def HandsToOldest (a : Account) (m : Message) : Prop :=
  (∃ w ∈ a.router.waiters, w.criteria.suits m = true ∧
      (∀ v ∈ a.router.waiters, v.criteria.suits m = true → w.id ≤ v.id) ∧
      (a.step (.dispatch m)).letters = a.letters ++ [⟨m, .held w.id⟩]) ∨
    (∀ w ∈ a.router.waiters, w.criteria.suits m = false) ∧
      (a.step (.dispatch m)).letters = a.letters ++ [⟨m, .queued⟩]

/-- A new waiter is handed the earliest message of the backlog that suits it, if there is one. -/
def HandsEarliest (a : Account) (criteria : ReportMatch) : Prop :=
  (∃ front letter rest, a.letters = front ++ letter :: rest ∧ letter.place = .queued ∧
      criteria.suits letter.message = true ∧
      (∀ earlier ∈ front, earlier.place = .queued → criteria.suits earlier.message = false) ∧
      (a.step (.expect criteria)).letters =
        front ++ { letter with place := .held a.router.nextWaiterId } :: rest) ∨
    (∀ letter ∈ a.letters, letter.place = .queued → criteria.suits letter.message = false) ∧
      (a.step (.expect criteria)).letters = a.letters

/-- The ways from one place to another: from the backlog to a new waiter or to a caller, from a
waiter to the caller who waits with it, and down with a waiter that is dropped. -/
inductive Passes (a : Account) : Event → Place → Place → Prop where
  | stays {event : Event} {place : Place} : Passes a event place place
  | handed {criteria : ReportMatch} :
      Passes a (.expect criteria) .queued (.held a.router.nextWaiterId)
  | received : Passes a .next .queued (.returned a.answers.length)
  | taken {waiterId : Nat} {timeout : Duration} :
      Passes a (.wait waiterId timeout) (.held waiterId) (.returned a.answers.length)
  | dropped {waiterId : Nat} :
      Passes a (.drop waiterId) (.held waiterId) (.discarded waiterId)

/-- An event leaves every letter where it is or moves it by one of these ways. -/
def MovesOn (a : Account) (event : Event) : Prop :=
  ∀ (i : Nat) (letter : Letter), a.letters[i]? = some letter →
    ∃ place, (a.step event).letters[i]? = some { letter with place } ∧
      a.Passes event letter.place place

theorem Tidy.handsToOldest (tidy : a.Tidy) (m : Message) : a.HandsToOldest m := by
  cases found : a.router.waiters.find? fun w => w.criteria.suits m with
  | none =>
    refine .inr ⟨fun w member => ?_, by rw [step_dispatch_queued found]⟩
    rw [← Bool.not_eq_true]
    exact List.find?_eq_none.mp found w member
  | some w =>
    obtain ⟨oldest, -⟩ := oldest_of_find? (tidy.sorted.sublist tidy.registered) found
    have suits : w.criteria.suits m = true := by simpa using List.find?_some found
    exact .inl ⟨w, List.mem_of_find?_eq_some found, suits, oldest, by rw [step_dispatch_held found]⟩

theorem letters_expect (a : Account) (criteria : ReportMatch) :
    (a.step (.expect criteria)).letters =
      moveFirst .queued criteria.suits (.held a.router.nextWaiterId) a.letters := by
  cases found : a.router.backlog.find? criteria.suits with
  | none => rw [step_expect_registered found]
  | some m => rw [step_expect_held found]

theorem handsEarliest (a : Account) (criteria : ReportMatch) : a.HandsEarliest criteria := by
  rw [HandsEarliest, letters_expect]
  exact moveFirst_cases criteria.suits a.letters

theorem movesOn (a : Account) (event : Event) : a.MovesOn event := by
  intro i letter here
  have still : ∃ place, a.letters[i]? = some { letter with place } ∧
      a.Passes event letter.place place := ⟨letter.place, here, .stays⟩
  cases event with
  | dispatch m =>
    refine ⟨letter.place, ?_, .stays⟩
    have within := (List.getElem?_eq_some_iff.mp here).1
    show (a.letters ++ [_])[i]? = _
    rw [List.getElem?_append_left within]
    exact here
  | expect criteria =>
    rw [letters_expect]
    obtain ⟨place, there, rfl | ⟨queued, rfl⟩⟩ := getElem?_moveFirst criteria.suits a.letters here
    · exact ⟨_, there, .stays⟩
    · exact ⟨_, there, queued ▸ .handed⟩
  | drop waiterId =>
    rw [step]
    split
    · exact still
    · obtain ⟨place, there, rfl | ⟨held, rfl⟩⟩ := getElem?_moveFirst (fun _ => true) a.letters here
      · exact ⟨_, there, .stays⟩
      · exact ⟨_, there, held ▸ .dropped⟩
  | wait waiterId timeout =>
    rw [step]
    split
    · exact still
    · obtain ⟨place, there, rfl | ⟨held, rfl⟩⟩ := getElem?_moveFirst (fun _ => true) a.letters here
      · exact ⟨_, there, .stays⟩
      · exact ⟨_, there, held ▸ .taken⟩
  | next =>
    obtain ⟨place, there, moved⟩ :
        ∃ place, (moveFirst .queued (fun _ => true) (.returned a.answers.length) a.letters)[i]? =
            some { letter with place } ∧
          (place = letter.place ∨ letter.place = .queued ∧ place = .returned a.answers.length) :=
      getElem?_moveFirst (fun _ => true) a.letters here
    have passes : a.Passes .next letter.place place := by
      obtain rfl | ⟨queued, rfl⟩ := moved
      · exact .stays
      · exact queued ▸ .received
    cases backlog : a.router.backlog with
    | cons m rest =>
      rw [step_next_queued backlog]
      exact ⟨place, there, passes⟩
    | nil =>
      rw [step_next_empty backlog]
      -- As long as the router is open, a call on an empty backlog goes on waiting.
      cases a.router.closed with
      | none => exact still
      | some reason => exact ⟨place, there, passes⟩
  | close reason => exact still

/-- The messages that have been dispatched. -/
def dispatched (events : List Event) : List Message :=
  events.filterMap fun
    | .dispatch m => some m
    | _ => none

theorem messages_step (a : Account) (event : Event) :
    (a.step event).letters.map Letter.message =
      a.letters.map Letter.message ++ dispatched [event] := by
  cases event with
  | dispatch m => simp [step, dispatched]
  | expect criteria => simp [letters_expect, map_message_moveFirst, dispatched]
  | drop waiterId =>
    rw [step]
    split <;> simp [release, map_message_moveFirst, dispatched]
  | wait waiterId timeout =>
    rw [step]
    split <;> simp [release, map_message_moveFirst, dispatched]
  | next =>
    rw [step]
    split <;> simp [map_message_moveFirst, dispatched]
  | close reason => simp [step, dispatched]

theorem messages_after (events : List Event) :
    (after events).letters.map Letter.message = dispatched events := by
  induction events using List.reverseRecOn with
  | nil => rfl
  | append_singleton events event ih =>
    rw [after, List.foldl_append, dispatched, List.filterMap_append]
    show ((after events).step event).letters.map Letter.message = _
    rw [messages_step, ih]
    rfl

/-- Whatever is done to a router, there is one letter for each dispatched message, in the order of
dispatch, and the account of where they are is true: the backlog is what is queued, in that order,
each slot belongs to one live waiter and has what that waiter holds, and each call has returned what
it is said to have. Dispatching hands the message to the oldest waiter it suits, a new waiter is
handed the earliest message that suits, and no letter ever goes another way. -/
theorem router_delivers_once (events : List Event) :
    (after events).letters.map Letter.message = dispatched events ∧
      (after events).Faithful ∧
      (∀ m, (after events).HandsToOldest m) ∧
      (∀ criteria, (after events).HandsEarliest criteria) ∧
      ∀ event, (after events).MovesOn event :=
  have faithful := Faithful.after events
  ⟨messages_after events, faithful, faithful.tidy.handsToOldest, handsEarliest _, movesOn _⟩

/-- A report on the order that goes by this identifier. -/
def reportOn (clOrdId : String) : Message :=
  .mk "FIX.4.4" [⟨Tag.msgType, "8"⟩, ⟨Tag.clOrdId, clOrdId⟩] none

/-- Two wait for one order, and later a third for another. The first takes its report; the third finds its
own in the backlog, behind one nobody has asked for, and is dropped; the second holds a report
unread. -/
def fourReports : List Event :=
  [.expect ⟨"A", none⟩, .expect ⟨"A", none⟩, .dispatch (reportOn "A"), .dispatch (reportOn "B"),
    .dispatch (reportOn "C"), .expect ⟨"C", none⟩, .dispatch (reportOn "A"),
    .wait 0 (.ofSeconds 1), .drop 2]

/-- In the end there is one report in each of the four places. -/
theorem router_delivers_once_four_reports :
    (after fourReports).letters =
        [⟨reportOn "A", .returned 0⟩, ⟨reportOn "B", .queued⟩, ⟨reportOn "C", .discarded 2⟩,
          ⟨reportOn "A", .held 1⟩] ∧
      returnedBy 0 (after fourReports).answers = [reportOn "A"] ∧
      (after fourReports).router.backlog = [reportOn "B"] ∧
      (∀ w ∈ (after fourReports).live, w.id ≠ 2) ∧
      heldBy 1 (after fourReports).router.slots = [reportOn "A"] := by
  obtain ⟨-, faithful, -⟩ := router_delivers_once fourReports
  have letters : (after fourReports).letters =
      [⟨reportOn "A", .returned 0⟩, ⟨reportOn "B", .queued⟩, ⟨reportOn "C", .discarded 2⟩,
        ⟨reportOn "A", .held 1⟩] := by
    decide +kernel
  obtain ⟨-, backlog, slots, returned, discarded⟩ := faithful
  rw [letters] at backlog slots returned discarded
  obtain ⟨-, gone⟩ := discarded ⟨reportOn "C", .discarded 2⟩ (by simp) 2 rfl
  exact ⟨letters, (returned 0).symm, backlog.symm, gone, (slots 1).symm⟩

end FixBench.Delivery.Account
