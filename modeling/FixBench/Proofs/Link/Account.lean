import Mathlib.Data.List.Induction
import FixBench.Proofs.Link.Letters

/-!
# Accounts of a router

An account is kept beside a router while it is in use. It has one letter for each dispatched message,
in the order of dispatch, with the place the message is in; it knows which waiters are still in the
hands of somebody, and what the calls that wait for messages have answered.

The account is true (`Faithful`): it lists what is in the backlog, in that order, what is in each
slot, and what each call has returned. This is kept by every operation. What it takes to keep it is
that waiters and slots are in order (`Tidy`): a waiter that is registered holds nothing yet, so it can
be handed a message, and a slot is never handed a second one.
-/
namespace FixBench.Delivery

/-- What is done to a router. Waiters are dropped, or waited for, by whoever has them; a wait that has
run out of time when a message is handed over is a waiter that is dropped. -/
inductive Event where
  | dispatch (m : Message)
  | expect (criteria : ReportMatch)
  | drop (waiterId : Nat)
  | wait (waiterId : Nat) (timeout : Duration)
  | next
  | close (reason : SessionFault)

structure Account where
  router : Router
  /-- Waiters that have been neither dropped nor waited for. -/
  live : List Waiter
  letters : List Letter
  /-- What has been answered to those who waited for a message, call by call. -/
  answers : List (Except SessionFault Message)

namespace Account

def start : Account := ⟨.empty, [], [], []⟩

/-- The place of a message that is dispatched. -/
def destination (a : Account) (m : Message) : Place :=
  match Router.takeFirst (fun w => w.criteria.suits m) a.router.waiters with
  | some (waiter, _) => .held waiter.id
  | none => .queued

/-- Ends a waiter that somebody has; its letter, if it holds one, goes to `target`. -/
def release (a : Account) (waiterId : Nat) (target : Place) (router : Router) : Account :=
  { a with
    router
    live := a.live.filter (·.id ≠ waiterId)
    letters := moveFirst (.held waiterId) (fun _ => true) target a.letters }

/-- Whoever is not live cannot be dropped or waited for, and a call that finds nothing goes on
waiting. -/
def step (a : Account) : Event → Account
  | .dispatch m =>
    { a with router := a.router.dispatch m, letters := a.letters ++ [⟨m, a.destination m⟩] }
  | .expect criteria =>
    let (waiter, router) := a.router.expect criteria
    { a with
      router
      live := a.live ++ [waiter]
      letters := moveFirst .queued criteria.suits (.held waiter.id) a.letters }
  | .drop waiterId =>
    match a.live.find? (·.id == waiterId) with
    | none => a
    | some waiter => a.release waiterId (.discarded waiterId) (a.router.withdraw waiter)
  | .wait waiterId timeout =>
    match a.live.find? (·.id == waiterId) with
    | none => a
    | some waiter =>
      let (answer, router) := a.router.finishWait waiter timeout
      { a.release waiterId (.returned a.answers.length) router with
        answers := a.answers ++ [answer] }
  | .next =>
    match a.router.next with
    | (none, _) => a
    | (some answer, router) =>
      { a with
        router
        answers := a.answers ++ [answer]
        letters := moveFirst .queued (fun _ => true) (.returned a.answers.length) a.letters }
  | .close reason => { a with router := a.router.close reason }

def after (events : List Event) : Account := events.foldl step start

/-- Waiters and slots are in order: identifiers grow, whoever is registered is live and holds
nothing, and a slot belongs to one live waiter. -/
structure Tidy (a : Account) : Prop where
  sorted : a.live.Pairwise (·.id < ·.id)
  below : ∀ w ∈ a.live, w.id < a.router.nextWaiterId
  registered : a.router.waiters.Sublist a.live
  single : (a.router.slots.map Slot.waiterId).Nodup
  holders : ∀ s ∈ a.router.slots, ∃ w ∈ a.live, w.id = s.waiterId
  waiting : ∀ s ∈ a.router.slots, ∀ w ∈ a.router.waiters, w.id ≠ s.waiterId

/-- The account tells the truth about the router and its callers. -/
structure Faithful (a : Account) : Prop where
  tidy : a.Tidy
  backlog : messagesIn .queued a.letters = a.router.backlog
  slots : ∀ waiterId, messagesIn (.held waiterId) a.letters = heldBy waiterId a.router.slots
  returned : ∀ call, messagesIn (.returned call) a.letters = returnedBy call a.answers
  discarded : ∀ letter ∈ a.letters, ∀ waiterId, letter.place = .discarded waiterId →
    waiterId < a.router.nextWaiterId ∧ ∀ w ∈ a.live, w.id ≠ waiterId

variable {a : Account}

/-! ### Operations -/

theorem step_dispatch_held {m : Message} {w : Waiter}
    (found : a.router.waiters.find? (fun w => w.criteria.suits m) = some w) :
    a.step (.dispatch m) =
      { a with
        router := { a.router with
          waiters := a.router.waiters.eraseP fun w => w.criteria.suits m
          slots := a.router.slots ++ [⟨w.id, m⟩] }
        letters := a.letters ++ [⟨m, .held w.id⟩] } := by
  simp only [step, destination, Router.dispatch, takeFirst_eq, found]
  rfl

theorem step_dispatch_queued {m : Message}
    (unsuited : a.router.waiters.find? (fun w => w.criteria.suits m) = none) :
    a.step (.dispatch m) =
      { a with
        router := { a.router with backlog := a.router.backlog ++ [m] }
        letters := a.letters ++ [⟨m, .queued⟩] } := by
  simp only [step, destination, Router.dispatch, takeFirst_eq, unsuited]
  rfl

theorem step_expect_held {criteria : ReportMatch} {m : Message}
    (found : a.router.backlog.find? criteria.suits = some m) :
    a.step (.expect criteria) =
      { a with
        router := { a.router with
          nextWaiterId := a.router.nextWaiterId + 1
          backlog := a.router.backlog.eraseP criteria.suits
          slots := a.router.slots ++ [⟨a.router.nextWaiterId, m⟩] }
        live := a.live ++ [⟨a.router.nextWaiterId, criteria⟩]
        letters := moveFirst .queued criteria.suits (.held a.router.nextWaiterId) a.letters } := by
  simp only [step, Router.expect, takeFirst_eq, found]
  rfl

theorem step_expect_registered {criteria : ReportMatch}
    (unsuited : a.router.backlog.find? criteria.suits = none) :
    a.step (.expect criteria) =
      { a with
        router := { a.router with
          nextWaiterId := a.router.nextWaiterId + 1
          waiters := a.router.waiters ++
            if a.router.closed.isSome then [] else [⟨a.router.nextWaiterId, criteria⟩] }
        live := a.live ++ [⟨a.router.nextWaiterId, criteria⟩]
        letters := moveFirst .queued criteria.suits (.held a.router.nextWaiterId) a.letters } := by
  simp only [step, Router.expect, takeFirst_eq, unsuited, Option.map_none]
  split <;> simp

theorem step_next_queued {m : Message} {rest : List Message}
    (backlog : a.router.backlog = m :: rest) :
    a.step .next =
      { a with
        router := { a.router with backlog := rest }
        answers := a.answers ++ [.ok m]
        letters := moveFirst .queued (fun _ => true) (.returned a.answers.length) a.letters } := by
  simp only [step, Router.next, backlog]

theorem step_next_empty (backlog : a.router.backlog = []) :
    a.step .next =
      match a.router.closed with
      | none => a
      | some reason =>
        { a with
          answers := a.answers ++ [.error reason]
          letters := moveFirst .queued (fun _ => true) (.returned a.answers.length) a.letters } := by
  simp only [step, Router.next, backlog]
  cases a.router.closed <;> rfl

/-! ### Waiters and slots -/

/-- Nobody has had the next identifier. -/
theorem Tidy.ne_next (tidy : a.Tidy) : ∀ s ∈ a.router.slots, s.waiterId ≠ a.router.nextWaiterId := by
  intro s member
  obtain ⟨w, live, same⟩ := tidy.holders s member
  rw [← same]
  exact Nat.ne_of_lt (tidy.below w live)

theorem Tidy.heldBy_next (tidy : a.Tidy) : heldBy a.router.nextWaiterId a.router.slots = [] := by
  rw [heldBy, List.filter_eq_nil_iff.mpr, List.map_nil]
  intro s member same
  exact tidy.ne_next s member (of_decide_eq_true same)

theorem Tidy.dispatch (tidy : a.Tidy) (m : Message) : (a.step (.dispatch m)).Tidy := by
  cases found : a.router.waiters.find? fun w => w.criteria.suits m with
  | none =>
    rw [step_dispatch_queued found]
    exact ⟨tidy.sorted, tidy.below, tidy.registered, tidy.single, tidy.holders, tidy.waiting⟩
  | some w =>
    have there := List.mem_of_find?_eq_some found
    obtain ⟨-, apart⟩ := oldest_of_find? (tidy.sorted.sublist tidy.registered) found
    rw [step_dispatch_held found]
    -- The waiter is no longer registered once it has its slot, so the slot stays its only one.
    refine ⟨tidy.sorted, tidy.below, List.eraseP_sublist.trans tidy.registered,
      nodup_append_slot tidy.single fun s member => (tidy.waiting s member w there).symm, ?_, ?_⟩
    · intro s member
      obtain old | last := List.mem_append.mp member
      · exact tidy.holders s old
      · rw [List.mem_singleton.mp last]
        exact ⟨w, tidy.registered.subset there, rfl⟩
    · intro s member v remains
      obtain old | last := List.mem_append.mp member
      · exact tidy.waiting s old v (List.mem_of_mem_eraseP remains)
      · rw [List.mem_singleton.mp last]
        exact apart v remains

theorem Tidy.expect (tidy : a.Tidy) (criteria : ReportMatch) :
    (a.step (.expect criteria)).Tidy := by
  have joined : (a.live ++ [(⟨a.router.nextWaiterId, criteria⟩ : Waiter)]).Pairwise
      (·.id < ·.id) := by
    rw [List.pairwise_append]
    refine ⟨tidy.sorted, List.pairwise_singleton _ _, fun w member v last => ?_⟩
    rw [List.mem_singleton.mp last]
    exact tidy.below w member
  have below : ∀ w ∈ a.live ++ [⟨a.router.nextWaiterId, criteria⟩],
      w.id < a.router.nextWaiterId + 1 := by
    intro w member
    obtain old | last := List.mem_append.mp member
    · exact Nat.lt_succ_of_lt (tidy.below w old)
    · rw [List.mem_singleton.mp last]
      exact Nat.lt_succ_self _
  have holders : ∀ s ∈ a.router.slots,
      ∃ w ∈ a.live ++ [⟨a.router.nextWaiterId, criteria⟩], w.id = s.waiterId := by
    intro s member
    obtain ⟨w, live, same⟩ := tidy.holders s member
    exact ⟨w, List.mem_append_left _ live, same⟩
  -- The new waiter is either put last among the registered ones or holds the letter at once; that
  -- its identifier is the next one keeps it apart from all others in both cases.
  cases found : a.router.backlog.find? criteria.suits with
  | none =>
    rw [step_expect_registered found]
    refine ⟨joined, below, tidy.registered.append ?_, tidy.single, holders, ?_⟩
    · split
      · exact List.nil_sublist _
      · exact List.Sublist.refl _
    · intro s member w waits
      obtain old | last := List.mem_append.mp waits
      · exact tidy.waiting s member w old
      · split at last
        · cases last
        · rw [List.mem_singleton.mp last]
          exact (tidy.ne_next s member).symm
  | some m =>
    rw [step_expect_held found]
    refine ⟨joined, below, tidy.registered.trans (List.sublist_append_left _ _),
      nodup_append_slot tidy.single tidy.ne_next, ?_, ?_⟩
    · intro s member
      obtain old | last := List.mem_append.mp member
      · exact holders s old
      · rw [List.mem_singleton.mp last]
        exact ⟨_, List.mem_append_right _ List.mem_cons_self, rfl⟩
    · intro s member w waits
      obtain old | last := List.mem_append.mp member
      · exact tidy.waiting s old w waits
      · rw [List.mem_singleton.mp last]
        exact Nat.ne_of_lt (tidy.below w (tidy.registered.subset waits))

theorem Tidy.release (tidy : a.Tidy) (waiter : Waiter) (target : Place) :
    (a.release waiter.id target (a.router.withdraw waiter)).Tidy where
  sorted := tidy.sorted.filter _
  below w member := tidy.below w (List.mem_of_mem_filter member)
  registered := tidy.registered.filter _
  single := tidy.single.sublist (List.filter_sublist.map _)
  holders s member := by
    obtain ⟨member, other⟩ := List.mem_filter.mp member
    obtain ⟨w, live, same⟩ := tidy.holders s member
    rw [← same] at other
    exact ⟨w, List.mem_filter.mpr ⟨live, other⟩, same⟩
  waiting s member w waits :=
    tidy.waiting s (List.mem_of_mem_filter member) w (List.mem_of_mem_filter waits)

/-! ### Letters and places -/

theorem Faithful.dispatch (faithful : a.Faithful) (m : Message) :
    (a.step (.dispatch m)).Faithful := by
  have tidy := faithful.tidy.dispatch m
  cases found : a.router.waiters.find? fun w => w.criteria.suits m with
  | none =>
    -- Nobody waits for it: the letter joins the backlog and no other heap.
    rw [step_dispatch_queued found] at tidy ⊢
    refine ⟨tidy, ?_, fun waiterId => ?_, fun call => ?_, fun letter member => ?_⟩
    · rw [messagesIn_append_singleton, faithful.backlog, if_pos rfl]
    · rw [messagesIn_append_singleton, faithful.slots, if_neg (by simp), List.append_nil]
    · rw [messagesIn_append_singleton, faithful.returned, if_neg (by simp), List.append_nil]
    · obtain old | last := List.mem_append.mp member
      · exact faithful.discarded letter old
      · rw [List.mem_singleton.mp last]
        exact fun _ elsewhere => by cases elsewhere
  | some w =>
    -- The oldest suitable waiter holds it.
    rw [step_dispatch_held found] at tidy ⊢
    refine ⟨tidy, ?_, fun waiterId => ?_, fun call => ?_, fun letter member => ?_⟩
    · rw [messagesIn_append_singleton, faithful.backlog, if_neg (by simp), List.append_nil]
    · rw [messagesIn_append_singleton, faithful.slots, heldBy_append]
      simp
    · rw [messagesIn_append_singleton, faithful.returned, if_neg (by simp), List.append_nil]
    · obtain old | last := List.mem_append.mp member
      · exact faithful.discarded letter old
      · rw [List.mem_singleton.mp last]
        exact fun _ elsewhere => by cases elsewhere

/-- A move that discards nothing leaves what has been discarded. -/
theorem Faithful.discarded_moveFirst (faithful : a.Faithful) {source target : Place}
    (p : Message → Bool) (kept : ∀ waiterId, target ≠ .discarded waiterId) :
    ∀ letter ∈ moveFirst source p target a.letters, ∀ waiterId,
      letter.place = .discarded waiterId →
        waiterId < a.router.nextWaiterId ∧ ∀ w ∈ a.live, w.id ≠ waiterId := by
  intro letter member waiterId gone
  obtain ⟨former, there, same⟩ | moved := mem_moveFirst _ _ member
  · exact faithful.discarded former there waiterId (same ▸ gone)
  · exact absurd (moved.symm.trans gone) (kept waiterId)

theorem Faithful.expect (faithful : a.Faithful) (criteria : ReportMatch) :
    (a.step (.expect criteria)).Faithful := by
  have tidy := faithful.tidy.expect criteria
  -- The identifier has never been given out, so nothing is in its place yet.
  have empty := (faithful.slots a.router.nextWaiterId).trans faithful.tidy.heldBy_next
  have source := messagesIn_moveFirst_source criteria.suits a.letters
    (show Place.queued ≠ .held a.router.nextWaiterId by simp)
  have target : messagesIn (.held a.router.nextWaiterId)
      (moveFirst .queued criteria.suits (.held a.router.nextWaiterId) a.letters) =
        ((messagesIn .queued a.letters).find? criteria.suits).toList :=
    messagesIn_moveFirst_target _ _ empty
  rw [faithful.backlog] at source target
  have held (waiterId : Nat) (other : waiterId ≠ a.router.nextWaiterId) :
      messagesIn (.held waiterId)
        (moveFirst .queued criteria.suits (.held a.router.nextWaiterId) a.letters) =
          heldBy waiterId a.router.slots := by
    rw [messagesIn_moveFirst_other _ _ (by simp) (by simpa using other), faithful.slots]
  have returned (call : Nat) :
      messagesIn (.returned call)
        (moveFirst .queued criteria.suits (.held a.router.nextWaiterId) a.letters) =
          returnedBy call a.answers := by
    rw [messagesIn_moveFirst_other _ _ (by simp) (by simp), faithful.returned]
  have discarded : ∀ letter ∈ moveFirst .queued criteria.suits (.held a.router.nextWaiterId) a.letters,
      ∀ waiterId, letter.place = .discarded waiterId → waiterId < a.router.nextWaiterId + 1 ∧
        ∀ w ∈ a.live ++ [(⟨a.router.nextWaiterId, criteria⟩ : Waiter)], w.id ≠ waiterId := by
    intro letter member waiterId gone
    obtain ⟨earlier, dead⟩ :=
      faithful.discarded_moveFirst _ (by simp) letter member waiterId gone
    refine ⟨Nat.lt_succ_of_lt earlier, fun w live => ?_⟩
    obtain old | last := List.mem_append.mp live
    · exact dead w old
    · rw [List.mem_singleton.mp last]
      exact Nat.ne_of_gt earlier
  cases found : a.router.backlog.find? criteria.suits with
  | none =>
    rw [step_expect_registered found] at tidy ⊢
    refine ⟨tidy, ?_, fun waiterId => ?_, returned, discarded⟩
    · rw [source, List.eraseP_of_forall_not]
      intro m member
      exact List.find?_eq_none.mp found m member
    · by_cases new : waiterId = a.router.nextWaiterId
      · rw [new, target, found]
        exact faithful.tidy.heldBy_next.symm
      · exact held waiterId new
  | some m =>
    rw [step_expect_held found] at tidy ⊢
    refine ⟨tidy, source, fun waiterId => ?_, returned, discarded⟩
    rw [heldBy_append]
    by_cases new : waiterId = a.router.nextWaiterId
    · rw [new, target, found, faithful.tidy.heldBy_next, if_pos rfl]
      rfl
    · rw [held waiterId new, if_neg (Ne.symm new), List.append_nil]

/-- Ending a waiter empties its slot, if it has one, and moves the letter to where the waiter's
message has gone. -/
theorem Faithful.release (faithful : a.Faithful) (waiter : Waiter) (target : Place)
    (notQueued : target ≠ .queued) (notHeld : ∀ waiterId, target ≠ .held waiterId) :
    messagesIn .queued (a.release waiter.id target (a.router.withdraw waiter)).letters =
        a.router.backlog ∧
      (∀ waiterId, messagesIn (.held waiterId)
          (a.release waiter.id target (a.router.withdraw waiter)).letters =
        heldBy waiterId (a.router.withdraw waiter).slots) ∧
      (messagesIn target a.letters = [] →
        messagesIn target (a.release waiter.id target (a.router.withdraw waiter)).letters =
          (a.router.held? waiter).toList) := by
  have single := heldBy_eq faithful.tidy.single waiter.id
  refine ⟨?_, fun waiterId => ?_, fun empty => ?_⟩
  · show messagesIn .queued (moveFirst _ _ _ _) = _
    rw [messagesIn_moveFirst_other _ _ (by simp) notQueued.symm, faithful.backlog]
  · show messagesIn _ (moveFirst _ _ _ _) = heldBy waiterId (a.router.slots.filter _)
    rw [heldBy_withdraw]
    split
    · rename_i same
      -- A waiter has one slot at most, so taking its first letter leaves it nothing.
      rw [same, messagesIn_moveFirst_source _ _ (notHeld _).symm, faithful.slots, single]
      cases a.router.slots.find? (·.waiterId == waiter.id) <;> simp
    · rename_i other
      rw [messagesIn_moveFirst_other _ _ (by simpa using other) (notHeld _).symm, faithful.slots]
  · show messagesIn _ (moveFirst _ _ _ _) = _
    rw [messagesIn_moveFirst_target _ _ empty, faithful.slots, single, Router.held?]
    cases a.router.slots.find? (·.waiterId == waiter.id) <;> simp

theorem Faithful.drop (faithful : a.Faithful) (waiterId : Nat) :
    (a.step (.drop waiterId)).Faithful := by
  rw [step]
  split
  · exact faithful
  · rename_i waiter found
    have live := List.mem_of_find?_eq_some found
    have same : waiter.id = waiterId := by simpa using List.find?_some found
    subst same
    obtain ⟨backlog, slots, -⟩ := faithful.release waiter (.discarded waiter.id) (by simp)
      (by simp)
    refine ⟨faithful.tidy.release waiter _, backlog, slots, fun call => ?_, ?_⟩
    · show messagesIn _ (moveFirst _ _ _ _) = _
      rw [messagesIn_moveFirst_other _ _ (by simp) (by simp)]
      exact faithful.returned call
    · intro letter member waiterId gone
      obtain ⟨former, there, same⟩ | moved := mem_moveFirst _ _ member
      · obtain ⟨earlier, dead⟩ := faithful.discarded former there waiterId (same ▸ gone)
        exact ⟨earlier, fun w remains => dead w (List.mem_of_mem_filter remains)⟩
      · rw [gone] at moved
        cases moved
        -- The letter goes down with a waiter that was live until now and is not any more.
        refine ⟨faithful.tidy.below waiter live, fun w remains => ?_⟩
        simpa using (List.mem_filter.mp remains).2

theorem Faithful.wait (faithful : a.Faithful) (waiterId : Nat) (timeout : Duration) :
    (a.step (.wait waiterId timeout)).Faithful := by
  rw [step]
  split
  · exact faithful
  · rename_i waiter found
    have same : waiter.id = waiterId := by simpa using List.find?_some found
    subst same
    obtain ⟨backlog, slots, returned⟩ :=
      faithful.release waiter (.returned a.answers.length) (by simp) (by simp)
    -- No call has this number yet, so what is filed under it afterwards is what this call returns.
    have empty := (faithful.returned a.answers.length).trans (returnedBy_next a.answers)
    have answered : (a.router.finishWait waiter timeout).1.toOption.toList =
        (a.router.held? waiter).toList := by
      rw [Router.finishWait]
      cases a.router.held? waiter with
      | none => cases a.router.isWaiting waiter <;> rfl
      | some m => rfl
    have tidy := faithful.tidy.release waiter (.returned a.answers.length)
    refine ⟨⟨tidy.sorted, tidy.below, tidy.registered, tidy.single, tidy.holders, tidy.waiting⟩,
      backlog, slots, fun call => ?_, ?_⟩
    · show _ = returnedBy call (a.answers ++ [(a.router.finishWait waiter timeout).1])
      rw [returnedBy_append]
      by_cases last : call = a.answers.length
      · rw [if_pos last, last, answered]
        exact returned empty
      · rw [if_neg last]
        show messagesIn _ (moveFirst _ _ _ _) = _
        rw [messagesIn_moveFirst_other _ _ (by simp) (by simpa using last)]
        exact faithful.returned call
    · intro letter member waiterId gone
      obtain ⟨earlier, dead⟩ :=
        faithful.discarded_moveFirst _ (by simp) letter member waiterId gone
      exact ⟨earlier, fun w remains => dead w (List.mem_of_mem_filter remains)⟩

/-- A call takes the head of the backlog, or answers without a message if there is none. -/
theorem Faithful.receive (faithful : a.Faithful) (rest : List Message)
    {answer : Except SessionFault Message}
    (remains : a.router.backlog.eraseP (fun _ => true) = rest)
    (answers : a.router.backlog.find? (fun _ => true) = answer.toOption) :
    Faithful { a with
      router := { a.router with backlog := rest }
      answers := a.answers ++ [answer]
      letters := moveFirst .queued (fun _ => true) (.returned a.answers.length) a.letters } where
  tidy :=
    have tidy := faithful.tidy
    ⟨tidy.sorted, tidy.below, tidy.registered, tidy.single, tidy.holders, tidy.waiting⟩
  backlog := by
    rw [messagesIn_moveFirst_source _ _ (by simp), faithful.backlog, remains]
  slots waiterId := by
    rw [messagesIn_moveFirst_other _ _ (by simp) (by simp), faithful.slots]
  returned call := by
    rw [returnedBy_append]
    by_cases last : call = a.answers.length
    · have empty := (faithful.returned a.answers.length).trans (returnedBy_next a.answers)
      rw [if_pos last, last, messagesIn_moveFirst_target _ _ empty, faithful.backlog, answers]
    · rw [if_neg last, messagesIn_moveFirst_other _ _ (by simp) (by simpa using last),
        faithful.returned]
  discarded := faithful.discarded_moveFirst _ (by simp)

theorem Faithful.next (faithful : a.Faithful) : (a.step .next).Faithful := by
  cases backlog : a.router.backlog with
  | cons m rest =>
    rw [step_next_queued backlog]
    exact faithful.receive rest (by simp [backlog]) (by rw [backlog]; rfl)
  | nil =>
    rw [step_next_empty backlog]
    cases a.router.closed with
    | none => exact faithful
    | some reason =>
      exact faithful.receive a.router.backlog (by simp [backlog]) (by rw [backlog]; rfl)

theorem Faithful.close (faithful : a.Faithful) (reason : SessionFault) :
    (a.step (.close reason)).Faithful where
  tidy :=
    { faithful.tidy with
      registered := List.nil_sublist _
      waiting := fun _ _ _ none => by cases none }
  -- Those who are sent away are registered and hold nothing; backlog and slots are left alone.
  backlog := faithful.backlog
  slots := faithful.slots
  returned := faithful.returned
  discarded := faithful.discarded

theorem Faithful.step (faithful : a.Faithful) (event : Event) : (a.step event).Faithful := by
  cases event with
  | dispatch m => exact faithful.dispatch m
  | expect criteria => exact faithful.expect criteria
  | drop waiterId => exact faithful.drop waiterId
  | wait waiterId timeout => exact faithful.wait waiterId timeout
  | next => exact faithful.next
  | close reason => exact faithful.close reason

theorem Faithful.start : start.Faithful where
  tidy := ⟨.nil, by simp [Account.start], .refl _, by simp [Account.start, Router.empty],
    by simp [Account.start, Router.empty], by simp [Account.start, Router.empty]⟩
  backlog := rfl
  slots _ := rfl
  returned _ := rfl
  discarded _ none := by cases none

theorem Faithful.after (events : List Event) : (after events).Faithful := by
  induction events using List.reverseRecOn with
  | nil => exact Faithful.start
  | append_singleton events event ih =>
    rw [Account.after, List.foldl_append]
    exact ih.step event

end Account

end FixBench.Delivery
