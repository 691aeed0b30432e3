import Mathlib.Data.List.Induction
import FixBench.Proofs.Link.Letters

/-!
# Registrations

Whoever waits for a message is registered with the router, and nobody may wait for a message that is
there already. Dispatching sees to one half of that and registering to the other: a message is queued
only if it suits nobody who is registered, and a waiter is registered only if nothing in the queue
suits it. Each half relies on the other, and on every other operation only taking away
(`registrations_sound`).

A waiter may stop listening while it is still registered. A message handed to it then comes back and
is offered to the next; `dispatchTo` dispatches with that in view. As long as everybody listens it is
the dispatching of the router (`dispatchTo_eq`).

Once a router is closed nobody is registered any more, so every wait comes to its end, and all who
still get no message are told the reason it was closed for first.
-/
namespace FixBench

/-! ### Waiters that do not listen -/

namespace Router

variable {r : Router} {listens : Waiter → Bool} {m : Message}

theorem takeFirst_eq_some {α : Type} {p : α → Bool} {l others : List α} {a : α}
    (takes : takeFirst p l = some (a, others)) :
    ∃ front rest, l = front ++ a :: rest ∧ others = front ++ rest ∧ p a = true := by
  rw [Delivery.takeFirst_eq, Option.map_eq_some_iff] at takes
  obtain ⟨found, first, made⟩ := takes
  cases made
  obtain ⟨front, rest, rfl, refused⟩ := List.find?_eq_some_iff_append.mp first |>.2
  refine ⟨front, rest, rfl, ?_, List.find?_some first⟩
  rw [List.eraseP_append_right _ fun b member => by simpa using refused b member,
    List.eraseP_cons_of_pos (List.find?_some first)]

/-- Taking leaves all but the one that is taken. -/
theorem sublist_of_takeFirst {α : Type} {p : α → Bool} {l others : List α} {a : α}
    (takes : takeFirst p l = some (a, others)) :
    others.Sublist l ∧ ∀ b ∈ l, b ∈ others ∨ b = a := by
  obtain ⟨front, rest, rfl, rfl, -⟩ := takeFirst_eq_some takes
  refine ⟨(List.Sublist.refl front).append (List.sublist_cons_self a rest), fun b member => ?_⟩
  rw [List.mem_append, List.mem_cons] at member
  rw [List.mem_append]
  obtain before | rfl | behind := member
  · exact .inl (.inl before)
  · exact .inr rfl
  · exact .inl (.inr behind)

theorem takeFirst_eq_none {α : Type} {p : α → Bool} {l : List α} (none : takeFirst p l = none) :
    ∀ a ∈ l, p a = false := by
  rw [Delivery.takeFirst_eq, Option.map_eq_none_iff, List.find?_eq_none] at none
  intro a member
  rw [← Bool.not_eq_true]
  exact none a member

/-- Hands a message to the oldest waiter it suits. One that does not listen any more is struck off,
and the message goes on to the next. -/
def dispatchTo (listens : Waiter → Bool) (r : Router) (m : Message) : Router :=
  match _taken : takeFirst (fun w => w.criteria.suits m) r.waiters with
  | some (waiter, others) =>
    if listens waiter then { r with waiters := others, slots := r.slots ++ [⟨waiter.id, m⟩] }
    else dispatchTo listens { r with waiters := others } m
  | none => { r with backlog := r.backlog ++ [m] }
  termination_by r.waiters.length
  decreasing_by
    obtain ⟨front, rest, before, after, -⟩ := takeFirst_eq_some _taken
    rw [before, after]
    simp

theorem dispatchTo_eq (all : ∀ w ∈ r.waiters, listens w = true) (m : Message) :
    r.dispatchTo listens m = r.dispatch m := by
  unfold dispatchTo dispatch
  split
  · rename_i waiter others taken
    obtain ⟨front, rest, before, -, -⟩ := takeFirst_eq_some taken
    have member : waiter ∈ r.waiters := by simp [before]
    rw [if_pos (all waiter member), taken]
  · rename_i taken
    rw [taken]

/-- What dispatching comes to. Some who do not listen have been struck off; then somebody who listens
has been handed the message, or it suits nobody who is left and is queued. -/
inductive Dispatched (listens : Waiter → Bool) (r : Router) (m : Message) : Router → Prop where
  | handed {kept : List Waiter} (w : Waiter) (fewer : kept.Sublist r.waiters)
      (struck : ∀ v ∈ r.waiters, v ∈ kept ∨ v = w ∨ listens v = false) :
      Dispatched listens r m { r with waiters := kept, slots := r.slots ++ [⟨w.id, m⟩] }
  | queued {kept : List Waiter} (fewer : kept.Sublist r.waiters)
      (struck : ∀ v ∈ r.waiters, v ∈ kept ∨ listens v = false)
      (nobody : ∀ v ∈ kept, v.criteria.suits m = false) :
      Dispatched listens r m { r with waiters := kept, backlog := r.backlog ++ [m] }

/-- By induction on the waiters that have not been tried. -/
theorem dispatched_dispatchTo (listens : Waiter → Bool) (r : Router) (m : Message) :
    Dispatched listens r m (r.dispatchTo listens m) := by
  fun_induction dispatchTo listens r m with
  | case1 r waiter others taken hears =>
    obtain ⟨fewer, left⟩ := sublist_of_takeFirst taken
    exact .handed waiter fewer fun v member => (left v member).imp_right .inl
  | case2 r waiter others taken deaf ih =>
    obtain ⟨fewer, left⟩ := sublist_of_takeFirst taken
    rw [Bool.not_eq_true] at deaf
    -- Whoever has been struck off first did not listen.
    have first (v : Waiter) (member : v ∈ r.waiters) : v ∈ others ∨ listens v = false := by
      obtain kept | rfl := left v member
      · exact .inl kept
      · exact .inr deaf
    generalize dispatchTo listens { r with waiters := others } m = after at ih
    cases ih with
    | handed w later struck =>
      refine .handed w (later.trans fewer) fun v member => ?_
      obtain kept | deaf := first v member
      · exact struck v kept
      · exact .inr (.inr deaf)
    | queued later struck nobody =>
      refine .queued (later.trans fewer) (fun v member => ?_) nobody
      obtain kept | deaf := first v member
      · exact struck v kept
      · exact .inr deaf
  | case3 r taken =>
    exact .queued (List.Sublist.refl _) (fun v member => .inl member) (takeFirst_eq_none taken)

/-- What comes of a new waiter: it is handed a message of the queue, it is too late, or it is registered
because nothing in the queue suits it. -/
inductive Expected (r : Router) (criteria : ReportMatch) : Waiter × Router → Prop where
  | handed {m : Message} {others : List Message} (shorter : others.Sublist r.backlog) :
      Expected r criteria (⟨r.nextWaiterId, criteria⟩,
        { r with backlog := others, slots := r.slots ++ [⟨r.nextWaiterId, m⟩],
                 nextWaiterId := r.nextWaiterId + 1 })
  | late (closed : r.closed.isSome = true) :
      Expected r criteria
        (⟨r.nextWaiterId, criteria⟩, { r with nextWaiterId := r.nextWaiterId + 1 })
  | registered (opened : r.closed.isSome = false)
      (nothing : ∀ m ∈ r.backlog, criteria.suits m = false) :
      Expected r criteria (⟨r.nextWaiterId, criteria⟩,
        { r with waiters := r.waiters ++ [⟨r.nextWaiterId, criteria⟩],
                 nextWaiterId := r.nextWaiterId + 1 })

theorem expected_expect (r : Router) (criteria : ReportMatch) :
    Expected r criteria (r.expect criteria) := by
  unfold Router.expect
  dsimp only
  split
  · rename_i m others taken
    exact .handed (sublist_of_takeFirst taken).1
  · rename_i none
    split
    · rename_i closed
      exact .late closed
    · rename_i opened
      rw [Bool.not_eq_true] at opened
      exact .registered opened (takeFirst_eq_none none)

/-- What the registrations of a router owe to those who wait. -/
structure Orderly (r : Router) : Prop where
  /-- Nobody is registered for a message that is queued. -/
  unmatched : ∀ w ∈ r.waiters, ∀ m ∈ r.backlog, w.criteria.suits m = false
  sorted : r.waiters.Pairwise (·.id < ·.id)
  below : ∀ w ∈ r.waiters, w.id < r.nextWaiterId
  /-- Nobody is registered with a closed router. -/
  closed : r.closed.isSome = true → r.waiters = []

/-- Order is kept by whatever only takes registrations and messages of the queue away. -/
theorem Orderly.shrink (orderly : r.Orderly) {waiters : List Waiter} {backlog : List Message}
    (fewer : waiters.Sublist r.waiters) (shorter : backlog.Sublist r.backlog) (slots : List Slot) :
    Orderly { r with waiters, backlog, slots } where
  unmatched w member m queued :=
    orderly.unmatched w (fewer.subset member) m (shorter.subset queued)
  sorted := orderly.sorted.sublist fewer
  below w member := orderly.below w (fewer.subset member)
  closed closed := List.sublist_nil.mp (orderly.closed closed ▸ fewer)

theorem Orderly.dispatchTo (orderly : r.Orderly) (listens : Waiter → Bool) (m : Message) :
    (r.dispatchTo listens m).Orderly := by
  have dispatched := dispatched_dispatchTo listens r m
  generalize r.dispatchTo listens m = after at dispatched
  cases dispatched with
  | handed w fewer struck => exact orderly.shrink fewer (List.Sublist.refl _) _
  | queued fewer struck nobody =>
    have left := orderly.shrink fewer (List.Sublist.refl _) r.slots
    refine ⟨fun w member message queued => ?_, left.sorted, left.below, left.closed⟩
    rw [List.mem_append, List.mem_singleton] at queued
    obtain before | rfl := queued
    · exact left.unmatched w member message before
    · exact nobody w member

theorem Orderly.expect (orderly : r.Orderly) (criteria : ReportMatch) :
    (r.expect criteria).2.Orderly := by
  have expected := expected_expect r criteria
  generalize r.expect criteria = result at expected
  have later (w : Waiter) (member : w ∈ r.waiters) : w.id < r.nextWaiterId + 1 :=
    Nat.lt_succ_of_lt (orderly.below w member)
  cases expected with
  | handed shorter =>
    have left := orderly.shrink (List.Sublist.refl _) shorter r.slots
    exact ⟨left.unmatched, left.sorted, later, left.closed⟩
  | late closed => exact ⟨orderly.unmatched, orderly.sorted, later, orderly.closed⟩
  | registered opened nothing =>
    refine ⟨fun w member m queued => ?_, ?_, fun w member => ?_, fun closed => ?_⟩
    -- The newcomer has looked through the queue before it was registered.
    · rw [List.mem_append, List.mem_singleton] at member
      obtain old | rfl := member
      · exact orderly.unmatched w old m queued
      · exact nothing m queued
    · rw [List.pairwise_append]
      refine ⟨orderly.sorted, List.pairwise_singleton _ _, fun w member v new => ?_⟩
      rw [List.mem_singleton.mp new]
      exact orderly.below w member
    · rw [List.mem_append, List.mem_singleton] at member
      obtain old | rfl := member
      · exact later w old
      · exact Nat.lt_succ_self _
    · exact absurd (opened.symm.trans closed) Bool.false_ne_true

theorem Orderly.withdraw (orderly : r.Orderly) (w : Waiter) : (r.withdraw w).Orderly :=
  orderly.shrink List.filter_sublist (List.Sublist.refl _) _

theorem next_snd (r : Router) : r.next.2 = { r with backlog := r.backlog.tail } := by
  obtain ⟨waiters, slots, backlog, closed, nextWaiterId⟩ := r
  cases backlog <;> rfl

theorem Orderly.next (orderly : r.Orderly) : r.next.2.Orderly := by
  rw [next_snd]
  exact orderly.shrink (List.Sublist.refl _) (List.tail_sublist _) _

theorem Orderly.close (orderly : r.Orderly) (reason : SessionFault) : (r.close reason).Orderly := by
  have left := orderly.shrink (List.nil_sublist _) (List.Sublist.refl _) r.slots
  exact ⟨left.unmatched, left.sorted, left.below, fun _ => rfl⟩

/-- A waiter holds a message if there is a slot for it. -/
theorem held?_isSome_iff (r : Router) (w : Waiter) :
    (r.held? w).isSome = true ↔ ∃ slot ∈ r.slots, slot.waiterId = w.id := by
  simp [held?]

theorem isWaiting_iff (r : Router) (w : Waiter) :
    r.isWaiting w = true ↔ ∃ v ∈ r.waiters, v.id = w.id := by
  simp [isWaiting]

end Router

namespace Registration

/-! ### Runs of a router -/

/-- What is done to a router by those who use it. A waiter that leaves does not listen any more, but
is not withdrawn yet. -/
inductive Event where
  | dispatch (m : Message)
  | expect (criteria : ReportMatch)
  | leave (waiterId : Nat)
  | drop (waiterId : Nat)
  | wait (waiterId : Nat) (timeout : Duration)
  | next
  | close (reason : SessionFault)

/-- The reason a router is closed for. -/
def Event.reason? : Event → Option SessionFault
  | .close reason => some reason
  | _ => none

/-- A router with the waiters somebody has: those who listen, and those who have left without being
withdrawn. -/
structure Desk where
  router : Router
  live : List Waiter
  gone : List Waiter

namespace Desk

def start : Desk := ⟨.empty, [], []⟩

def listens (d : Desk) (w : Waiter) : Bool := !d.gone.any (·.id == w.id)

/-- A live waiter by its identifier. -/
def live? (d : Desk) (waiterId : Nat) : Option Waiter := d.live.find? (·.id == waiterId)

/-- Takes a waiter off the router and out of everybody's hands. -/
def release (d : Desk) (w : Waiter) : Desk where
  router := d.router.withdraw w
  live := d.live.filter (·.id ≠ w.id)
  gone := d.gone.filter (·.id ≠ w.id)

/-- A waiter stops listening. A message that has been handed to it is gone with it. -/
def leave (d : Desk) (w : Waiter) : Desk where
  router := { d.router with slots := d.router.slots.filter (·.waiterId ≠ w.id) }
  live := d.live.filter (·.id ≠ w.id)
  gone := d.gone ++ [w]

/-- Nothing can be done with a waiter that is in nobody's hands. -/
def step (d : Desk) : Event → Desk
  | .dispatch m => { d with router := d.router.dispatchTo d.listens m }
  | .expect criteria =>
    let (w, router) := d.router.expect criteria
    { d with router, live := d.live ++ [w] }
  | .leave waiterId => ((d.live? waiterId).map d.leave).getD d
  | .drop waiterId => (((d.live ++ d.gone).find? (·.id == waiterId)).map d.release).getD d
  | .wait waiterId timeout =>
    match d.live? waiterId with
    | none => d
    | some w => { d.release w with router := (d.router.finishWait w timeout).2 }
  | .next => { d with router := d.router.next.2 }
  | .close reason => { d with router := d.router.close reason }

/-- What is answered to whoever waits with a waiter, or for any message. -/
def answer? (d : Desk) : Event → Option (Except SessionFault Message)
  | .wait waiterId timeout => (d.live? waiterId).map fun w => (d.router.finishWait w timeout).1
  | .next => d.router.next.1
  | _ => none

/-- The state after events, from a new router. -/
def after (events : List Event) : Desk := events.foldl step start

theorem after_append_singleton (events : List Event) (event : Event) :
    after (events ++ [event]) = (after events).step event := by
  rw [after, List.foldl_append]
  rfl

variable {d : Desk}

theorem mem_of_live? {waiterId : Nat} {w : Waiter} (found : d.live? waiterId = some w) :
    w ∈ d.live ∧ w.id = waiterId := by
  refine ⟨List.mem_of_find?_eq_some found, ?_⟩
  simpa using List.find?_some found

/-! ### Soundness -/

structure Sound (d : Desk) : Prop where
  orderly : d.router.Orderly
  /-- No waiter to come has the identifier of one that somebody has. -/
  issued : ∀ w ∈ d.live ++ d.gone, w.id < d.router.nextWaiterId
  apart : ∀ w ∈ d.live, ∀ v ∈ d.gone, v.id ≠ w.id
  /-- A live waiter is registered, unless it has got its message, or will never get one. -/
  attended : ∀ w ∈ d.live,
    w ∈ d.router.waiters ∨ (d.router.held? w).isSome = true ∨ d.router.closed.isSome = true

namespace Sound

theorem listens (sound : d.Sound) {w : Waiter} (live : w ∈ d.live) : d.listens w = true := by
  rw [Desk.listens, Bool.not_eq_true', List.any_eq_false]
  intro v left
  rw [beq_iff_eq]
  exact sound.apart w live v left

theorem dispatch (sound : d.Sound) (m : Message) : (d.step (.dispatch m)).Sound := by
  have orderly := sound.orderly.dispatchTo d.listens m
  have dispatched := Router.dispatched_dispatchTo d.listens d.router m
  rw [step]
  generalize d.router.dispatchTo d.listens m = router at dispatched orderly
  cases dispatched with
  | handed w fewer struck =>
    refine ⟨orderly, sound.issued, sound.apart, fun v live => ?_⟩
    rw [Router.held?_isSome_iff]
    obtain registered | held | closed := sound.attended v live
    -- It keeps its registration or gets the message; only those who have left are struck off.
    · obtain kept | rfl | deaf := struck v registered
      · exact .inl kept
      · exact .inr (.inl ⟨_, List.mem_append_right _ (List.mem_singleton_self _), rfl⟩)
      · rw [sound.listens live] at deaf
        cases deaf
    · obtain ⟨slot, member, same⟩ := (Router.held?_isSome_iff ..).mp held
      exact .inr (.inl ⟨slot, List.mem_append_left _ member, same⟩)
    · exact .inr (.inr closed)
  | queued fewer struck nobody =>
    refine ⟨orderly, sound.issued, sound.apart, fun v live => ?_⟩
    obtain registered | still := sound.attended v live
    · obtain kept | deaf := struck v registered
      · exact .inl kept
      · rw [sound.listens live] at deaf
        cases deaf
    · exact .inr still

/-- A new waiter has an identifier of its own. -/
theorem enlist (sound : d.Sound) (criteria : ReportMatch) :
    (∀ v ∈ d.live ++ [⟨d.router.nextWaiterId, criteria⟩] ++ d.gone,
        v.id < d.router.nextWaiterId + 1) ∧
      ∀ v ∈ d.live ++ [⟨d.router.nextWaiterId, criteria⟩], ∀ u ∈ d.gone, u.id ≠ v.id := by
  refine ⟨fun v member => ?_, fun v member u left => ?_⟩
  · rw [List.mem_append, List.mem_append, List.mem_singleton] at member
    obtain (live | rfl) | left := member
    · exact Nat.lt_succ_of_lt (sound.issued v (List.mem_append_left _ live))
    · exact Nat.lt_succ_self _
    · exact Nat.lt_succ_of_lt (sound.issued v (List.mem_append_right _ left))
  · rw [List.mem_append, List.mem_singleton] at member
    obtain live | rfl := member
    · exact sound.apart v live u left
    · exact Nat.ne_of_lt (sound.issued u (List.mem_append_right _ left))

theorem expect (sound : d.Sound) (criteria : ReportMatch) :
    (d.step (.expect criteria)).Sound := by
  have orderly := sound.orderly.expect criteria
  have expected := Router.expected_expect d.router criteria
  obtain ⟨issued, apart⟩ := sound.enlist criteria
  rw [step]
  generalize d.router.expect criteria = result at expected orderly
  cases expected with
  | @handed m others shorter =>
    refine ⟨orderly, issued, apart, fun v member => ?_⟩
    rw [Router.held?_isSome_iff]
    rw [List.mem_append, List.mem_singleton] at member
    obtain live | rfl := member
    · obtain registered | held | closed := sound.attended v live
      · exact .inl registered
      · obtain ⟨slot, member, same⟩ := (Router.held?_isSome_iff ..).mp held
        exact .inr (.inl ⟨slot, List.mem_append_left _ member, same⟩)
      · exact .inr (.inr closed)
    · exact .inr (.inl ⟨_, List.mem_append_right _ (List.mem_singleton_self _), rfl⟩)
  | late closed =>
    -- The router is closed, so there is nothing to wait for.
    exact ⟨orderly, issued, apart, fun v member => .inr (.inr closed)⟩
  | registered opened nothing =>
    refine ⟨orderly, issued, apart, fun v member => ?_⟩
    rw [List.mem_append, List.mem_singleton] at member
    obtain live | rfl := member
    · obtain registered | still := sound.attended v live
      · exact .inl (List.mem_append_left _ registered)
      · exact .inr still
    · exact .inl (List.mem_append_right _ (List.mem_singleton_self _))

/-- Taking one waiter away leaves the others attended to. -/
theorem attended_apart (sound : d.Sound) (w : Waiter) {v : Waiter}
    (other : v ∈ d.live.filter (·.id ≠ w.id)) :
    v ∈ (d.router.withdraw w).waiters ∨ ((d.router.withdraw w).held? v).isSome = true ∨
      d.router.closed.isSome = true := by
  rw [List.mem_filter, decide_eq_true_eq] at other
  obtain ⟨live, different⟩ := other
  obtain registered | held | closed := sound.attended v live
  · exact .inl (List.mem_filter.mpr ⟨registered, decide_eq_true different⟩)
  · obtain ⟨slot, member, same⟩ := (Router.held?_isSome_iff ..).mp held
    have kept : slot.waiterId ≠ w.id := by rwa [same]
    refine .inr (.inl ((Router.held?_isSome_iff ..).mpr ⟨slot, ?_, same⟩))
    exact List.mem_filter.mpr ⟨member, decide_eq_true kept⟩
  · exact .inr (.inr closed)

theorem release (sound : d.Sound) (w : Waiter) : (d.release w).Sound where
  orderly := sound.orderly.withdraw w
  issued v member := by
    refine sound.issued v ?_
    rw [List.mem_append] at member ⊢
    exact member.imp List.mem_of_mem_filter List.mem_of_mem_filter
  apart v live u left :=
    sound.apart v (List.mem_of_mem_filter live) u (List.mem_of_mem_filter left)
  attended _ other := sound.attended_apart w other

theorem leave (sound : d.Sound) {w : Waiter} (live : w ∈ d.live) : (d.leave w).Sound where
  orderly := sound.orderly.shrink (List.Sublist.refl _) (List.Sublist.refl _) _
  issued v member := by
    refine sound.issued v ?_
    rw [Desk.leave, List.mem_append, List.mem_append, List.mem_singleton] at member
    rw [List.mem_append]
    obtain other | left | rfl := member
    · exact .inl (List.mem_of_mem_filter other)
    · exact .inr left
    · exact .inl live
  apart v other u left := by
    have both := List.mem_filter.mp other
    rw [Desk.leave, List.mem_append, List.mem_singleton] at left
    obtain before | rfl := left
    · exact sound.apart v both.1 u before
    · exact fun same => of_decide_eq_true both.2 same.symm
  attended v other := by
    obtain registered | still := sound.attended_apart w other
    · exact .inl (List.mem_of_mem_filter registered)
    · exact .inr still

theorem step (sound : d.Sound) (event : Event) : (d.step event).Sound := by
  cases event with
  | dispatch m => exact sound.dispatch m
  | expect criteria => exact sound.expect criteria
  | leave waiterId =>
    rw [Desk.step]
    cases found : d.live? waiterId with
    | none => exact sound
    | some w => exact sound.leave (mem_of_live? found).1
  | drop waiterId =>
    rw [Desk.step]
    cases (d.live ++ d.gone).find? (·.id == waiterId) with
    | none => exact sound
    | some w => exact sound.release w
  | wait waiterId timeout =>
    rw [Desk.step]
    cases d.live? waiterId with
    | none => exact sound
    | some w => exact sound.release w
  | next =>
    -- A message is taken out of the backlog; no waiter is touched.
    have orderly := sound.orderly.next
    rw [Desk.step]
    rw [Router.next_snd] at orderly ⊢
    exact ⟨orderly, sound.issued, sound.apart, sound.attended⟩
  | close reason =>
    refine ⟨sound.orderly.close reason, sound.issued, sound.apart, fun w live => .inr (.inr ?_)⟩
    show (d.router.closed.or (some reason)).isSome = true
    cases d.router.closed <;> rfl

theorem after (events : List Event) : (after events).Sound := by
  induction events using List.reverseRecOn with
  | nil =>
    have orderly : Router.empty.Orderly := by constructor <;> simp [Router.empty]
    exact ⟨orderly, by simp [start, Desk.after], by simp [start, Desk.after],
      by simp [start, Desk.after]⟩
  | append_singleton events event ih =>
    rw [after_append_singleton]
    exact ih.step event

end Sound

/-! ### Reasons -/

/-- The reason of a router is kept by all who use it but the first who closes it. -/
theorem closed_step (d : Desk) (event : Event) :
    (d.step event).router.closed = d.router.closed.or event.reason? := by
  -- Only `close` gives a reason, so in all other cases the reason is the old one.
  cases event with
  | dispatch m =>
    have dispatched := Router.dispatched_dispatchTo d.listens d.router m
    rw [step]
    generalize d.router.dispatchTo d.listens m = router at dispatched
    cases dispatched <;> exact (Option.or_none).symm
  | expect criteria =>
    have expected := Router.expected_expect d.router criteria
    rw [step]
    generalize d.router.expect criteria = result at expected
    cases expected <;> exact (Option.or_none).symm
  | leave waiterId =>
    rw [step]
    cases d.live? waiterId <;> exact (Option.or_none).symm
  | drop waiterId =>
    rw [step]
    cases (d.live ++ d.gone).find? (·.id == waiterId) <;> exact (Option.or_none).symm
  | wait waiterId timeout =>
    rw [step]
    cases d.live? waiterId <;> exact (Option.or_none).symm
  | next =>
    rw [step, Router.next_snd]
    exact (Option.or_none).symm
  | close reason => rfl

/-- A router is closed for the first reason there has been. -/
theorem closed_after (events : List Event) :
    (after events).router.closed = events.findSome? Event.reason? := by
  induction events using List.reverseRecOn with
  | nil => rfl
  | append_singleton events event ih =>
    rw [after_append_singleton, closed_step, ih, List.findSome?_append]
    cases event <;> rfl

/-! ### The ends of waiting -/

/-- Nobody waits with a closed router. -/
theorem Sound.isWaiting (sound : d.Sound) (closed : d.router.closed.isSome = true) (w : Waiter) :
    d.router.isWaiting w = false := by
  rw [Router.isWaiting, sound.orderly.closed closed]
  rfl

/-- A wait fails for the reason of the router, or because its time is up. -/
theorem Sound.finishWait_fault (sound : d.Sound) {w : Waiter} (live : w ∈ d.live)
    {timeout : Duration} {fault : SessionFault}
    (fails : (d.router.finishWait w timeout).1 = .error fault) :
    d.router.closed = some fault ∨
      d.router.closed = none ∧ w ∈ d.router.waiters ∧
        fault = .ackTimeout w.criteria.clOrdId timeout.millis64 := by
  unfold Router.finishWait at fails
  dsimp only at fails
  split at fails
  · cases fails
  · rename_i nothing
    -- Time only matters as long as the router is open.
    cases closed : d.router.closed with
    | some reason =>
      rw [sound.isWaiting (by rw [closed]; rfl), if_neg Bool.false_ne_true, Router.closeReason,
        closed] at fails
      cases fails
      exact .inl rfl
    | none =>
      obtain registered | held | shut := sound.attended w live
      · have waiting : d.router.isWaiting w = true :=
          (Router.isWaiting_iff ..).mpr ⟨w, registered, rfl⟩
        rw [if_pos waiting] at fails
        cases fails
        exact .inr ⟨rfl, registered, rfl⟩
      -- A message that is held would have been given.
      · rw [nothing] at held
        cases held
      · rw [closed] at shut
        cases shut

/-- What a call is told other than a message. -/
theorem Sound.answer?_fault (sound : d.Sound) {event : Event} {fault : SessionFault}
    (fails : d.answer? event = some (.error fault)) :
    d.router.closed = some fault ∨
      d.router.closed = none ∧ ∃ w ∈ d.router.waiters, ∃ timeout, event = .wait w.id timeout ∧
        fault = .ackTimeout w.criteria.clOrdId timeout.millis64 := by
  cases event with
  | wait waiterId timeout =>
    rw [answer?, Option.map_eq_some_iff] at fails
    obtain ⟨w, found, fails⟩ := fails
    obtain ⟨live, rfl⟩ := mem_of_live? found
    obtain closed | ⟨opened, registered, told⟩ := sound.finishWait_fault live fails
    · exact .inl closed
    · exact .inr ⟨opened, w, registered, timeout, rfl, told⟩
  | next =>
    rw [answer?, Router.next] at fails
    split at fails
    · cases fails
    · rw [Option.map_eq_some_iff] at fails
      obtain ⟨reason, closed, told⟩ := fails
      cases told
      exact .inl closed
  | _ => cases fails

/-- At every moment of every run, the registrations are in order: nobody is registered for a message
that is queued, and identifiers increase. A router is closed for the first reason there has been. From
then on nobody is registered, and every call comes to its end at once, whatever time it has: with a
message, or with that reason. It is the only one ever told; other than that, a call only fails because
its own time is up. -/
theorem registrations_sound (events : List Event) :
    (after events).Sound ∧
    (after events).router.closed = events.findSome? Event.reason? ∧
    (∀ reason, events.findSome? Event.reason? = some reason →
      (after events).router.waiters = [] ∧
      (∀ w ∈ (after events).live, (after events).router.isSettled w = true ∧
        ∀ timeout, ((after events).router.finishWait w timeout).1 =
          (((after events).router.held? w).map Except.ok).getD (.error reason)) ∧
      (after events).router.next.1.isSome = true) ∧
    ∀ event fault, (after events).answer? event = some (.error fault) →
      events.findSome? Event.reason? = some fault ∨
      events.findSome? Event.reason? = none ∧
        ∃ w ∈ (after events).router.waiters, ∃ timeout, event = .wait w.id timeout ∧
          fault = .ackTimeout w.criteria.clOrdId timeout.millis64 := by
  have sound := Sound.after events
  rw [← closed_after]
  refine ⟨sound, rfl, fun reason closed => ?_, fun event fault => sound.answer?_fault⟩
  have shut : (after events).router.closed.isSome = true := by
    rw [closed]
    rfl
  refine ⟨sound.orderly.closed shut, fun w live => ⟨?_, fun timeout => ?_⟩, ?_⟩
  · rw [Router.isSettled, sound.isWaiting shut, Bool.not_false, Bool.or_true]
  · rw [Router.finishWait, sound.isWaiting shut, Router.closeReason, closed]
    cases (after events).router.held? w <;> rfl
  · rw [Router.next]
    split
    · rfl
    · rw [Option.isSome_map]
      exact shut

end Desk

end Registration

end FixBench
