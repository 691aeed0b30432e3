import Mathlib.Data.List.Nodup
import FixBench.Link.Router

/-!
# Letters

A letter is a dispatched message with the place it is in. Every operation of a router moves at most
one letter, the first in some place whose message satisfies a condition. `moveFirst` is this move, and
the lemmas on it say what it does to the messages in each place: the source loses the first of them
that satisfies the condition, an empty target gets it, and all other places stay as they are.

Slots and answers are described in the same terms, by the messages a waiter holds and by those a call
has returned.
-/
namespace FixBench.Delivery

/-- Where a dispatched message is. -/
inductive Place where
  | queued
  | held (waiterId : Nat)
  | returned (call : Nat)
  | discarded (waiterId : Nat)
  deriving DecidableEq

structure Letter where
  message : Message
  place : Place
  deriving DecidableEq

/-- Messages in one place, in the order of their dispatch. -/
def messagesIn (place : Place) (letters : List Letter) : List Message :=
  (letters.filter (·.place = place)).map Letter.message

/-- Moves the first letter in a place whose message satisfies `p`. -/
def moveFirst (source : Place) (p : Message → Bool) (target : Place) : List Letter → List Letter
  | [] => []
  | letter :: rest =>
    if letter.place = source ∧ p letter.message = true then { letter with place := target } :: rest
    else letter :: moveFirst source p target rest

theorem messagesIn_cons (place : Place) (letter : Letter) (rest : List Letter) :
    messagesIn place (letter :: rest) =
      if letter.place = place then letter.message :: messagesIn place rest
      else messagesIn place rest := by
  by_cases here : letter.place = place <;> simp [messagesIn, here]

theorem messagesIn_append_singleton (place : Place) (letters : List Letter) (letter : Letter) :
    messagesIn place (letters ++ [letter]) =
      messagesIn place letters ++ if letter.place = place then [letter.message] else [] := by
  by_cases here : letter.place = place <;> simp [messagesIn, here]

section Moves

variable {source target : Place} (p : Message → Bool) (letters : List Letter)

theorem messagesIn_moveFirst_source (apart : source ≠ target) :
    messagesIn source (moveFirst source p target letters) =
      (messagesIn source letters).eraseP p := by
  induction letters with
  | nil => rfl
  | cons letter rest ih =>
    rw [moveFirst, messagesIn_cons]
    split
    · rename_i moved
      simp [messagesIn_cons, moved, apart.symm]
    · rename_i stays
      rw [messagesIn_cons, ih]
      split
      · rename_i here
        rw [List.eraseP_cons_of_neg fun accepted => stays ⟨here, accepted⟩]
      · rfl

theorem messagesIn_moveFirst_target (empty : messagesIn target letters = []) :
    messagesIn target (moveFirst source p target letters) =
      ((messagesIn source letters).find? p).toList := by
  induction letters with
  | nil => rfl
  | cons letter rest ih =>
    rw [messagesIn_cons] at empty
    split at empty
    · cases empty
    · rename_i elsewhere
      rw [moveFirst, messagesIn_cons]
      split
      · rename_i moved
        simp [messagesIn_cons, moved, empty]
      · rename_i stays
        rw [messagesIn_cons, if_neg elsewhere, ih empty]
        split
        · rename_i here
          rw [List.find?_cons_of_neg fun accepted => stays ⟨here, accepted⟩]
        · rfl

theorem messagesIn_moveFirst_other {place : Place} (notSource : place ≠ source)
    (notTarget : place ≠ target) :
    messagesIn place (moveFirst source p target letters) = messagesIn place letters := by
  induction letters with
  | nil => rfl
  | cons letter rest ih =>
    rw [moveFirst, messagesIn_cons]
    split
    · rename_i moved
      simp [messagesIn_cons, moved, notSource.symm, notTarget.symm]
    · rw [messagesIn_cons, ih]

theorem map_message_moveFirst :
    (moveFirst source p target letters).map Letter.message = letters.map Letter.message := by
  induction letters with
  | nil => rfl
  | cons letter rest ih =>
    rw [moveFirst]
    split
    · rfl
    · rw [List.map_cons, List.map_cons, ih]

/-- A letter stays where it is, or it is moved. -/
theorem getElem?_moveFirst {i : Nat} {letter : Letter} (here : letters[i]? = some letter) :
    ∃ place, (moveFirst source p target letters)[i]? = some { letter with place } ∧
      (place = letter.place ∨ letter.place = source ∧ place = target) := by
  induction letters generalizing i with
  | nil => cases here
  | cons first rest ih =>
    rw [moveFirst]
    split
    · rename_i moved
      cases i with
      | zero =>
        cases here
        exact ⟨target, rfl, .inr ⟨moved.1, rfl⟩⟩
      | succ i => exact ⟨letter.place, here, .inl rfl⟩
    · cases i with
      | zero =>
        cases here
        exact ⟨letter.place, rfl, .inl rfl⟩
      | succ i => exact ih here

/-- The letter that is moved is the first of its kind, and if there is none nothing is moved. -/
theorem moveFirst_cases :
    (∃ front letter rest, letters = front ++ letter :: rest ∧ letter.place = source ∧
        p letter.message = true ∧
        (∀ earlier ∈ front, earlier.place = source → p earlier.message = false) ∧
        moveFirst source p target letters = front ++ { letter with place := target } :: rest) ∨
      (∀ letter ∈ letters, letter.place = source → p letter.message = false) ∧
        moveFirst source p target letters = letters := by
  induction letters with
  | nil => exact .inr ⟨fun _ none => (List.not_mem_nil none).elim, rfl⟩
  | cons first rest ih =>
    rw [moveFirst]
    split
    · rename_i moved
      exact .inl ⟨[], first, rest, rfl, moved.1, moved.2, fun _ none => (List.not_mem_nil none).elim,
        rfl⟩
    · rename_i stays
      have refused (place : first.place = source) : p first.message = false := by
        rw [← Bool.not_eq_true]
        exact fun accepted => stays ⟨place, accepted⟩
      obtain ⟨front, letter, later, rfl, place, accepted, earliest, moves⟩ | ⟨none, same⟩ := ih
      · refine .inl ⟨first :: front, letter, later, rfl, place, accepted, ?_, by rw [moves]; rfl⟩
        intro earlier member
        obtain rfl | later := List.mem_cons.mp member
        · exact refused
        · exact earliest earlier later
      · refine .inr ⟨fun letter member => ?_, by rw [same]⟩
        obtain rfl | later := List.mem_cons.mp member
        · exact refused
        · exact none letter later

theorem mem_moveFirst {letter : Letter} (member : letter ∈ moveFirst source p target letters) :
    (∃ former ∈ letters, letter.place = former.place) ∨ letter.place = target := by
  induction letters with
  | nil => cases member
  | cons first rest ih =>
    rw [moveFirst] at member
    split at member
    · obtain rfl | later := List.mem_cons.mp member
      · exact .inr rfl
      · exact .inl ⟨letter, List.mem_cons_of_mem _ later, rfl⟩
    · obtain rfl | later := List.mem_cons.mp member
      · exact .inl ⟨_, List.mem_cons_self, rfl⟩
      · obtain ⟨former, there, same⟩ | moved := ih later
        · exact .inl ⟨former, List.mem_cons_of_mem _ there, same⟩
        · exact .inr moved

end Moves

theorem takeFirst_eq {α : Type} (p : α → Bool) (l : List α) :
    Router.takeFirst p l = (l.find? p).map fun found => (found, l.eraseP p) := by
  induction l with
  | nil => rfl
  | cons first rest ih =>
    rw [Router.takeFirst]
    cases accepted : p first with
    | true => simp [accepted]
    | false => simp [accepted, ih, Function.comp_def]

/-- Among waiters in the order of their identifiers the first that is suited is the oldest, and the
others have other identifiers. -/
theorem oldest_of_find? {p : Waiter → Bool} {waiters : List Waiter} {w : Waiter}
    (sorted : waiters.Pairwise (·.id < ·.id)) (found : waiters.find? p = some w) :
    (∀ v ∈ waiters, p v = true → w.id ≤ v.id) ∧ ∀ v ∈ waiters.eraseP p, v.id ≠ w.id := by
  induction waiters with
  | nil => cases found
  | cons first rest ih =>
    obtain ⟨least, sorted⟩ := List.pairwise_cons.mp sorted
    cases accepted : p first with
    | true =>
      rw [List.find?_cons_of_pos accepted] at found
      cases found
      refine ⟨fun v member _ => ?_, fun v member => ?_⟩
      · obtain rfl | later := List.mem_cons.mp member
        · exact Nat.le_refl _
        · exact Nat.le_of_lt (least v later)
      · rw [List.eraseP_cons_of_pos accepted] at member
        exact Nat.ne_of_gt (least v member)
    | false =>
      have refused : ¬ p first = true := by rw [accepted]; exact Bool.false_ne_true
      rw [List.find?_cons_of_neg refused] at found
      obtain ⟨oldest, apart⟩ := ih sorted found
      refine ⟨fun v member suited => ?_, fun v member => ?_⟩
      · obtain rfl | later := List.mem_cons.mp member
        · exact absurd suited refused
        · exact oldest v later suited
      · rw [List.eraseP_cons_of_neg refused] at member
        obtain rfl | later := List.mem_cons.mp member
        · exact Nat.ne_of_lt (least w (List.mem_of_find?_eq_some found))
        · exact apart v later

/-! ### Slots and answers -/

/-- Messages in the slot of a waiter. -/
def heldBy (waiterId : Nat) (slots : List Slot) : List Message :=
  (slots.filter (·.waiterId = waiterId)).map Slot.message

theorem heldBy_append (waiterId : Nat) (slots : List Slot) (s : Slot) :
    heldBy waiterId (slots ++ [s]) =
      heldBy waiterId slots ++ if s.waiterId = waiterId then [s.message] else [] := by
  by_cases here : s.waiterId = waiterId <;> simp [heldBy, List.filter_append, here]

/-- Where no waiter has two slots, what a waiter has is what a look-up finds. -/
theorem heldBy_eq {slots : List Slot} (single : (slots.map Slot.waiterId).Nodup) (waiterId : Nat) :
    heldBy waiterId slots =
      ((slots.find? (·.waiterId == waiterId)).map Slot.message).toList := by
  induction slots with
  | nil => rfl
  | cons slot rest ih =>
    rw [List.map_cons, List.nodup_cons] at single
    by_cases here : slot.waiterId = waiterId
    · subst here
      have none : rest.filter (fun later => later.waiterId = slot.waiterId) = [] := by
        rw [List.filter_eq_nil_iff]
        intro later member same
        exact single.1 (List.mem_map.mpr ⟨later, member, of_decide_eq_true same⟩)
      simp [heldBy, none]
    · have later := ih single.2
      simpa [heldBy, here] using later

theorem heldBy_withdraw (waiterId : Nat) (slots : List Slot) (gone : Nat) :
    heldBy waiterId (slots.filter (·.waiterId ≠ gone)) =
      if waiterId = gone then [] else heldBy waiterId slots := by
  rw [heldBy, List.filter_filter]
  split
  · rename_i same
    simp [same]
  · rename_i other
    refine congrArg (List.map _) (List.filter_congr fun s _ => ?_)
    by_cases here : s.waiterId = waiterId <;> simp [here, other]

theorem nodup_append_slot {slots : List Slot} {slot : Slot}
    (single : (slots.map Slot.waiterId).Nodup) (free : ∀ s ∈ slots, s.waiterId ≠ slot.waiterId) :
    ((slots ++ [slot]).map Slot.waiterId).Nodup := by
  rw [List.map_append, List.nodup_append]
  refine ⟨single, List.nodup_singleton _, ?_⟩
  intro id old other last
  obtain ⟨s, member, rfl⟩ := List.mem_map.mp old
  rw [List.map_singleton, List.mem_singleton] at last
  rw [last]
  exact free s member

/-- What a call has returned. -/
def returnedBy (call : Nat) (answers : List (Except SessionFault Message)) : List Message :=
  (answers[call]?.bind Except.toOption).toList

/-- A call that has not been made has returned nothing. -/
theorem returnedBy_next (answers : List (Except SessionFault Message)) :
    returnedBy answers.length answers = [] := by
  simp [returnedBy]

theorem returnedBy_append (call : Nat) (answers : List (Except SessionFault Message))
    (answer : Except SessionFault Message) :
    returnedBy call (answers ++ [answer]) =
      if call = answers.length then answer.toOption.toList else returnedBy call answers := by
  rw [returnedBy, List.getElem?_append]
  split
  · rename_i earlier
    rw [if_neg (Nat.ne_of_lt earlier), returnedBy]
  · rename_i later
    split
    · rename_i last
      simp [last]
    · rename_i beyond
      have long : answers.length ≤ call := by omega
      have behind : [answer].length ≤ call - answers.length := by
        rw [List.length_singleton]
        omega
      rw [returnedBy, List.getElem?_eq_none long, List.getElem?_eq_none behind]

end FixBench.Delivery
