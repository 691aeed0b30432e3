/-!
# Steps that may fail

Two steps in a row succeed when both do, the second on what the first has produced; and they fail
with the fault of the one that comes to nothing. A procedure written as a block is taken apart step
by step with these, and no step needs to be opened for it. A check produces nothing, so for a check
and what comes behind it the same is said with nothing in between.
-/
namespace FixBench

variable {ε α β : Type}

theorem bind_eq_ok_iff (first : Except ε α) (next : α → Except ε β) (b : β) :
    first >>= next = .ok b ↔ ∃ a, first = .ok a ∧ next a = .ok b := by
  cases first with
  | error fault => simp [bind, Except.bind]
  | ok a => simp [bind, Except.bind]

theorem bind_eq_error_iff (first : Except ε α) (next : α → Except ε β) (fault : ε) :
    first >>= next = .error fault ↔
      first = .error fault ∨ ∃ a, first = .ok a ∧ next a = .error fault := by
  cases first with
  | error fault => simp [bind, Except.bind]
  | ok a => simp [bind, Except.bind]

theorem pure_eq_ok_iff (a b : α) : (pure a : Except ε α) = .ok b ↔ a = b := by
  simp [pure, Except.pure]

/-! ### Checks -/

theorem check_bind_eq_ok_iff (check : Except ε Unit) (next : Unit → Except ε β) (b : β) :
    check >>= next = .ok b ↔ check = .ok () ∧ next () = .ok b := by
  rw [bind_eq_ok_iff]
  constructor
  · rintro ⟨_, passes, succeeds⟩
    exact ⟨passes, succeeds⟩
  · rintro ⟨passes, succeeds⟩
    exact ⟨(), passes, succeeds⟩

end FixBench
