import FixBench.Link.Sending
import FixBench.Proofs.Link.Sending

/-!
# Calls that send at the same time

What a step can do is said once for a call (`SendStage.Step`) and once for a connection with its calls
under way (`Traffic.Moves`); later proofs go through these cases and do not open the steps again. Taken
one after the other, the steps of a call are what `Connection.send` does (`Traffic.run_alone`).

The writer's lock does what a lock is for (`Sound.exclusive`): a call takes it only while nobody has
it, and no other step puts a call behind it. A call that has it may therefore take every other call
to be elsewhere (`Sound.eq_of_mem_set`).
-/
namespace FixBench

/-! ### What a step can do -/

namespace SendStage

/-- What one step makes of a call and of the connection. -/
inductive Step (c : Connection) (now : Moment) : SendStage → SendStage → Connection → Prop
  | refuse {m : Message} {fault : SessionFault} : Step c now (called m) (returned (.error fault)) c
  | letIn {m : Message} : Wire.checkValues m = .ok () → Step c now (called m) (admitted m) c
  | lock {m : Message} : Step c now (admitted m) (locked m) c
  | turnAway {m : Message} {fault : SessionFault} :
      Step c now (locked m) (finishing (.error fault)) c
  | stamp {m stampedMessage : Message} {session : Session} :
      c.session.stamp m now = .ok (stampedMessage, session) →
        Step c now (locked m) (stamped stampedMessage) { c with session }
  | write {m : Message} {bytes : List UInt8} :
      Wire.encode m = .ok bytes →
        Step c now (stamped m) (finishing (.ok (m.seqNum?.getD 0)))
          { c with sent := c.sent ++ [⟨m, bytes⟩] }
  | miss {m : Message} {fault : SessionFault} :
      (¬ ∃ bytes, Wire.encode m = .ok bytes) → Step c now (stamped m) (failing fault) c
  | release {result : Except SessionFault Nat} : Step c now (finishing result) (returned result) c
  | close {fault : SessionFault} : Step c now (failing fault) (failed fault) (c.fail fault)
  | rest {result : Except SessionFault Nat} : Step c now (returned result) (returned result) c
  | restFailed {fault : SessionFault} : Step c now (failed fault) (failed fault) c

theorem step_advance (c : Connection) (now : Moment) (stage : SendStage) :
    stage.Step c now (stage.advance c now).1 (stage.advance c now).2 := by
  cases stage with
  | called m =>
    rw [advance]
    cases admitted : c.checkSendable m with
    | error fault => exact .refuse
    | ok => exact .letIn ((c.checkSendable_eq_ok_iff m).mp admitted).2
  | admitted m => exact .lock
  | locked m =>
    rw [advance]
    cases stamps : c.stamp m now with
    | error fault => exact .turnAway
    | ok result =>
      obtain ⟨stampedMessage, after⟩ := result
      obtain ⟨session, inSession, rfl⟩ := (c.stamp_eq_ok_iff _ _ _ _).mp stamps
      exact .stamp inSession
  | stamped m =>
    rw [advance]
    cases puts : c.put m with
    | error fault =>
      obtain ⟨cause, refused, -⟩ := (c.put_eq_error_iff _ _).mp puts
      exact .miss (by simp [refused])
    | ok result =>
      obtain ⟨seq, after⟩ := result
      obtain ⟨bytes, encodes, rfl, rfl⟩ := (c.put_eq_ok_iff _ _ _).mp puts
      exact .write encodes
  | finishing result => exact .release
  | failing fault => exact .close
  | returned result => exact .rest
  | failed fault => exact .restFailed

variable {c after : Connection} {now : Moment} {stage next : SendStage}

/-- Only a call that has been admitted takes the lock. -/
theorem Step.holdsLock (step : stage.Step c now next after) (holds : next.holdsLock = true) :
    stage.holdsLock = true ∨ ∃ m, stage = admitted m := by
  cases step <;> first | exact Or.inl rfl | exact Or.inr ⟨_, rfl⟩ | cases holds

end SendStage

/-- Nothing has changed that the order of the frames depends on. -/
structure Connection.KeepsOrder (before after : Connection) : Prop where
  sent : after.sent = before.sent
  sending : KeepsSending before.session after.session
  reached : ∀ {config : SessionConfig},
    Session.Reached config before.session → Session.Reached config after.session

namespace Traffic

/-- What one step of a connection with its calls can be. -/
inductive Moves (t : Traffic) (now : Moment) : TrafficEvent → Traffic → Prop
  | call (m : Message) : Moves t now (.call m) { t with calls := t.calls ++ [.called m] }
  | wait (index : Nat) : Moves t now (.advance index) t
  | advance {index : Nat} {stage next : SendStage} {after : Connection} :
      t.calls[index]? = some stage → t.mayAdvance stage = true →
        stage.Step t.connection now next after →
          Moves t now (.advance index) ⟨after, t.calls.set index next⟩
  | aside {event : TrafficEvent} {after : Connection} :
      (∀ index, event ≠ .advance index) → t.connection.KeepsOrder after →
        Moves t now event { t with connection := after }

theorem moves_step (t : Traffic) (now : Moment) (event : TrafficEvent) :
    t.Moves now event (t.step now event) := by
  cases event with
  | call m => exact .call m
  | advance index =>
    rw [step]
    cases here : t.calls[index]? with
    | none => exact .wait index
    | some stage =>
      dsimp only
      split
      · rename_i may
        exact .advance here may (stage.step_advance t.connection now)
      · exact .wait index
  | inbound frame =>
    rw [step]
    cases decoded : Wire.decode frame with
    | error fault => exact .aside (by simp) ⟨rfl, ⟨rfl, rfl⟩, id⟩
    | ok m =>
      refine .aside (by simp) ⟨rfl, Session.keepsSending_inbound _ m now, ?_⟩
      exact fun reached => reached.inbound now decoded
  | poll =>
    exact .aside (by simp) ⟨rfl, Session.keepsSending_poll _ now, fun reached => reached.poll now⟩
  | record fault => exact .aside (by simp) ⟨rfl, ⟨rfl, rfl⟩, id⟩
  | disconnect =>
    exact .aside (by simp) ⟨rfl, Session.keepsSending_disconnect _, fun reached => reached.disconnect⟩
  | cancel => exact .aside (by simp) ⟨rfl, ⟨rfl, rfl⟩, id⟩

/-! ### A call by itself -/

theorem step_alone (c : Connection) (now : Moment) (stage : SendStage) :
    step ⟨c, [stage]⟩ now (.advance 0) =
      ⟨(stage.advance c now).2, [(stage.advance c now).1]⟩ := by
  cases stage <;> rfl

/-- The steps of a call, one after the other with nothing in between, are what sending is with nobody
else at work. -/
theorem run_alone (c : Connection) (m : Message) (now : Moment) :
    let alone := (start c).run ((now, .call m) :: List.replicate 5 (now, .advance 0))
    alone.connection = (c.send m now).2 ∧
      alone.calls.map SendStage.result? = [some (c.send m now).1] := by
  have called : (start c).step now (.call m) = ⟨c, [.called m]⟩ := rfl
  simp only [run, called, List.replicate, step_alone, Connection.send]
  cases admitted : c.checkSendable m with
  | error fault => simp [SendStage.advance, SendStage.result?, admitted]
  | ok =>
    cases stamps : c.stamp m now with
    | error fault => simp [SendStage.advance, SendStage.result?, admitted, stamps]
    | ok result =>
      obtain ⟨stamped, numbered⟩ := result
      cases puts : numbered.put stamped with
      | error fault =>
        simp [SendStage.advance, SendStage.result?, Connection.write, admitted, stamps, puts]
      | ok result =>
        simp [SendStage.advance, SendStage.result?, Connection.write, admitted, stamps, puts]

end Traffic

/-! ### What holds between any two steps -/

/-- What is known of the message a call is about to send. -/
def SendStage.Sound (config : SessionConfig) : SendStage → Prop
  | .admitted m | .locked m => Wire.checkValues m = .ok ()
  | .stamped m => (∃ bytes, Wire.encode m = .ok bytes) ↔ config.HeaderWritable
  | _ => True

/-- The session is one its configuration leads to, every call's message is as far as its stage says,
and at most one call has the lock. -/
structure Traffic.Sound (config : SessionConfig) (t : Traffic) : Prop where
  reached : Session.Reached config t.connection.session
  calls : ∀ stage ∈ t.calls, stage.Sound config
  exclusive : ∀ {i j : Nat} {a b : SendStage}, t.calls[i]? = some a → t.calls[j]? = some b →
    a.holdsLock = true → b.holdsLock = true → i = j

theorem SendStage.Sound.step {config : SessionConfig} {c after : Connection} {now : Moment}
    {stage next : SendStage} (reached : Session.Reached config c.session)
    (sound : stage.Sound config) (step : stage.Step c now next after) :
    next.Sound config ∧ Session.Reached config after.session := by
  cases step with
  | letIn checked => exact ⟨checked, reached⟩
  | lock => exact ⟨sound, reached⟩
  | stamp stamps =>
    refine ⟨?_, reached.stamp stamps⟩
    exact (Session.encode_stamped_iff sound stamps).trans reached.headerWritable_iff
  | close => exact ⟨trivial, reached.disconnect⟩
  | refuse | turnAway | write | miss | release | rest | restFailed => exact ⟨trivial, reached⟩

namespace Traffic

theorem holdsLock_of_not_isLocked {t : Traffic} (free : t.isLocked = false) {stage : SendStage}
    (member : stage ∈ t.calls) : stage.holdsLock = false := by
  rw [isLocked, List.any_eq_false] at free
  simpa using free stage member

/-- A call that is about to hold the lock, or holds it, has no rival. -/
theorem Sound.holdsLock_of_ne {config : SessionConfig} {t : Traffic} (sound : t.Sound config)
    {now : Moment} {index other : Nat} {stage next rival : SendStage} {after : Connection}
    (here : t.calls[index]? = some stage) (may : t.mayAdvance stage = true)
    (step : stage.Step t.connection now next after) (holds : next.holdsLock = true)
    (there : t.calls[other]? = some rival) (different : index ≠ other) :
    rival.holdsLock = false := by
  -- It had the lock before, or takes it now; and taking it waits until nobody has it.
  rcases step.holdsLock holds with already | ⟨m, rfl⟩
  · rw [Bool.eq_false_iff]
    exact fun both => different (sound.exclusive here there already both)
  · have free : t.isLocked = false := by simpa [mayAdvance] using may
    exact holdsLock_of_not_isLocked free (List.mem_of_getElem? there)

theorem Sound.step {config : SessionConfig} {t t' : Traffic} {now : Moment} {event : TrafficEvent}
    (sound : t.Sound config) (moves : t.Moves now event t') : t'.Sound config := by
  cases moves with
  | wait => exact sound
  | aside _ keeps => exact ⟨keeps.reached sound.reached, sound.calls, sound.exclusive⟩
  | call m =>
    refine ⟨sound.reached, ?_, ?_⟩
    · intro stage member
      rw [List.mem_append, List.mem_singleton] at member
      rcases member with old | rfl
      · exact sound.calls stage old
      · trivial
    · -- The new call does not hold the lock, so both holders are old calls.
      have old {i : Nat} {a : SendStage} (there : (t.calls ++ [.called m])[i]? = some a)
          (holds : a.holdsLock = true) : t.calls[i]? = some a := by
        rw [List.getElem?_append] at there
        split at there
        · exact there
        · rw [List.getElem?_singleton] at there
          split at there
          · cases there
            cases holds
          · cases there
      intro i j a b here there holds holds'
      exact sound.exclusive (old here holds) (old there holds') holds holds'
  | @advance index stage next after here may step =>
    have sane := sound.calls stage (List.mem_of_getElem? here)
    obtain ⟨kept, reached⟩ := sane.step sound.reached step
    refine ⟨reached, ?_, ?_⟩
    · intro each member
      rcases List.mem_or_eq_of_mem_set member with old | rfl
      · exact sound.calls each old
      · exact kept
    · -- Two holders are either both old, or one of them is the call that has moved.
      intro i j a b first second holds holds'
      have alone {other : Nat} {rival : SendStage} (holds : next.holdsLock = true)
          (there : (t.calls.set index next)[other]? = some rival) (locks : rival.holdsLock = true) :
          index = other := by
        by_contra different
        rw [List.getElem?_set_ne different] at there
        rw [sound.holdsLock_of_ne here may step holds there different] at locks
        cases locks
      by_cases atFirst : index = i
      · subst atFirst
        rw [List.getElem?_set_self (List.getElem?_eq_some_iff.mp here).1] at first
        cases first
        exact alone holds second holds'
      · by_cases atSecond : index = j
        · subst atSecond
          rw [List.getElem?_set_self (List.getElem?_eq_some_iff.mp here).1] at second
          cases second
          exact (alone holds' first holds).symm
        · rw [List.getElem?_set_ne atFirst] at first
          rw [List.getElem?_set_ne atSecond] at second
          exact sound.exclusive first second holds holds'

/-- While a call holds the lock, whoever is seen to hold it is this call. -/
theorem Sound.eq_of_mem_set {config : SessionConfig} {t : Traffic} (sound : t.Sound config)
    {index : Nat} {stage next : SendStage} (here : t.calls[index]? = some stage)
    (holds : stage.holdsLock = true) {each : SendStage} (member : each ∈ t.calls.set index next)
    (locks : each.holdsLock = true) : each = next := by
  obtain ⟨i, there⟩ := List.mem_iff_getElem?.mp member
  by_cases same : index = i
  · subst same
    rw [List.getElem?_set_self (List.getElem?_eq_some_iff.mp here).1] at there
    exact (Option.some.inj there).symm
  · rw [List.getElem?_set_ne same] at there
    exact absurd (sound.exclusive here there holds locks) same

/-- A step changes the list of calls in one place only. -/
theorem mem_set_iff {calls : List SendStage} {index : Nat} {stage next writer : SendStage}
    (here : calls[index]? = some stage) (before : stage ≠ writer) (after : next ≠ writer) :
    writer ∈ calls.set index next ↔ writer ∈ calls := by
  constructor
  · intro member
    rcases List.mem_or_eq_of_mem_set member with old | rfl
    · exact old
    · exact absurd rfl after
  · intro member
    obtain ⟨other, there⟩ := List.mem_iff_getElem?.mp member
    have different : index ≠ other := by
      rintro rfl
      rw [here] at there
      exact before (Option.some.inj there)
    rw [← List.getElem?_set_ne different] at there
    exact List.mem_of_getElem? there

end Traffic

end FixBench
