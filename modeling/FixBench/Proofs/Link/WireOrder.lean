import FixBench.Proofs.Link.Traffic

/-!
# The order on the wire

Frames leave a connection in the order of their numbers, and the numbers count them: however many
calls are sending at once, whatever arrives in between and whenever the connection closes
(`frames_in_order`). What a call reports is the number on the frame that it wrote, and a call that is
refused has written nothing and used no number.

The first part is an invariant of the whole connection (`Ordered`). The next number is one more than
the number of frames, except between stamping and writing, when it is two more; and the lock keeps
all but one call out of that gap. The second part is an invariant of one call (`Accounts`), which
says of every stage which numbers and which frames are to be found among the call's steps.

A header that cannot be written makes no exception. Every call that gets as far as writing fails
then, so no frame is ever written and there is nothing to put in order.
-/
namespace FixBench

/-- The bytes of a frame have one sequence number among their fields, and this is its value. -/
structure Sent.Carries (frame : Sent) (n : Nat) : Prop where
  encoded : Wire.encode frame.message = .ok frame.bytes
  number : (Wire.bodyFields frame.message).filter (·.tag = Tag.msgSeqNum) =
    [⟨Tag.msgSeqNum, toString n⟩]

theorem Sent.carries_of_get {m : Message} {n : Nat} {bytes : List UInt8}
    (found : m.get Tag.msgSeqNum = some (toString n)) (encodes : Wire.encode m = .ok bytes) :
    Sent.Carries ⟨m, bytes⟩ n := by
  refine ⟨encodes, ?_⟩
  rw [Wire.filter_tag_bodyFields m (by decide), found]
  rfl

/-- The number of the next message. -/
def Connection.nextOut (c : Connection) : Nat := c.session.sequences.nextOut

/-- A message that has been stamped has the number that was next, and the one that follows is next
now. -/
theorem Connection.nextOut_of_stamp {c : Connection} {m stamped : Message} {now : Moment}
    {session : Session} (stamps : c.session.stamp m now = .ok (stamped, session)) :
    stamped.get Tag.msgSeqNum = some (toString c.nextOut) ∧
      Connection.nextOut { c with session } = SequenceNumbers.following c.nextOut := by
  obtain ⟨-, rfl, rfl⟩ := (Session.stamp_eq_ok_iff _ _ _ _ _).mp stamps
  exact ⟨Session.get_addHeader_msgSeqNum .., rfl⟩

/-! ### The whole connection -/

/-- The frames carry one, two, three and so on. With a header that can be written, the next number is
the one after that of the last frame, or after that of the frame about to be written. -/
structure Traffic.Ordered (config : SessionConfig) (t : Traffic) : Prop where
  frames : ∀ {k : Nat} {frame : Sent}, t.connection.sent[k]? = some frame →
    frame.Carries ((k + 1) % Numeral.limit64)
  free : config.HeaderWritable → (∀ m, .stamped m ∉ t.calls) →
    t.connection.nextOut = (t.connection.sent.length + 1) % Numeral.limit64
  due : config.HeaderWritable → ∀ m, .stamped m ∈ t.calls →
    m.get Tag.msgSeqNum = some (toString ((t.connection.sent.length + 1) % Numeral.limit64)) ∧
      t.connection.nextOut = (t.connection.sent.length + 2) % Numeral.limit64

namespace Traffic.Ordered

variable {config : SessionConfig} {t t' : Traffic}

/-- Nothing is said of a connection but its frames, its next number and the calls that are about to
write. -/
theorem transfer (ordered : t.Ordered config) (sent : t'.connection.sent = t.connection.sent)
    (nextOut : t'.connection.nextOut = t.connection.nextOut)
    (writing : ∀ m, .stamped m ∈ t'.calls ↔ .stamped m ∈ t.calls) : t'.Ordered config where
  frames := by
    rw [sent]
    exact ordered.frames
  free fine none := by
    rw [sent, nextOut]
    exact ordered.free fine fun m member => none m ((writing m).mpr member)
  due fine m member := by
    rw [sent, nextOut]
    exact ordered.due fine m ((writing m).mp member)

/-- After stamping, the number given away is the one the next frame is to have. -/
theorem stamp (ordered : t.Ordered config) (sound : t.Sound config) {index : Nat} {now : Moment}
    {m stamped : Message} {session : Session} (here : t.calls[index]? = some (.locked m))
    (stamps : t.connection.session.stamp m now = .ok (stamped, session)) :
    Ordered config ⟨{ t.connection with session }, t.calls.set index (.stamped stamped)⟩ := by
  obtain ⟨number, nextOut⟩ := Connection.nextOut_of_stamp stamps
  -- The call has the lock, so no other one is about to write.
  have unwritten (m' : Message) : .stamped m' ∉ t.calls := by
    intro member
    obtain ⟨other, there⟩ := List.mem_iff_getElem?.mp member
    cases sound.exclusive here there rfl rfl
    rw [here] at there
    cases there
  refine ⟨ordered.frames, fun fine none => ?_, fun fine m' member => ?_⟩
  · exact absurd (List.mem_set (List.getElem?_eq_some_iff.mp here).1 _) (none stamped)
  · -- Nobody was about to write, so the number just given away counts the frames so far.
    have next := ordered.free fine unwritten
    cases sound.eq_of_mem_set here rfl member rfl
    rw [nextOut, SequenceNumbers.following, next, Nat.mod_add_mod]
    rw [next] at number
    exact ⟨number, rfl⟩

/-- Writing makes the frame that the number was given away for. -/
theorem write (ordered : t.Ordered config) (sound : t.Sound config) {index : Nat} {m : Message}
    {bytes : List UInt8} {result : Except SessionFault Nat}
    (here : t.calls[index]? = some (.stamped m)) (encodes : Wire.encode m = .ok bytes) :
    Ordered config ⟨{ t.connection with sent := t.connection.sent ++ [⟨m, bytes⟩] },
      t.calls.set index (.finishing result)⟩ := by
  -- That the message can be written says that every header can.
  have member := List.mem_of_getElem? here
  have fine : config.HeaderWritable := (sound.calls _ member).mp ⟨bytes, encodes⟩
  obtain ⟨number, nextOut⟩ := ordered.due fine m member
  refine ⟨?_, fun _ _ => ?_, fun _ m' member' => ?_⟩
  · intro k frame there
    rw [List.getElem?_append] at there
    split at there
    · exact ordered.frames there
    · rename_i last
      rw [List.getElem?_singleton] at there
      split at there
      · rename_i first
        have length : k = t.connection.sent.length := by omega
        cases there
        rw [length]
        exact Sent.carries_of_get number encodes
      · cases there
  · rw [List.length_append, List.length_singleton]
    exact nextOut
  · -- The writer has moved on, and no other call may be about to write.
    cases sound.eq_of_mem_set here rfl member' rfl

theorem step (ordered : t.Ordered config) (sound : t.Sound config) {now : Moment}
    {event : TrafficEvent} (moves : t.Moves now event t') : t'.Ordered config := by
  cases moves with
  | wait => exact ordered
  | aside _ keeps => exact ordered.transfer keeps.sent keeps.sending.nextOut fun _ => Iff.rfl
  | call m => exact ordered.transfer rfl rfl (by simp)
  | advance here may step =>
    cases step with
    | stamp stamps => exact ordered.stamp sound here stamps
    | write encodes => exact ordered.write sound here encodes
    | miss missed =>
      -- With this header nothing is ever written, so there is nothing to number.
      have unfit : ¬ config.HeaderWritable := fun fine =>
        missed ((sound.calls _ (List.mem_of_getElem? here)).mpr fine)
      exact ⟨ordered.frames, fun fine => absurd fine unfit, fun fine => absurd fine unfit⟩
    | refuse | letIn | lock | turnAway | release | close | rest | restFailed =>
      exact ordered.transfer rfl rfl fun _ => mem_set_iff here (by simp) (by simp)

end Traffic.Ordered

/-! ### One call -/

namespace Connection

/-- The numbers that have been used up from one moment to another. -/
def numbersTaken (before after : Connection) : List Nat :=
  if after.nextOut = before.nextOut then [] else [before.nextOut]

/-- The frames that have been written from one moment to another. -/
def framesWritten (before after : Connection) : List Sent := after.sent.drop before.sent.length

theorem numbersTaken_of_eq {before after : Connection} (same : after.nextOut = before.nextOut) :
    before.numbersTaken after = [] := if_pos same

theorem framesWritten_of_eq {before after : Connection} (same : after.sent = before.sent) :
    before.framesWritten after = [] := by
  rw [framesWritten, same, List.drop_length]

end Connection

/-- The numbers and frames to be found among the steps of a call that has come to a stage. -/
def SendStage.Accounts (numbers : List Nat) (frames : List Sent) : SendStage → Prop
  | .called _ | .admitted _ | .locked _ => numbers = [] ∧ frames = []
  | .stamped m => ∃ n < Numeral.limit64, m.get Tag.msgSeqNum = some (toString n) ∧
      numbers = [n] ∧ frames = []
  | .finishing result | .returned result =>
    match result with
    | .error _ => numbers = [] ∧ frames = []
    | .ok seq => ∃ frame : Sent, frame.Carries seq ∧ numbers = [seq] ∧ frames = [frame]
  | .failing _ | .failed _ => ∃ n, numbers = [n] ∧ frames = []

theorem SendStage.Accounts.append_nothing {stage : SendStage} {numbers more : List Nat}
    {frames further : List Sent} (accounts : stage.Accounts numbers frames) (taken : more = [])
    (written : further = []) : stage.Accounts (numbers ++ more) (frames ++ further) := by
  rw [taken, written, List.append_nil, List.append_nil]
  exact accounts

theorem SendStage.Accounts.step {c after : Connection} {now : Moment} {stage next : SendStage}
    {numbers : List Nat} {frames : List Sent} (bounded : c.nextOut < Numeral.limit64)
    (accounts : stage.Accounts numbers frames) (step : stage.Step c now next after) :
    next.Accounts (numbers ++ c.numbersTaken after) (frames ++ c.framesWritten after) := by
  cases step with
  | stamp stamps =>
    obtain ⟨rfl, rfl⟩ := accounts
    obtain ⟨number, nextOut⟩ := Connection.nextOut_of_stamp stamps
    refine ⟨c.nextOut, bounded, number, ?_, Connection.framesWritten_of_eq rfl⟩
    rw [Connection.numbersTaken, nextOut, if_neg (SequenceNumbers.following_ne _)]
    rfl
  | @write m bytes encodes =>
    -- What the call is going to report is read off the message it has written.
    obtain ⟨n, small, number, rfl, rfl⟩ := accounts
    rw [Message.seqNum?_of_get number small]
    refine ⟨⟨m, bytes⟩, Sent.carries_of_get number encodes, ?_, ?_⟩
    · exact congrArg ([n] ++ ·) (Connection.numbersTaken_of_eq rfl)
    · rw [Connection.framesWritten, List.drop_left]
      rfl
  | miss =>
    obtain ⟨n, -, -, rfl, rfl⟩ := accounts
    rw [Connection.numbersTaken_of_eq rfl, Connection.framesWritten_of_eq rfl]
    exact ⟨n, rfl, rfl⟩
  | refuse | letIn | lock | turnAway | release | close | rest | restFailed =>
    exact SendStage.Accounts.append_nothing accounts (Connection.numbersTaken_of_eq rfl)
      (Connection.framesWritten_of_eq rfl)

namespace Traffic

/-- What is to be seen on the connection at a step, if it is a step of this call. -/
def seenAt {α : Type} (observe : Connection → Connection → List α) (index : Nat)
    (event : TrafficEvent) (before after : Traffic) : List α :=
  if event = .advance index then observe before.connection after.connection else []

/-- What is to be seen on the connection at the steps of one call, over a run. -/
def ofCall {α : Type} (observe : Connection → Connection → List α) (index : Nat) (t : Traffic) :
    List (Moment × TrafficEvent) → List α
  | [] => []
  | (now, event) :: rest =>
    seenAt observe index event t (t.step now event) ++ (t.step now event).ofCall observe index rest

/-- The same for a call by its place; before the call is made nothing has been seen of it. -/
def Accounts (t : Traffic) (index : Nat) (numbers : List Nat) (frames : List Sent) : Prop :=
  match t.calls[index]? with
  | none => numbers = [] ∧ frames = []
  | some stage => stage.Accounts numbers frames

theorem Accounts.append_nothing {t : Traffic} {index : Nat} {numbers more : List Nat}
    {frames further : List Sent} (accounts : t.Accounts index numbers frames) (taken : more = [])
    (written : further = []) : t.Accounts index (numbers ++ more) (frames ++ further) := by
  rw [taken, written, List.append_nil, List.append_nil]
  exact accounts

theorem Accounts.step {config : SessionConfig} {t t' : Traffic} {now : Moment}
    {event : TrafficEvent} {index : Nat} {numbers : List Nat} {frames : List Sent}
    (sound : t.Sound config) (moves : t.Moves now event t')
    (accounts : t.Accounts index numbers frames) :
    t'.Accounts index (numbers ++ seenAt Connection.numbersTaken index event t t')
      (frames ++ seenAt Connection.framesWritten index event t t') := by
  -- Only a step of the call itself can add to its account.
  cases moves with
  | wait i =>
    refine accounts.append_nothing ?_ ?_
    · rw [seenAt, Connection.numbersTaken_of_eq rfl, ite_self]
    · rw [seenAt, Connection.framesWritten_of_eq rfl, ite_self]
  | aside other _ =>
    exact Accounts.append_nothing accounts (if_neg (other index)) (if_neg (other index))
  | call m =>
    refine Accounts.append_nothing ?_ (if_neg (by simp)) (if_neg (by simp))
    unfold Accounts at accounts ⊢
    rcases Nat.lt_trichotomy index t.calls.length with old | rfl | later
    · rw [List.getElem?_append_left old]
      exact accounts
    · -- This is the call that is being made.
      rw [List.getElem?_eq_none (Nat.le_refl _)] at accounts
      rw [List.getElem?_concat_length]
      exact accounts
    · rw [List.getElem?_eq_none (Nat.le_of_lt later)] at accounts
      rw [List.getElem?_eq_none (by simpa using later)]
      exact accounts
  | @advance i stage next after here may step =>
    by_cases own : i = index
    · subst own
      unfold Accounts at accounts ⊢
      rw [here] at accounts
      rw [List.getElem?_set_self (List.getElem?_eq_some_iff.mp here).1, seenAt, seenAt, if_pos rfl,
        if_pos rfl]
      exact accounts.step sound.reached.nextOut_lt step
    · have other : TrafficEvent.advance i ≠ .advance index := by simpa using own
      refine Accounts.append_nothing ?_ (if_neg other) (if_neg other)
      unfold Accounts at accounts ⊢
      rw [List.getElem?_set_ne own]
      exact accounts

/-! ### Runs -/

theorem Sound.run {config : SessionConfig} {t : Traffic} (sound : t.Sound config)
    (ordered : t.Ordered config) (events : List (Moment × TrafficEvent)) :
    (t.run events).Sound config ∧ (t.run events).Ordered config := by
  induction events generalizing t with
  | nil => exact ⟨sound, ordered⟩
  | cons first rest ih =>
    have moves := t.moves_step first.1 first.2
    exact ih (sound.step moves) (ordered.step sound moves)

theorem Accounts.run {config : SessionConfig} {t : Traffic} (sound : t.Sound config) {index : Nat}
    {numbers : List Nat} {frames : List Sent} (accounts : t.Accounts index numbers frames)
    (events : List (Moment × TrafficEvent)) :
    (t.run events).Accounts index (numbers ++ t.ofCall Connection.numbersTaken index events)
      (frames ++ t.ofCall Connection.framesWritten index events) := by
  induction events generalizing t numbers frames with
  | nil => exact accounts.append_nothing rfl rfl
  | cons first rest ih =>
    have moves := t.moves_step first.1 first.2
    rw [ofCall, ofCall, ← List.append_assoc, ← List.append_assoc]
    exact ih (sound.step moves) (accounts.step sound moves)

/-- No step writes more than one frame. -/
theorem length_sent_run_le (t : Traffic) (events : List (Moment × TrafficEvent)) :
    (t.run events).connection.sent.length ≤ t.connection.sent.length + events.length := by
  induction events generalizing t with
  | nil => exact Nat.le_refl _
  | cons first rest ih =>
    obtain ⟨now, event⟩ := first
    have later := ih (t.step now event)
    -- Of all the stages of a call only `write` writes.
    have one : (t.step now event).connection.sent.length ≤ t.connection.sent.length + 1 := by
      have moves := t.moves_step now event
      generalize t.step now event = t' at moves
      cases moves with
      | wait | call => exact Nat.le_succ _
      | aside _ keeps =>
        rw [keeps.sent]
        exact Nat.le_succ _
      | advance _ _ step =>
        cases step with
        | write => simp
        | _ => exact Nat.le_succ _
    rw [List.length_cons]
    show (run _ rest).connection.sent.length ≤ _
    omega

theorem sound_start {config : SessionConfig} {session : Session}
    (reached : Session.Reached config session) (id : Nat) :
    (start (Connection.create id session)).Sound config where
  reached := reached
  calls := by simp [start]
  exclusive := by simp [start]

theorem ordered_start {config : SessionConfig} {session : Session}
    (first : session.sequences.nextOut = 1) (id : Nat) :
    (start (Connection.create id session)).Ordered config where
  frames := by simp [start, Connection.create]
  free _ _ := first
  due := by simp [start]

end Traffic

/-- **The order on the wire is the order of the numbers.** On a connection that has just been opened,
any number of calls send at the same time, and frames arrive, the clock is looked at and the
connection is closed in between. However their steps interleave, the frames written carry one, two,
three and so on: in 64-bit arithmetic always, and in plain numbers in every run too short to exhaust
these. A call that has returned a number has used up that number and no other, and has written one
frame, which carries it. A call that has been refused, by the closed connection, for a value or by
the session's state, has used up no number and written nothing. -/
theorem frames_in_order (config : SessionConfig) (created connected : Moment) :
    ∃ session, Session.opened config created connected = .ok session ∧
      ∀ (id : Nat) (events : List (Moment × TrafficEvent)),
        let before := Traffic.start (Connection.create id session)
        let after := before.run events
        (∀ (k : Nat) (frame : Sent), after.connection.sent[k]? = some frame →
          frame.Carries ((k + 1) % Numeral.limit64) ∧
            (events.length < Numeral.limit64 → frame.Carries (k + 1))) ∧
        ∀ index,
          (∀ seq, after.calls[index]? = some (.returned (.ok seq)) →
            ∃ frame : Sent, frame.Carries seq ∧
              before.ofCall Connection.numbersTaken index events = [seq] ∧
              before.ofCall Connection.framesWritten index events = [frame]) ∧
          ∀ fault, after.calls[index]? = some (.returned (.error fault)) →
            before.ofCall Connection.numbersTaken index events = [] ∧
              before.ofCall Connection.framesWritten index events = [] := by
  have opened := Session.opened_eq config created connected
  refine ⟨_, opened, ?_⟩
  intro id events before after
  have started := Traffic.sound_start (.opened opened) id
  obtain ⟨-, ordered⟩ := started.run (Traffic.ordered_start rfl id) events
  refine ⟨?_, ?_⟩
  · intro k frame there
    have carries := ordered.frames there
    refine ⟨carries, fun few => ?_⟩
    have place := (List.getElem?_eq_some_iff.mp there).1
    have short : after.connection.sent.length ≤ 0 + events.length :=
      before.length_sent_run_le events
    rwa [Nat.mod_eq_of_lt (by omega)] at carries
  · intro index
    have unseen : before.Accounts index [] [] := ⟨rfl, rfl⟩
    have accounts := unseen.run started events
    rw [List.nil_append, List.nil_append] at accounts
    refine ⟨fun seq returned => ?_, fun fault returned => ?_⟩
    · rw [Traffic.Accounts, returned] at accounts
      exact accounts
    · rw [Traffic.Accounts, returned] at accounts
      exact accounts

/-- Four calls at once, before the logon has been answered. A logon and a logout are sent, the logout
first, although the connection is closed while it is being written; a heartbeat comes too early, and
the text of a second logon would be read as two fields. -/
theorem frames_in_order_four_calls :
    let config : SessionConfig :=
      .default ⟨"CLIENT", by decide, by decide⟩ ⟨"SERVER", by decide, by decide⟩ "FIX.4.4"
    let logon := Message.ofType "FIX.4.4" .logon
    let calls : List TrafficEvent := [.call logon, .call (.ofType "FIX.4.4" .heartbeat),
      .call (logon.set Tag.text "note\x01100=INJECTED"), .call (.ofType "FIX.4.4" .logout)]
    let steps : List TrafficEvent := [.advance 0, .advance 3, .advance 2, .advance 1, .advance 3,
      .advance 0, .advance 3, .cancel, .advance 3, .inbound [], .advance 3, .advance 0, .advance 0,
      .poll, .advance 0, .disconnect, .advance 0, .advance 1, .advance 1, .advance 1]
    let now : Moment := ⟨⟨0⟩, 0⟩
    let events := (calls ++ steps).map fun event => (now, event)
    ∃ session, Session.opened config now now = .ok session ∧
      let before := Traffic.start (Connection.create 1 session)
      let after := before.run events
      after.connection.sent.length = 2 ∧
        (∀ (k : Nat) (frame : Sent), after.connection.sent[k]? = some frame →
          frame.Carries (k + 1)) ∧
        (∃ frame : Sent, frame.Carries 2 ∧
          before.ofCall Connection.framesWritten 0 events = [frame]) ∧
        (∃ frame : Sent, frame.Carries 1 ∧
          before.ofCall Connection.framesWritten 3 events = [frame]) ∧
        before.ofCall Connection.numbersTaken 1 events = [] ∧
        before.ofCall Connection.numbersTaken 2 events = [] := by
  intro config logon calls steps now events
  obtain ⟨session, opened, order⟩ := frames_in_order config now now
  refine ⟨session, opened, ?_⟩
  intro before after
  have order := order 1 events
  extract_lets at order
  obtain ⟨frames, eachCall⟩ := order
  have run : after.connection.sent.length = 2 ∧
      after.calls[0]? = some (.returned (.ok 2)) ∧
      after.calls[1]? = some (.returned (.error
        (.invalidState SessionState.active.text SessionState.disconnected.text))) ∧
      after.calls[2]? = some (.returned (.error
        (.unencodable (.fieldValue Tag.text "value contains SOH")))) ∧
      after.calls[3]? = some (.returned (.ok 1)) := by
    rw [Session.opened_eq] at opened
    cases opened
    decide +kernel
  obtain ⟨two, logonSent, heartbeatRefused, textRefused, logoutSent⟩ := run
  obtain ⟨first, carries, -, written⟩ := (eachCall 0).1 2 logonSent
  obtain ⟨third, carries', -, written'⟩ := (eachCall 3).1 1 logoutSent
  exact ⟨two, fun k frame there => (frames k frame there).2 (by decide), ⟨first, carries, written⟩,
    ⟨third, carries', written'⟩, ((eachCall 1).2 _ heartbeatRefused).1,
    ((eachCall 2).2 _ textRefused).1⟩

end FixBench
