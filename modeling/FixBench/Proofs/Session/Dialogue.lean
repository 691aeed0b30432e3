import Mathlib.Logic.Function.Basic
import FixBench.Proofs.Session.Operations

/-!
# Two sessions in dialogue

Two sessions name each other as counterparties, and what one of them stamps travels to the other on a
channel that keeps the order. They never disagree on the numbering, whatever they send, however the
steps of the two interleave, and wherever a message ends one of them.

One direction of a dialogue is `Aligned` when the messages on their way to the receiver carry the
numbers from the one it waits for up to the one the sender will use next. A receiver that is no
longer connected waits for nothing, so nothing is asked of its messages. Each step changes a sender,
a receiver or neither, and the other direction sees the same session in the other part: `KeepsSending`
and `KeepsReceiving` say what it must find unchanged.
-/
namespace FixBench

inductive Party where
  | left
  | right
  deriving DecidableEq, Repr

namespace Party

def other : Party → Party
  | left => right
  | right => left

theorem other_ne (party : Party) : party.other ≠ party := by
  cases party <;> decide

theorem other_other (party : Party) : party.other.other = party := by
  cases party <;> rfl

/-- There are no more than two. -/
theorem forall_iff (party : Party) {P : Party → Prop} :
    (∀ each, P each) ↔ P party ∧ P party.other := by
  constructor
  · exact fun all => ⟨all party, all party.other⟩
  · rintro ⟨this, that⟩ each
    cases party <;> cases each <;> assumption

end Party

structure Dialogue where
  session : Party → Session
  /-- Messages on their way to a party, oldest first. -/
  inFlight : Party → List Message
  /-- What the sessions have answered to the messages delivered to them, oldest first. -/
  answers : List (Except SessionFault Inbound)

inductive DialogueEvent where
  | stamp (party : Party) (m : Message)
  /-- The oldest message on its way to this party arrives. -/
  | deliver (party : Party)
  | poll (party : Party)
  | disconnect (party : Party)
  deriving DecidableEq, Repr

namespace Dialogue

def start (left right : Session) : Dialogue where
  session
    | .left => left
    | .right => right
  inFlight _ := []
  answers := []

/-- Puts another session in the place of one. -/
def replace (d : Dialogue) (party : Party) (s : Session) : Dialogue :=
  { d with session := Function.update d.session party s }

def step (d : Dialogue) (now : Moment) : DialogueEvent → Dialogue
  | .stamp party m =>
    match (d.session party).stamp m now with
    | .error _ => d
    | .ok (stamped, s) =>
      { d.replace party s with
        inFlight :=
          Function.update d.inFlight party.other (d.inFlight party.other ++ [stamped]) }
  | .deliver party =>
    match d.inFlight party with
    | [] => d
    | m :: rest =>
      let (answer, s) := (d.session party).inbound m now
      { d.replace party s with
        inFlight := Function.update d.inFlight party rest
        answers := d.answers ++ [answer] }
  | .poll party => d.replace party ((d.session party).poll now).2
  | .disconnect party => d.replace party (d.session party).disconnect

def run (d : Dialogue) : List (Moment × DialogueEvent) → Dialogue
  | [] => d
  | (now, event) :: rest => (d.step now event).run rest

end Dialogue

/-! ### One direction -/

/-- Messages with the header of a sender, numbered from `next` up to but not including `last`. -/
def Numbered (sender : SessionConfig) (next : Nat) : List Message → Nat → Prop
  | [], last => next = last
  | m :: rest, last =>
    SequenceNumbers.read? (m.get Tag.msgSeqNum) = some next ∧
      m.get Tag.senderCompId = some sender.sender.text ∧
      m.get Tag.targetCompId = some sender.target.text ∧
      Numbered sender (SequenceNumbers.following next) rest last

theorem numbered_append {sender : SessionConfig} {next last : Nat} {messages : List Message}
    {m : Message} (numbered : Numbered sender next messages last)
    (number : SequenceNumbers.read? (m.get Tag.msgSeqNum) = some last)
    (fromSender : m.get Tag.senderCompId = some sender.sender.text)
    (toTarget : m.get Tag.targetCompId = some sender.target.text) :
    Numbered sender next (messages ++ [m]) (SequenceNumbers.following last) := by
  induction messages generalizing next with
  | nil =>
    cases numbered
    exact ⟨number, fromSender, toTarget, rfl⟩
  | cons first rest ih =>
    obtain ⟨due, sender, target, later⟩ := numbered
    exact ⟨due, sender, target, ih later⟩

/-- The two ends of a numbering are as far apart as there are messages in between. -/
theorem eq_add_length_of_numbered {sender : SessionConfig} {next last : Nat}
    {messages : List Message} (numbered : Numbered sender next messages last)
    (small : last < Numeral.limit64) : last = (next + messages.length) % Numeral.limit64 := by
  induction messages generalizing next with
  | nil =>
    cases numbered
    exact (Nat.mod_eq_of_lt small).symm
  | cons m rest ih =>
    rw [ih numbered.2.2.2, SequenceNumbers.following, Nat.mod_add_mod, List.length_cons]
    congr 1
    omega

/-- The messages in flight from one session to another are numbered as both expect. -/
structure Aligned (sender receiver : Session) (inFlight : List Message) : Prop where
  target_eq : receiver.config.target = sender.config.sender
  sender_eq : receiver.config.sender = sender.config.target
  bounded : sender.sequences.nextOut < Numeral.limit64
  numbered : receiver.state.isConnected = true →
    Numbered sender.config receiver.sequences.nextIn inFlight sender.sequences.nextOut

/-- Nothing has changed that matters for messages on their way to a session, unless it has ended. -/
structure KeepsReceiving (before after : Session) : Prop where
  config : after.config = before.config
  nextIn : after.sequences.nextIn = before.sequences.nextIn
  connected : after.state.isConnected = true → before.state.isConnected = true

namespace Aligned

variable {sender sender' receiver receiver' : Session} {inFlight : List Message}

theorem transfer (aligned : Aligned sender receiver inFlight) (sending : KeepsSending sender sender')
    (receiving : KeepsReceiving receiver receiver') : Aligned sender' receiver' inFlight where
  target_eq := by rw [receiving.config, sending.config, aligned.target_eq]
  sender_eq := by rw [receiving.config, sending.config, aligned.sender_eq]
  bounded := by rw [sending.nextOut]; exact aligned.bounded
  numbered connected := by
    rw [sending.config, sending.nextOut, receiving.nextIn]
    exact aligned.numbered (receiving.connected connected)

/-- A message stamped takes its place at the end. -/
theorem stamp (aligned : Aligned sender receiver inFlight) {m stamped : Message} {now : Moment}
    (stamps : sender.stamp m now = .ok (stamped, sender')) :
    Aligned sender' receiver (inFlight ++ [stamped]) := by
  obtain ⟨-, rfl, rfl⟩ := (Session.stamp_eq_ok_iff _ _ _ _ _).mp stamps
  refine ⟨aligned.target_eq, aligned.sender_eq, SequenceNumbers.following_lt _, fun connected => ?_⟩
  apply numbered_append (aligned.numbered connected)
  · rw [Session.get_addHeader_msgSeqNum]
    exact SequenceNumbers.read?_toString aligned.bounded
  · exact Session.get_addHeader_senderCompId ..
  · exact Session.get_addHeader_targetCompId ..

/-- The oldest message on its way to a receiver that is connected is the one it waits for. -/
theorem inOrder {m : Message} (aligned : Aligned sender receiver (m :: inFlight))
    (connected : receiver.state.isConnected = true) : receiver.InOrder m := by
  obtain ⟨number, fromSender, toTarget, -⟩ := aligned.numbered connected
  rw [← aligned.target_eq] at fromSender
  rw [← aligned.sender_eq] at toTarget
  exact ⟨number, fromSender, toTarget⟩

/-- Delivering the oldest message is noticed by the receiver as one in order. -/
theorem deliver {m : Message} (aligned : Aligned sender receiver (m :: inFlight)) (now : Moment) :
    Aligned sender (receiver.inbound m now).2 inFlight := by
  cases connected : receiver.state.isConnected with
  | false =>
    rw [Session.inbound_of_not_connected m now connected]
    exact ⟨aligned.target_eq, aligned.sender_eq, aligned.bounded, by simp [connected]⟩
  | true =>
    obtain ⟨config, sequences, -⟩ :=
      Session.inbound_of_inOrder now connected (aligned.inOrder connected)
    refine ⟨by rw [config, aligned.target_eq], by rw [config, aligned.sender_eq], aligned.bounded,
      fun _ => ?_⟩
    rw [sequences]
    exact (aligned.numbered connected).2.2.2

end Aligned

/-! ### What one session's step means to the other direction -/

namespace Session

theorem keepsReceiving_stamp {s after : Session} {m stamped : Message} {now : Moment}
    (stamps : s.stamp m now = .ok (stamped, after)) : KeepsReceiving s after := by
  obtain ⟨-, -, rfl⟩ := (stamp_eq_ok_iff _ _ _ _ _).mp stamps
  exact ⟨rfl, rfl, id⟩

theorem keepsReceiving_poll (s : Session) (now : Moment) : KeepsReceiving s (s.poll now).2 := by
  obtain ⟨config, sequences, state⟩ := s.poll_keeps now
  refine ⟨config, by rw [sequences], fun connected => ?_⟩
  rcases state with same | ended
  · rwa [same] at connected
  · rw [ended] at connected
    cases connected

theorem keepsReceiving_disconnect (s : Session) : KeepsReceiving s s.disconnect :=
  ⟨rfl, rfl, fun connected => by cases connected⟩

end Session

namespace Aligned

variable {sender receiver : Session} {m : Message} {inFlight : List Message}

/-- The answer to the oldest message never concerns its header. -/
theorem inbound_fault (aligned : Aligned sender receiver (m :: inFlight)) (now : Moment)
    {fault : SessionFault} (refused : (receiver.inbound m now).1 = .error fault) :
    fault.concernsHeader = false := by
  cases connected : receiver.state.isConnected with
  | false =>
    rw [Session.inbound_of_not_connected m now connected] at refused
    cases refused
    rfl
  | true =>
    obtain ⟨-, -, faults⟩ :=
      Session.inbound_of_inOrder now connected (aligned.inOrder connected)
    exact faults fault refused

theorem nextIn_inbound_le (aligned : Aligned sender receiver (m :: inFlight)) (now : Moment) :
    (receiver.inbound m now).2.sequences.nextIn ≤ receiver.sequences.nextIn + 1 := by
  cases connected : receiver.state.isConnected with
  | false =>
    rw [Session.inbound_of_not_connected m now connected]
    exact Nat.le_succ _
  | true =>
    obtain ⟨-, sequences, -⟩ :=
      Session.inbound_of_inOrder now connected (aligned.inOrder connected)
    rw [sequences]
    exact Nat.mod_le _ _

end Aligned

/-! ### Runs -/

/-- What holds of a dialogue after `count` steps. -/
structure Agreed (count : Nat) (d : Dialogue) : Prop where
  aligned : ∀ party, Aligned (d.session party.other) (d.session party) (d.inFlight party)
  counted : ∀ party,
    (d.session party).sequences.nextIn + (d.inFlight party).length ≤ count + 1
  answers : ∀ fault, .error fault ∈ d.answers → fault.concernsHeader = false

namespace Agreed

variable {count : Nat} {d : Dialogue}

theorem mono (agreed : Agreed count d) : Agreed (count + 1) d where
  aligned := agreed.aligned
  counted party := Nat.le_succ_of_le (agreed.counted party)
  answers := agreed.answers

theorem replace (agreed : Agreed count d) {party : Party} {s : Session}
    (sending : KeepsSending (d.session party) s) (receiving : KeepsReceiving (d.session party) s) :
    Agreed count (d.replace party s) := by
  -- The party is the receiver in one direction and the sender in the other.
  obtain ⟨incoming, outgoing⟩ := (Party.forall_iff party).mp agreed.aligned
  obtain ⟨countedHere, countedThere⟩ := (Party.forall_iff party).mp agreed.counted
  rw [party.other_other] at outgoing
  refine ⟨(Party.forall_iff party).mpr ⟨?_, ?_⟩, (Party.forall_iff party).mpr ⟨?_, ?_⟩,
    agreed.answers⟩
  all_goals simp only [Dialogue.replace, party.other_other, Function.update_self,
    Function.update_of_ne party.other_ne]
  · exact incoming.transfer ⟨rfl, rfl⟩ receiving
  · exact outgoing.transfer sending ⟨rfl, rfl, id⟩
  · rwa [receiving.nextIn]
  · exact countedThere

theorem stamp (agreed : Agreed count d) (party : Party) (m : Message) (now : Moment) :
    Agreed (count + 1) (d.step now (.stamp party m)) := by
  cases stamps : (d.session party).stamp m now with
  | error fault =>
    -- What is refused changes nothing, but counts as a step.
    simp only [Dialogue.step, stamps]
    exact agreed.mono
  | ok result =>
    obtain ⟨stamped, s⟩ := result
    have receiving := Session.keepsReceiving_stamp stamps
    obtain ⟨incoming, outgoing⟩ := (Party.forall_iff party).mp agreed.aligned
    obtain ⟨countedHere, countedThere⟩ := (Party.forall_iff party).mp agreed.counted
    rw [party.other_other] at outgoing
    simp only [Dialogue.step, stamps]
    refine ⟨(Party.forall_iff party).mpr ⟨?_, ?_⟩, (Party.forall_iff party).mpr ⟨?_, ?_⟩,
      agreed.answers⟩
    all_goals simp only [Dialogue.replace, party.other_other, Function.update_self,
      Function.update_of_ne party.other_ne, Function.update_of_ne party.other_ne.symm]
    · exact incoming.transfer ⟨rfl, rfl⟩ receiving
    · exact outgoing.stamp stamps
    · rw [receiving.nextIn]
      omega
    · rw [List.length_append, List.length_singleton]
      omega

theorem deliver (agreed : Agreed count d) (party : Party) (now : Moment) :
    Agreed (count + 1) (d.step now (.deliver party)) := by
  cases waiting : d.inFlight party with
  | nil =>
    simp only [Dialogue.step, waiting]
    exact agreed.mono
  | cons m rest =>
    obtain ⟨incoming, outgoing⟩ := (Party.forall_iff party).mp agreed.aligned
    obtain ⟨countedHere, countedThere⟩ := (Party.forall_iff party).mp agreed.counted
    rw [party.other_other] at outgoing
    rw [waiting] at incoming countedHere
    simp only [Dialogue.step, waiting]
    refine ⟨(Party.forall_iff party).mpr ⟨?_, ?_⟩, (Party.forall_iff party).mpr ⟨?_, ?_⟩, ?_⟩
    rotate_right
    · intro fault member
      rw [List.mem_append, List.mem_singleton] at member
      rcases member with before | now'
      · exact agreed.answers fault before
      · exact incoming.inbound_fault now now'.symm
    all_goals simp only [Dialogue.replace, party.other_other, Function.update_self,
      Function.update_of_ne party.other_ne]
    · exact incoming.deliver now
    · exact outgoing.transfer (Session.keepsSending_inbound _ m now) ⟨rfl, rfl, id⟩
    · -- The message has gone from the queue into the counter, unless nobody was listening.
      have used := incoming.nextIn_inbound_le now
      rw [List.length_cons] at countedHere
      omega
    · omega

theorem step (agreed : Agreed count d) (now : Moment) (event : DialogueEvent) :
    Agreed (count + 1) (d.step now event) := by
  cases event with
  | stamp party m => exact agreed.stamp party m now
  | deliver party => exact agreed.deliver party now
  | poll party =>
    exact (agreed.replace (Session.keepsSending_poll _ now)
      (Session.keepsReceiving_poll _ now)).mono
  | disconnect party =>
    exact (agreed.replace (Session.keepsSending_disconnect _)
      (Session.keepsReceiving_disconnect _)).mono

theorem run (agreed : Agreed count d) (events : List (Moment × DialogueEvent)) :
    Agreed (count + events.length) (d.run events) := by
  induction events generalizing count d with
  | nil => exact agreed
  | cons first rest ih =>
    have later := ih (agreed.step first.1 first.2)
    rw [List.length_cons, Nat.add_comm rest.length, ← Nat.add_assoc]
    exact later

end Agreed

/-- Sessions fresh from connecting agree. -/
theorem agreed_start {left right : SessionConfig} (mirrored : right.sender = left.target)
    (mirrored' : right.target = left.sender) {l r : Session} {created connected : Moment}
    {created' connected' : Moment} (opened : Session.opened left created connected = .ok l)
    (opened' : Session.opened right created' connected' = .ok r) :
    Agreed 0 (Dialogue.start l r) := by
  rw [Session.opened_eq] at opened opened'
  cases opened
  cases opened'
  have one : (1 : Nat) < Numeral.limit64 := by decide
  refine ⟨(Party.forall_iff .left).mpr ⟨?_, ?_⟩, ?_, by simp [Dialogue.start]⟩
  · exact ⟨mirrored.symm, mirrored'.symm, one, fun _ => rfl⟩
  · exact ⟨mirrored', mirrored, one, fun _ => rfl⟩
  · intro party
    cases party <;> exact Nat.le_refl 1

/-- **The numbering is never in dispute.** Two sessions whose identifiers are each other's the other
way round are opened and exchange messages over channels that keep the order. Whatever they stamp,
and however stamping, delivery, polling and disconnecting interleave on the two sides, no answer to
a delivery is a fault of its number or its identifiers. And as long as a session is connected, the
next number of its counterparty is the number it waits for plus the messages on their way to it: in
64-bit arithmetic always, and in plain numbers in every run too short to exhaust these. -/
theorem numbering_agrees (left right : SessionConfig) (mirrored : right.sender = left.target)
    (mirrored' : right.target = left.sender) (created connected created' connected' : Moment) :
    ∃ l r, Session.opened left created connected = .ok l ∧
      Session.opened right created' connected' = .ok r ∧
      ∀ events : List (Moment × DialogueEvent),
        let d := (Dialogue.start l r).run events
        (∀ fault, .error fault ∈ d.answers → fault.concernsHeader = false) ∧
        ∀ party, (d.session party).state.isConnected = true →
          let sent := (d.session party.other).sequences.nextOut
          let reached := (d.session party).sequences.nextIn + (d.inFlight party).length
          sent = reached % Numeral.limit64 ∧
            (events.length + 1 < Numeral.limit64 → sent = reached) := by
  refine ⟨_, _, Session.opened_eq .., Session.opened_eq .., ?_⟩
  intro events
  have agreed := (agreed_start mirrored mirrored' (Session.opened_eq left created connected)
    (Session.opened_eq right created' connected')).run events
  refine ⟨agreed.answers, ?_⟩
  intro party connected
  have aligned := agreed.aligned party
  have apart := eq_add_length_of_numbered (aligned.numbered connected) aligned.bounded
  refine ⟨apart, fun few => apart.trans (Nat.mod_eq_of_lt ?_)⟩
  have counted := agreed.counted party
  omega

/-- Both sides log on, the left one sends a second logon behind a heartbeat, and only the heartbeat
has arrived when the right one sends its own. -/
theorem numbering_agrees_second_logon :
    let left : SessionConfig := .default ⟨"L", by decide, by decide⟩ ⟨"R", by decide, by decide⟩ "FIX.4.4"
    let right : SessionConfig := .default ⟨"R", by decide, by decide⟩ ⟨"L", by decide, by decide⟩ "FIX.4.2"
    let logon := Message.ofType "FIX.4.4" .logon
    let heartbeat := Message.ofType "FIX.4.4" .heartbeat
    let now : Moment := ⟨⟨0⟩, 0⟩
    let events : List (Moment × DialogueEvent) :=
      [(now, .stamp .left logon), (now, .deliver .right), (now, .stamp .right logon),
        (now, .deliver .left), (now, .stamp .left heartbeat), (now, .stamp .left logon),
        (now, .deliver .right), (now, .stamp .right heartbeat)]
    right.sender = left.target ∧ right.target = left.sender ∧
      ∃ l r, Session.opened left now now = .ok l ∧ Session.opened right now now = .ok r ∧
        let d := (Dialogue.start l r).run events
        (∀ fault, .error fault ∈ d.answers → fault.concernsHeader = false) ∧
        (∀ party, (d.session party).state.isConnected = true →
          (d.session party.other).sequences.nextOut =
            (d.session party).sequences.nextIn + (d.inFlight party).length) ∧
        (d.session .right).state = .active ∧ (d.inFlight .right).length = 1 := by
  intro left right logon heartbeat now events
  obtain ⟨l, r, opened, opened', agrees⟩ := numbering_agrees left right rfl rfl now now now now
  obtain ⟨answers, numbering⟩ := agrees events
  refine ⟨rfl, rfl, l, r, opened, opened', answers, fun party connected =>
    (numbering party connected).2 (by decide), ?_⟩
  rw [Session.opened_eq] at opened opened'
  cases opened
  cases opened'
  decide +kernel

end FixBench
