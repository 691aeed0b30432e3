import FixBench.Proofs.Link.Standing

/-!
# Conversations

The requests a connection is going to take are the messages of the frames that arrive on it, each due
when its turn comes (`InSequence`). What an acceptor says to one of them is an `Answer`: its own to what
concerns the session and to a type nobody knows, its application's to everything else. Answers make a
`Conversation`, and frames tell it as far as it has been `Told`.
-/
namespace FixBench

/-- What the application says in its own words can be written. -/
structure Application.Encodable {σ : Type} (app : Application σ) : Prop where
  response : ∀ {m : Message} {c : Connection} {s after : σ} {responses : List Message},
    app.onMessage m c s = (.ok responses, after) →
      ∀ response ∈ responses, ∃ bytes, Wire.encode response = .ok bytes
  refusal : ∀ {m : Message} {c : Connection} {s after : σ} {reason : RejectReason},
    app.onMessage m c s = (.error reason, after) → Wire.soh ∉ Utf8.encode reason.text

namespace Acceptor

variable {σ : Type}

/-! ### Requests -/

/-- The messages of frames; a frame that does not decode is skipped. -/
def messagesOf (frames : List (List UInt8)) : List Message :=
  frames.filterMap fun frame => (Wire.decode frame).toOption

/-- The message that is due, from the other side of the session, and no logon. -/
structure IsDue (settings : SessionConfig) (number : Nat) (m : Message) : Prop where
  number : ∃ text, m.get Tag.msgSeqNum = some text ∧ SequenceNumbers.Denotes text number
  sender : m.get Tag.senderCompId = some settings.target.text
  target : m.get Tag.targetCompId = some settings.sender.text
  no_logon : m.msgType ≠ .logon

/-- Each message is due when its turn comes. -/
def InSequence (settings : SessionConfig) : Nat → List Message → Prop
  | _, [] => True
  | number, m :: rest =>
    IsDue settings number m ∧ InSequence settings (SequenceNumbers.following number) rest

instance (settings : SessionConfig) (number : Nat) (m : Message) :
    Decidable (IsDue settings number m) :=
  decidable_of_iff
    (SequenceNumbers.read? (m.get Tag.msgSeqNum) = some number ∧
      m.get Tag.senderCompId = some settings.target.text ∧
      m.get Tag.targetCompId = some settings.sender.text ∧ m.msgType ≠ .logon)
    ⟨fun ⟨number, sender, target, type⟩ =>
      ⟨(SequenceNumbers.read?_eq_some_iff ..).mp number, sender, target, type⟩,
    fun ⟨number, sender, target, type⟩ =>
      ⟨(SequenceNumbers.read?_eq_some_iff ..).mpr number, sender, target, type⟩⟩

instance InSequence.decidable (settings : SessionConfig) :
    (number : Nat) → (messages : List Message) → Decidable (InSequence settings number messages)
  | _, [] => isTrue trivial
  | number, m :: rest =>
    have := InSequence.decidable settings (SequenceNumbers.following number) rest
    inferInstanceAs (Decidable (IsDue settings number m ∧ InSequence settings _ rest))

/-! ### Answers -/

/-- The circumstances of a conversation. -/
structure Visit (σ : Type) where
  app : Application σ
  settings : SessionConfig
  id : Nat
  /-- What may become of the application elsewhere. -/
  others : (σ → σ) → Prop
  first : Nat
  start : σ

/-- What the acceptor says to a message that it has taken under this number, and what becomes of the
application. -/
inductive Visit.Answer (visit : Visit σ) (m : Message) (number : Nat) (s : σ) :
    List Message → σ → Prop
  | heartbeat : m.msgType = .heartbeat → Answer visit m number s [] s
  | testRequest {reply : Message} : m.msgType = .testRequest →
      reply.get Tag.msgType = some MsgType.heartbeat.text →
      reply.get Tag.testReqId = m.get Tag.testReqId → Answer visit m number s [reply] s
  | logout {reply : Message} : m.msgType = .logout →
      reply.get Tag.msgType = some MsgType.logout.text → Answer visit m number s [reply] s
  | unsupported {code : String} {reject : Message} : m.msgType = .custom code →
      Rejects m number (unsupported code) reject →
      reject.get Tag.sessionRejectReason = some "11" → Answer visit m number s [reject] s
  | responses {c : Connection} {responses : List Message} {after : σ} :
      m.msgType.IsBusiness → (∀ code, m.msgType ≠ .custom code) →
      c.InService visit.settings visit.id → visit.app.onMessage m c s = (.ok responses, after) →
      Answer visit m number s responses after
  | refusal {c : Connection} {reason : RejectReason} {reject : Message} {after : σ} :
      m.msgType.IsBusiness → (∀ code, m.msgType ≠ .custom code) →
      c.InService visit.settings visit.id → visit.app.onMessage m c s = (.error reason, after) →
      Rejects m number reason reject → Answer visit m number s [reject] after

/-- The messages taken so far with the answer to each, the number that comes next, and the state of
the application. After a logout no message is taken. -/
inductive Visit.Conversation (visit : Visit σ) :
    List Message → List (List Message) → Nat → σ → Prop
  | start : Conversation visit [] [] visit.first visit.start
  | elsewhere {taken : List Message} {answers : List (List Message)} {number : Nat} {s : σ}
      {change : σ → σ} : Conversation visit taken answers number s → visit.others change →
      Conversation visit taken answers number (change s)
  | take {taken : List Message} {answers : List (List Message)} {number : Nat} {s after : σ}
      {m : Message} {answer : List Message} : Conversation visit taken answers number s →
      (∀ earlier ∈ taken, earlier.msgType ≠ .logout) → IsDue visit.settings number m →
      visit.Answer m number s answer after →
      Conversation visit (taken ++ [m]) (answers ++ [answer]) (SequenceNumbers.following number) after

/-- The frames convey the answers in their order, but for what has yet to be said. -/
def Told (answers : List (List Message)) (unsaid : List Message) (frames : List Sent) : Prop :=
  ∃ said, answers.flatten = said ++ unsaid ∧ List.Forall₂ Sent.Conveys frames said

theorem Told.say {answers : List (List Message)} {m : Message} {unsaid : List Message}
    {frames : List Sent} {frame : Sent} (told : Told answers (m :: unsaid) frames)
    (conveys : frame.Conveys m) : Told answers unsaid (frames ++ [frame]) := by
  obtain ⟨said, all, conveyed⟩ := told
  refine ⟨said ++ [m], ?_, List.rel_append conveyed (.cons conveys .nil)⟩
  rw [all, List.append_assoc, List.singleton_append]

theorem Told.owe {answers : List (List Message)} {frames : List Sent} (told : Told answers [] frames)
    (answer : List Message) : Told (answers ++ [answer]) answer frames := by
  obtain ⟨said, all, conveyed⟩ := told
  refine ⟨said, ?_, conveyed⟩
  rw [List.flatten_append, all, List.append_nil, List.flatten_singleton]

end Acceptor

end FixBench
