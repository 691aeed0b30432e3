import FixBench.Link.Acceptor
import FixBench.Proofs.Link.Sending
import FixBench.Proofs.Session.Inbound
import FixBench.Proofs.Session.Liveness
import FixBench.Proofs.View.Reading

/-!
# What an acceptor says can be written

An acceptor answers in its own words or in its application's. Its own are made of texts that have been
on the wire before and of numbers, so they can be written, and so can the header that its configuration
gives them (`speaks_sessionConfig`). What a frame `Conveys` is the message under that header.
-/
namespace FixBench

namespace Wire

/-! ### What has been received -/

theorem writable_of_get_decode {input : List UInt8} {m : Message} (decoded : decode input = .ok m)
    {tag : Tag} {value : String} (found : m.get tag = some value) : Writable tag value :=
  writable_of_decode decoded _ (Message.mem_of_get found)

/-- The type opens every body. -/
theorem get_msgType_of_decode {input : List UInt8} {m : Message} (decoded : decode input = .ok m) :
    m.get Tag.msgType = some m.msgTypeText := by
  obtain ⟨frame, valid, -, carries⟩ := decode_sound decoded
  have first := valid.body_first
  rw [map_number_of_denotes carries.fields] at first
  have typed : Tag.msgType ∈ m.fields.map Field.tag :=
    (toNat_mem_numbers_iff _ _).mp (List.mem_of_mem_head? first)
  have present : m.contains Tag.msgType = true := by
    rw [Message.contains_iff]
    exact List.mem_map.mp typed
  rw [Message.contains_eq] at present
  obtain ⟨text, found⟩ := Option.isSome_iff_exists.mp present
  rw [Message.msgTypeText, found]
  rfl

theorem checkValues_ofType {version : String} (type : MsgType)
    (writable : Writable Tag.beginString version)
    (typed : checkValue Tag.msgType type.text = .ok ()) :
    checkValues (.ofType version type) = .ok () := by
  rw [checkValues_eq_ok_iff]
  refine ⟨writable, ?_⟩
  intro field member
  have only := List.mem_singleton.mp (List.mem_filter.mp member).1
  rw [only]
  exact (checkValue_eq_ok_iff _ _).mp typed

end Wire

/-! ### The session's own messages -/

namespace Message

/-- The logon of either side, before it has its header. -/
def logonAt (version : String) (seconds : Nat) : Message :=
  ((Message.ofType version .logon).set Tag.encryptMethod "0").set Tag.heartBtInt (toString seconds)

theorem checkValues_logonAt_iff (version : String) (seconds : Nat) :
    Wire.checkValues (logonAt version seconds) = .ok () ↔ Wire.Writable Tag.beginString version := by
  constructor
  · intro checked
    exact ((Wire.checkValues_eq_ok_iff _).mp checked).1
  · intro speakable
    have plain := Wire.checkValues_ofType .logon speakable (by decide)
    have first := (Wire.checkValues_set_iff plain "0" (by decide)).mpr
      ((Wire.checkValue_eq_ok_iff Tag.encryptMethod "0").mp (by decide))
    exact (Wire.checkValues_set_iff first _ (by decide)).mpr
      (Wire.writable_toString Tag.heartBtInt (by decide) seconds)

end Message

namespace Session

variable {s : Session}

theorem checkValues_heartbeatReply (version : Wire.Writable Tag.beginString s.config.version)
    {input : List UInt8} {m : Message} (decoded : Wire.decode input = .ok m) :
    Wire.checkValues (s.heartbeatReply m) = .ok () := by
  have plain := Wire.checkValues_ofType .heartbeat version (by decide)
  exact Wire.checkValues_setIfSome plain (by decide) fun _ found =>
    Wire.writable_of_get_decode decoded found

theorem checkValues_logoutMessage (version : Wire.Writable Tag.beginString s.config.version) :
    Wire.checkValues (s.logoutMessage none) = .ok () :=
  Wire.checkValues_ofType .logout version (by decide)

theorem writable_testReqId (now : Moment) : Wire.Writable Tag.testReqId now.testReqId :=
  Wire.Writable.append ((Wire.checkValue_eq_ok_iff Tag.testReqId "TEST").mp (by decide))
    (Wire.inline_toString now.wall)

theorem checkValues_livenessMessage (version : Wire.Writable Tag.beginString s.config.version)
    {l : Liveness} {now : Moment} {action : LivenessAction} (polled : (l.poll now).1 = some action)
    {m : Message} (said : s.livenessMessage action = some m) : Wire.checkValues m = .ok () := by
  cases action with
  | sendHeartbeat =>
    cases said
    exact Wire.checkValues_ofType .heartbeat version (by decide)
  | sendTestRequest id =>
    cases said
    have plain := Wire.checkValues_ofType .testRequest version (by decide)
    refine (Wire.checkValues_set_iff plain _ (by decide)).mpr ?_
    rw [Liveness.testReqId_of_poll polled]
    exact writable_testReqId now
  | timedOut => cases said

end Session

/-! ### Rejects -/

theorem Message.seqNum?_of_read? {m : Message} {n : Nat}
    (read : SequenceNumbers.read? (m.get Tag.msgSeqNum) = some n) : m.seqNum? = some n := by
  obtain ⟨text, found, nonempty, digits, rfl, small⟩ :=
    (SequenceNumbers.read?_eq_some_iff _ _).mp read
  rw [seqNum?, found, Option.bind_some]
  show (Numeral.unsigned Numeral.limit64 text).toOption = _
  rw [Numeral.unsigned_of_isDigit nonempty digits small]
  rfl

namespace Acceptor

theorem checkValues_rejectFor {input : List UInt8} {m : Message}
    (decoded : Wire.decode input = .ok m) {reason : RejectReason}
    (fit : Wire.soh ∉ Utf8.encode reason.text) :
    Wire.checkValues (rejectFor m reason) = .ok () := by
  have plain := Wire.checkValues_ofType .reject (Wire.writable_version_of_decode decoded) (by decide)
  have first := (Wire.checkValues_set_iff plain _ (by decide)).mpr
    (Wire.writable_toString Tag.refSeqNum (by decide) (m.seqNum?.getD 0))
  have typed : Wire.Writable Tag.refMsgType m.msgTypeText :=
    (Wire.writable_of_get_decode decoded (Wire.get_msgType_of_decode decoded)).of_tag (by decide)
  have second := (Wire.checkValues_set_iff first _ (by decide)).mpr typed
  have third := (Wire.checkValues_set_iff second _ (by decide)).mpr
    (Wire.writable_toString Tag.sessionRejectReason (by decide) reason.code)
  refine Wire.checkValues_setIfSome (Wire.checkValues_setIfSome third (by decide) ?_) (by decide) ?_
  · intro text found
    split at found
    · cases found
    · rename_i nonempty
      cases found
      exact ⟨by decide, nonempty, fit⟩
  · intro text found
    obtain ⟨tag, -, rfl⟩ := Option.map_eq_some_iff.mp found
    exact Wire.writable_toString Tag.refTagId (by decide) tag.toNat

/-- A session reject of a message that has been accepted under a number. -/
structure Rejects (m : Message) (number : Nat) (reason : RejectReason) (reject : Message) : Prop where
  type : reject.get Tag.msgType = some MsgType.reject.text
  refSeqNum : reject.get Tag.refSeqNum = some (toString number)
  refMsgType : reject.get Tag.refMsgType = m.get Tag.msgType
  code : reject.get Tag.sessionRejectReason = some (toString reason.code)
  text : reject.get Tag.text = if reason.text = "" then none else some reason.text
  refTag : reject.get Tag.refTagId = reason.refTag.map fun tag => toString tag.toNat

theorem rejects_rejectFor {m : Message} {number : Nat}
    (typed : m.get Tag.msgType = some m.msgTypeText) (numbered : m.seqNum? = some number)
    (reason : RejectReason) : Rejects m number reason (rejectFor m reason) := by
  -- Each field is set once, under a tag of its own.
  refine ⟨?_, ?_, ?_, ?_, ?_, ?_⟩ <;>
    simp (disch := decide) only [rejectFor, Message.get_setIfSome_of_ne, Message.get_set_of_ne,
      Message.get_set_same, Message.get_setIfSome_same]
  · rfl
  · rw [numbered]
    rfl
  · exact typed.symm
  · exact Option.or_none
  · exact Option.or_none

end Acceptor

/-! ### Sending -/

/-- The texts of the configuration that go into every message can be written. -/
structure SessionConfig.Speaks (c : SessionConfig) : Prop where
  version : Wire.Writable Tag.beginString c.version
  header : c.HeaderWritable

theorem CompId.ofText?_eq_some_iff (text : String) (id : CompId) :
    ofText? text = some id ↔ id.text = text := by
  obtain ⟨own, nonempty, short⟩ := id
  unfold ofText?
  constructor
  · intro read
    split at read
    · cases read
      rfl
    · cases read
  · rintro rfl
    rw [dif_pos ⟨nonempty, short⟩]

theorem Message.get_of_getD {m : Message} {tag : Tag} {text : String} (nonempty : text ≠ "")
    (value : (m.get tag).getD "" = text) : m.get tag = some text := by
  cases found : m.get tag with
  | none =>
    rw [found] at value
    exact absurd value.symm nonempty
  | some written =>
    rw [found] at value
    exact congrArg some value

/-- A logon names its client and is addressed to the acceptor, which may expect one client only. -/
theorem Acceptor.checkLogon_eq_ok_iff (config : AcceptorConfig) (first : Message) (client : CompId) :
    checkLogon config first = .ok client ↔
      first.msgType = .logon ∧ first.get Tag.targetCompId = some config.compId.text ∧
        first.get Tag.senderCompId = some client.text ∧
          ∀ expected ∈ config.expectedClient, client.text = expected.text := by
  constructor
  · intro admitted
    unfold checkLogon at admitted
    dsimp only at admitted
    split at admitted
    · cases admitted
    rename_i logon
    split at admitted
    · cases admitted
    rename_i addressed
    have target := Message.get_of_getD config.compId.nonempty (Decidable.not_not.mp addressed)
    refine ⟨Decidable.not_not.mp logon, target, ?_⟩
    -- What is missing counts as empty, and no identifier is.
    have named {sender : String} (value : (first.get Tag.senderCompId).getD "" = sender)
        (read : CompId.ofText? sender = some client) :
        first.get Tag.senderCompId = some client.text ∧ client.text = sender := by
      have text := (CompId.ofText?_eq_some_iff _ _).mp read
      exact ⟨Message.get_of_getD client.nonempty (value.trans text.symm), text⟩
    split at admitted
    · rename_i expected only
      rw [only]
      split at admitted
      · cases admitted
      rename_i known
      split at admitted
      · rename_i read
        cases admitted
        obtain ⟨sender, text⟩ := named rfl read
        refine ⟨sender, fun other same => ?_⟩
        cases same
        exact text.trans (Decidable.not_not.mp known)
      · cases admitted
    · rename_i anyone
      rw [anyone]
      split at admitted
      · rename_i read
        cases admitted
        exact ⟨(named rfl read).1, by rintro _ ⟨⟩⟩
      · cases admitted
  · rintro ⟨logon, target, sender, only⟩
    have read := (CompId.ofText?_eq_some_iff _ _).mpr (Eq.refl client.text)
    unfold checkLogon
    simp only [logon, target, sender, Option.getD_some, ne_eq, not_true_eq_false, if_false]
    cases expects : config.expectedClient with
    | none => simp only [read]; rfl
    | some expected =>
      have same := only expected expects
      rw [same] at read
      simp only [same, not_true_eq_false, if_false, read]
      rfl

/-- The texts come from the acceptor's own identifier and from the logon. -/
theorem Acceptor.speaks_sessionConfig {config : AcceptorConfig} {client : CompId}
    {input : List UInt8} {first : Message} (decoded : Wire.decode input = .ok first)
    (admitted : checkLogon config first = .ok client) :
    (sessionConfig config client first).Speaks := by
  obtain ⟨-, target, sender, -⟩ := (checkLogon_eq_ok_iff ..).mp admitted
  have writable {tag : Tag} {value : String} (found : first.get tag = some value) :=
    Wire.writable_of_get_decode decoded found
  refine ⟨Wire.writable_version_of_decode decoded, ?_, ?_, ?_, ?_⟩
  · exact (writable target).of_tag (by decide)
  · exact (writable sender).of_tag (by decide)
  · rintro sub ⟨⟩
  · intro sub found
    exact (writable found).of_tag (by decide)

/-! ### What a frame conveys -/

/-- What a session writes into every message. -/
def Tag.stamped : List Tag :=
  [senderCompId, targetCompId, msgSeqNum, sendingTime, senderSubId, targetSubId]

namespace Message

/-- The fields that no session writes. -/
def payload (m : Message) : List Field := m.fields.filter fun field => field.tag ∉ Tag.stamped

theorem payload_set (m : Message) {tag : Tag} (value : String) (stamped : tag ∈ Tag.stamped) :
    (m.set tag value).payload = m.payload :=
  filter_put (by simp [stamped]) value m.fields

theorem payload_setIfSome (m : Message) {tag : Tag} (value : Option String)
    (stamped : tag ∈ Tag.stamped) : (m.setIfSome tag value).payload = m.payload := by
  cases value with
  | none => rfl
  | some value => exact m.payload_set value stamped

theorem get_eq_of_payload {m m' : Message} (same : m.payload = m'.payload) {tag : Tag}
    (other : tag ∉ Tag.stamped) : m.get tag = m'.get tag := by
  have kept (m : Message) : lookup tag m.payload = m.get tag :=
    lookup_filter (by simp [other]) m.fields
  rw [← kept, same, kept]

theorem beginString_setIfSome (m : Message) (tag : Tag) (value : Option String) :
    (m.setIfSome tag value).beginString = m.beginString := by
  cases value <;> rfl

end Message

/-- The frame carries the message, with a header that a session has written. -/
structure Sent.Conveys (frame : Sent) (m : Message) : Prop where
  version : frame.message.beginString = m.beginString
  payload : frame.message.payload = m.payload
  encoded : Wire.encode frame.message = .ok frame.bytes

theorem Sent.Conveys.get {frame : Sent} {m : Message} (conveys : frame.Conveys m) {tag : Tag}
    (other : tag ∉ Tag.stamped) : frame.message.get tag = m.get tag :=
  Message.get_eq_of_payload conveys.payload other

theorem Session.conveys_addHeader (s : Session) (m : Message) (seq : Nat) (now : Moment)
    {bytes : List UInt8} (encodes : Wire.encode (s.addHeader m seq now) = .ok bytes) :
    Sent.Conveys ⟨s.addHeader m seq now, bytes⟩ m := by
  refine ⟨?_, ?_, encodes⟩
  · show (s.addHeader m seq now).beginString = m.beginString
    rw [addHeader, Message.beginString_setIfSome, Message.beginString_setIfSome]
    rfl
  · show (s.addHeader m seq now).payload = m.payload
    simp (disch := decide) only [addHeader, Message.payload_setIfSome, Message.payload_set]

end FixBench
