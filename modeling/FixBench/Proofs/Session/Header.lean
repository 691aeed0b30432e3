import FixBench.Proofs.Session.Operations
import FixBench.Proofs.Wire.RoundTrip

/-!
# Headers that can be written

The values of a message are checked before it gets its header, and once more when it is written. In
between the header adds a number and a time, which can always be written, and texts that nobody has
checked: the two identifiers and the sub-identifiers. So a checked message can be written under a
header exactly when these texts can (`checkValues_addHeader_iff`).

The texts come from the configuration, but for the counterparty's sub-identifier, which its logon
brings. That one has been on the wire before, so in a session that is `Reached` by its own operations
only the configuration counts (`Reached.headerWritable_iff`).
-/
namespace FixBench

namespace Wire

theorem writable_of_get {m : Message} (checked : checkValues m = .ok ()) {tag : Tag} {value : String}
    (found : m.get tag = some value) (carried : tag ≠ Tag.bodyLength ∧ tag ≠ Tag.checkSum) :
    Writable tag value := by
  have writable := ((checkValues_eq_ok_iff m).mp checked).2
  exact writable ⟨tag, value⟩ (by simp [written, Message.mem_of_get found, carried])

/-- Setting a field of a checked message puts this one value in question. -/
theorem checkValues_set_iff {m : Message} (checked : checkValues m = .ok ()) {tag : Tag}
    (value : String) (carried : tag ≠ Tag.bodyLength ∧ tag ≠ Tag.checkSum) :
    checkValues (m.set tag value) = .ok () ↔ Writable tag value := by
  constructor
  · intro still
    exact writable_of_get still (Message.get_set_same m tag value) carried
  · intro writable
    obtain ⟨version, fields⟩ := (checkValues_eq_ok_iff m).mp checked
    rw [checkValues_eq_ok_iff]
    refine ⟨version, ?_⟩
    simp only [written, List.mem_filter, and_imp] at fields ⊢
    exact (Message.forall_mem_put_iff tag value fields).mpr fun _ => writable

theorem checkValues_setIfSome {m : Message} (checked : checkValues m = .ok ()) {tag : Tag}
    {value : Option String} (carried : tag ≠ Tag.bodyLength ∧ tag ≠ Tag.checkSum)
    (writable : ∀ text ∈ value, Writable tag text) : checkValues (m.setIfSome tag value) = .ok () := by
  cases value with
  | none => exact checked
  | some text => exact (checkValues_set_iff checked text carried).mpr (writable text rfl)

/-! ### Texts without a separator -/

/-- The text stays within its field. -/
def Inline (text : String) : Prop := soh ∉ Utf8.encode text

instance (text : String) : Decidable (Inline text) := inferInstanceAs (Decidable (_ ∉ _))

theorem inline_append_iff (left right : String) :
    Inline (left ++ right) ↔ Inline left ∧ Inline right := by
  rw [Inline, Utf8.encode_append, List.mem_append, not_or]
  exact Iff.rfl

theorem Inline.append {left right : String} (first : Inline left) (second : Inline right) :
    Inline (left ++ right) :=
  (inline_append_iff left right).mpr ⟨first, second⟩

theorem Writable.append {tag : Tag} {left right : String} (first : Writable tag left)
    (second : Inline right) : Writable tag (left ++ right) := by
  refine ⟨first.positive, ?_, Inline.append first.soh_notMem second⟩
  intro empty
  have bytes := congrArg Utf8.encode empty
  rw [Utf8.encode_append, (Utf8.encode_eq_nil_iff "").mpr rfl] at bytes
  exact first.nonempty ((Utf8.encode_eq_nil_iff left).mp (List.append_eq_nil_iff.mp bytes).1)

theorem inline_toString (n : Nat) : Inline (toString n) := Numeral.notMem_encode_toString rfl n

theorem inline_padded (width n : Nat) : Inline (Numeral.padded width n) :=
  Numeral.notMem_encode_padded rfl width n

theorem writable_toString (tag : Tag) (positive : tag ≠ 0) (n : Nat) : Writable tag (toString n) :=
  ⟨positive, Numeral.toString_ne_empty n, inline_toString n⟩

theorem writable_timestamp (tag : Tag) (positive : tag ≠ 0) (t : Timestamp) :
    Writable tag t.toText := by
  refine ⟨positive, ?_, ?_⟩
  · intro empty
    have dash : Utf8.encode "-" = [45] := rfl
    have bytes := congrArg Utf8.encode empty
    simp only [Timestamp.toText, Utf8.encode_append, dash] at bytes
    simp [Utf8.encode] at bytes
  · -- Digits and three kinds of marks, and none of them is a separator.
    have marks : Inline "-" ∧ Inline ":" ∧ Inline "." := by decide
    change Inline t.toText
    simp only [Timestamp.toText, inline_append_iff, inline_padded, marks, and_self]

end Wire

/-! ### Configurations -/

/-- Validation looks at the two times and at the version, and at no other text. -/
theorem SessionConfig.validate_eq_ok_iff (c : SessionConfig) :
    c.validate = .ok () ↔
      c.heartbeatInterval.isZero = false ∧ c.heartbeatInterval ≤ Liveness.maxInterval ∧
        c.logonTimeout.isZero = false ∧ isVersion c.version = true := by
  unfold validate
  constructor
  · intro valid
    split at valid
    · cases valid
    rename_i interval
    split at valid
    · cases valid
    rename_i short
    split at valid
    · cases valid
    rename_i timeout
    split at valid
    · cases valid
    rename_i version
    exact ⟨Bool.eq_false_of_not_eq_true interval, Nat.le_of_not_lt short,
      Bool.eq_false_of_not_eq_true timeout, by simpa using version⟩
  · rintro ⟨interval, short, timeout, version⟩
    have within : ¬ Liveness.maxInterval < c.heartbeatInterval := Nat.not_lt.mpr short
    simp [interval, within, timeout, version]

/-- The texts a configuration puts into every header can be written. -/
structure SessionConfig.HeaderWritable (c : SessionConfig) : Prop where
  sender : Wire.Writable Tag.senderCompId c.sender.text
  target : Wire.Writable Tag.targetCompId c.target.text
  senderSubId : ∀ sub ∈ c.senderSubId, Wire.Writable Tag.senderSubId sub
  targetSubId : ∀ sub ∈ c.targetSubId, Wire.Writable Tag.targetSubId sub

namespace Session

/-- The texts that a session puts into the header of its next message can be written. In place of a
sub-identifier that is not configured it uses the one the counterparty has given. -/
def HeaderWritable (s : Session) : Prop :=
  SessionConfig.HeaderWritable
    { s.config with targetSubId := s.config.targetSubId.or s.counterpartySubId }

/-! ### Under the header -/

theorem get_addHeader_senderSubId (s : Session) (m : Message) (seq : Nat) (now : Moment) :
    (s.addHeader m seq now).get Tag.senderSubId =
      s.config.senderSubId.or (m.get Tag.senderSubId) := by
  rw [addHeader, Message.get_setIfSome_of_ne _ _ (by decide), Message.get_setIfSome_same,
    Message.get_set_of_ne _ _ (by decide), Message.get_set_of_ne _ _ (by decide),
    Message.get_set_of_ne _ _ (by decide), Message.get_set_of_ne _ _ (by decide)]

theorem get_addHeader_targetSubId (s : Session) (m : Message) (seq : Nat) (now : Moment) :
    (s.addHeader m seq now).get Tag.targetSubId =
      (s.config.targetSubId.or s.counterpartySubId).or (m.get Tag.targetSubId) := by
  rw [addHeader, Message.get_setIfSome_same, Message.get_setIfSome_of_ne _ _ (by decide),
    Message.get_set_of_ne _ _ (by decide), Message.get_set_of_ne _ _ (by decide),
    Message.get_set_of_ne _ _ (by decide), Message.get_set_of_ne _ _ (by decide)]

/-- A checked message passes the check again under its header if and only if the header's own texts
pass it. -/
theorem checkValues_addHeader_iff (s : Session) {m : Message} (checked : Wire.checkValues m = .ok ())
    (seq : Nat) (now : Moment) :
    Wire.checkValues (s.addHeader m seq now) = .ok () ↔ s.HeaderWritable := by
  constructor
  · intro still
    have writable {tag : Tag} {value : String} := @Wire.writable_of_get _ still tag value
    refine ⟨?_, ?_, ?_, ?_⟩
    · exact writable (get_addHeader_senderCompId s m seq now) (by decide)
    · exact writable (get_addHeader_targetCompId s m seq now) (by decide)
    · intro sub named
      exact writable (by rw [get_addHeader_senderSubId, named, Option.some_or]) (by decide)
    · intro sub named
      have used : s.config.targetSubId.or s.counterpartySubId = some sub := named
      exact writable (by rw [get_addHeader_targetSubId, used, Option.some_or]) (by decide)
  · -- The fields are set one after the other, each on a message that passes.
    rintro ⟨sender, target, senderSubId, targetSubId⟩
    have first := (Wire.checkValues_set_iff checked _ (by decide)).mpr sender
    have second := (Wire.checkValues_set_iff first _ (by decide)).mpr target
    have third := (Wire.checkValues_set_iff second _ (by decide)).mpr
      (Wire.writable_toString Tag.msgSeqNum (by decide) seq)
    have fourth := (Wire.checkValues_set_iff third _ (by decide)).mpr
      (Wire.writable_timestamp Tag.sendingTime (by decide) now.timestamp)
    have fifth := Wire.checkValues_setIfSome fourth (by decide) senderSubId
    exact Wire.checkValues_setIfSome fifth (by decide) targetSubId

/-- Whether a checked message can be written once it has its header does not depend on the message. -/
theorem encode_stamped_iff {s after : Session} {m stamped : Message} {now : Moment}
    (checked : Wire.checkValues m = .ok ()) (stamps : s.stamp m now = .ok (stamped, after)) :
    (∃ bytes, Wire.encode stamped = .ok bytes) ↔ s.HeaderWritable := by
  obtain ⟨-, rfl, -⟩ := (stamp_eq_ok_iff _ _ _ _ _).mp stamps
  rw [← checkValues_addHeader_iff s checked, Wire.exists_encode_iff]

/-! ### Over a session's life -/

/-- The sessions a configuration can lead to: those its own operations make of a new one, where
what arrives has been read off the wire. -/
inductive Reached (config : SessionConfig) : Session → Prop
  | create (now : Moment) : Reached config (create config now)
  | connecting {s after : Session} :
      Reached config s → s.connecting = .ok after → Reached config after
  | connected {s after : Session} (now : Moment) :
      Reached config s → s.connected now = .ok after → Reached config after
  | stamp {s after : Session} {m stamped : Message} {now : Moment} :
      Reached config s → s.stamp m now = .ok (stamped, after) → Reached config after
  | inbound {s : Session} {frame : List UInt8} {m : Message} (now : Moment) :
      Reached config s → Wire.decode frame = .ok m → Reached config (s.inbound m now).2
  | poll {s : Session} (now : Moment) : Reached config s → Reached config (s.poll now).2
  | disconnect {s : Session} : Reached config s → Reached config s.disconnect

namespace Reached

variable {config : SessionConfig} {s : Session}

theorem opened {created connected : Moment}
    (opened : Session.opened config created connected = .ok s) : Reached config s := by
  cases opened
  exact .connected connected (.connecting (.create created) rfl) rfl

/-- What a session calls its counterparty has come in a message, so it can be written. -/
theorem invariant (reached : Reached config s) :
    s.config = config ∧ s.sequences.nextOut < Numeral.limit64 ∧
      ∀ sub ∈ s.counterpartySubId, Wire.Writable Tag.targetSubId sub := by
  induction reached with
  | create =>
    have one : (1 : Nat) < Numeral.limit64 := by decide
    exact ⟨rfl, one, by rintro sub ⟨⟩⟩
  | connecting _ moved ih =>
    obtain ⟨-, rfl⟩ := connecting_eq_ok moved
    exact ih
  | connected now _ moved ih =>
    obtain ⟨-, rfl⟩ := connected_eq_ok moved
    exact ih
  | stamp _ stamps ih =>
    obtain ⟨-, -, rfl⟩ := (stamp_eq_ok_iff _ _ _ _ _).mp stamps
    exact ⟨ih.1, SequenceNumbers.following_lt _, ih.2.2⟩
  | @inbound s _ m now _ decoded ih =>
    obtain ⟨config_eq, nextOut_lt, counterparty⟩ := ih
    -- Only a logon changes what the counterparty is called, and its fields come off the wire.
    obtain ⟨config, nextOut, same | named⟩ := s.inbound_keeps m now
    · rw [config, nextOut, same]
      exact ⟨config_eq, nextOut_lt, counterparty⟩
    · rw [config, nextOut, named]
      refine ⟨config_eq, nextOut_lt, fun sub found => ?_⟩
      exact (Wire.writable_of_decode decoded _ (Message.mem_of_get found)).of_tag (by decide)
  | @poll s now _ ih =>
    rw [(keepsSending_poll s now).config, (keepsSending_poll s now).nextOut,
      poll_counterpartySubId]
    exact ih
  | disconnect _ ih => exact ih

theorem config_eq (reached : Reached config s) : s.config = config := reached.invariant.1

theorem nextOut_lt (reached : Reached config s) : s.sequences.nextOut < Numeral.limit64 :=
  reached.invariant.2.1

theorem headerWritable_iff (reached : Reached config s) :
    s.HeaderWritable ↔ config.HeaderWritable := by
  obtain rfl := reached.config_eq
  constructor
  · rintro ⟨sender, target, senderSubId, targetSubId⟩
    refine ⟨sender, target, senderSubId, fun sub named => targetSubId sub ?_⟩
    show s.config.targetSubId.or s.counterpartySubId = some sub
    rw [named, Option.some_or]
  · rintro ⟨sender, target, senderSubId, targetSubId⟩
    refine ⟨sender, target, senderSubId, fun sub named => ?_⟩
    have used : s.config.targetSubId.or s.counterpartySubId = some sub := named
    rcases Option.or_eq_some_iff.mp used with configured | ⟨-, received⟩
    · exact targetSubId sub configured
    · exact reached.invariant.2.2 sub received

end Reached

end Session

end FixBench
