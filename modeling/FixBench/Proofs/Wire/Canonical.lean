import FixBench.Proofs.Wire.RoundTrip

/-!
# One form for what has been read

A frame can be spelled in many ways. Its tags and its length may have leading zeros, and the fields
of the header may stand anywhere behind the message type. Whatever was read, writing the message
again gives a canonical form (`reencoding_is_canonical`): it is never refused, it is never longer than
what was read, reading it gives an equal message, and writing that one gives the same bytes.

Two facts carry this. A frame that is written holds the same fields as the one that was read, so it
satisfies what reading demands; only the declared length has to be looked at again, and it has not
grown, because no number is spelled with fewer digits than `Numeral.digits` does. And fields that
stand in the order in which they are written are written in that order (`bodyFields_of_fields_eq`).
-/
namespace FixBench.Wire

/-! ### Written fields in the order of writing -/

theorem get_of_fields_eq {m m' : Message} (same : m'.fields = bodyFields m) {tag : Tag}
    (header : tag ∈ Tag.headerOrder) : m'.get tag = m.get tag := by
  rw [Message.get, same, Message.lookup_eq_head?, filter_tag_bodyFields m header]
  cases m.get tag <;> rfl

/-- Writing puts fields in an order in which they stay when they are written once more. -/
theorem bodyFields_of_fields_eq {m m' : Message} (same : m'.fields = bodyFields m) :
    bodyFields m' = bodyFields m := by
  have header : headerFields m' = headerFields m := by
    apply List.filterMap_congr
    intro tag member
    rw [get_of_fields_eq same member]
  have none : (headerFields m).filter
      (fun field => !Tag.isHeader field.tag && field.tag ≠ Tag.checkSum) = [] := by
    rw [List.filter_eq_nil_iff]
    intro field member
    obtain ⟨tag, listed, found⟩ := List.mem_filterMap.mp member
    obtain ⟨_, -, rfl⟩ := Option.map_eq_some_iff.mp found
    simp [Tag.isHeader, listed]
  rw [bodyFields, header, same, bodyFields, List.filter_append, none, List.filter_filter]
  simp only [Bool.and_self, List.nil_append]

/-! ### What reading says of a message -/

theorem bodyLength_lt_of_decode {input : List UInt8} {m : Message} {frame : FrameSpelling}
    (decoded : decode input = .ok m) (carries : frame.Carries m) :
    frame.bodyBytes.length < Numeral.limit64 := by
  obtain ⟨_, _, _, declared, _, _, _, _, _, _, read, _, _, wire⟩ := (decode_eq_ok_iff _ _).mp decoded
  rw [carries.wire] at wire
  cases wire
  exact ((readBodyLength_eq_ok_iff _ _).mp read).2

theorem checkValues_of_decode {input : List UInt8} {m : Message} (decoded : decode input = .ok m) :
    checkValues m = .ok () := by
  rw [checkValues_eq_ok_iff]
  refine ⟨writable_version_of_decode decoded, ?_⟩
  intro field member
  exact writable_of_decode decoded field (List.mem_filter.mp member).1

/-- The fields a frame carries can stand in a body, and none a receiver asks for is missing. -/
theorem FrameSpelling.Valid.follows {frame : FrameSpelling} {m : Message} (valid : frame.Valid)
    (carries : frame.Carries m) :
    Follows [] m.fields ∧ ∀ tag ∈ Tag.msgType :: Tag.requiredHeader, m.contains tag = true := by
  have tags := map_number_of_denotes carries.fields
  have follows : Follows [] m.fields := by
    rw [follows_nil_iff, ← tags]
    exact ⟨valid.body_first, valid.body_distinct, valid.body_unframed⟩
  have required := valid.body_header
  rw [tags, ← required_iff] at required
  refine ⟨follows, ?_⟩
  intro tag member
  rw [Message.contains_iff, ← List.mem_map]
  rcases List.mem_cons.mp member with rfl | later
  · exact List.mem_of_mem_head? (follows.opened rfl)
  · exact required tag later

/-! ### No spelling is shorter -/

theorem length_digits_tag_le {spelling : Spelling} (wellFormed : spelling.WellFormed) {tag : Nat}
    (denotes : spelling.number = tag) : (Numeral.digits tag).length ≤ spelling.digits.length :=
  Numeral.length_digits_le_length wellFormed.digits_ne_nil wellFormed.isDigit_digits
    (Nat.le_of_eq denotes.symm)

/-- Whatever denotes a field, its canonical spelling is not longer. -/
theorem length_canonicalField_le {spelling : Spelling} {field : Field}
    (wellFormed : spelling.WellFormed) (denotes : spelling.Denotes field) :
    (canonicalField field).bytes.length ≤ spelling.bytes.length := by
  have tag := length_digits_tag_le wellFormed denotes.tag.symm
  simp only [Spelling.bytes, canonicalField, denotes.value, List.length_append, List.length_cons]
  omega

theorem length_flatMap_canonicalField_le {body : List Spelling} {texts : List Field}
    (wellFormed : ∀ spelling ∈ body, spelling.WellFormed)
    (denotes : List.Forall₂ Spelling.Denotes body texts) :
    (bodyBytes texts).length ≤ (body.flatMap Spelling.bytes).length := by
  induction denotes with
  | nil => exact Nat.le_refl _
  | @cons spelling field _ texts first _ ih =>
    rw [List.forall_mem_cons] at wellFormed
    have here := length_canonicalField_le wellFormed.1 first
    have later := ih wellFormed.2
    have split : bodyBytes (field :: texts) = (canonicalField field).bytes ++ bodyBytes texts := rfl
    rw [split, List.flatMap_cons, List.length_append, List.length_append]
    omega

section
variable {frame : FrameSpelling} {m : Message} (valid : frame.Valid) (carries : frame.Carries m)
include valid carries

theorem perm_bodyFields_of_carries : (bodyFields m).Perm m.fields := by
  obtain ⟨follows, _⟩ := valid.follows carries
  exact bodyFields_perm follows.distinct follows.unframed

theorem length_bodyBytes_le : (bodyBytes (bodyFields m)).length ≤ frame.bodyBytes.length := by
  have same : (bodyBytes (bodyFields m)).length = (bodyBytes m.fields).length :=
    ((perm_bodyFields_of_carries valid carries).flatMap_right _).length_eq
  rw [same]
  apply length_flatMap_canonicalField_le _ carries.fields
  intro spelling member
  exact valid.wellFormed spelling (by simp [FrameSpelling.spellings, member])

/-- The frame that is written for a message is not longer than any frame that carries it. -/
theorem length_bytes_canonicalFrame_le :
    (canonicalFrame m.beginString (bodyFields m)).bytes.length ≤ frame.bytes.length := by
  have wellFormed := valid.wellFormed
  simp only [FrameSpelling.spellings, List.forall_mem_cons, List.forall_mem_append] at wellFormed
  obtain ⟨versionForm, lengthForm, _, trailerForm, _⟩ := wellFormed
  have body := length_bodyBytes_le valid carries
  have version : (canonicalField ⟨Tag.beginString, m.beginString⟩).bytes.length ≤
      frame.version.bytes.length :=
    length_canonicalField_le versionForm ⟨valid.version_number.symm, carries.beginString⟩
  have nine : (Numeral.digits Tag.bodyLength.toNat).length ≤ frame.length.digits.length :=
    length_digits_tag_le lengthForm valid.length_number
  have declared : (Numeral.digits (bodyBytes (bodyFields m)).length).length ≤
      frame.length.value.length := by
    apply Numeral.length_digits_le_length lengthForm.value_ne_nil valid.length_digits
    rw [valid.length_value]
    exact body
  have ten : (Numeral.digits Tag.checkSum.toNat).length ≤ frame.trailer.digits.length :=
    length_digits_tag_le trailerForm valid.trailer_number
  have three := valid.trailer_length
  rw [FrameSpelling.length_bytes, FrameSpelling.length_bytes, FrameSpelling.length_head,
    FrameSpelling.length_head, bodyBytes_canonicalFrame]
  simp only [canonicalFrame, Spelling.bytes, checksumDigits, List.length_append, List.length_cons,
    List.length_nil] at version ⊢
  omega

/-- What is written for a message that a frame carries is a valid frame. -/
theorem valid_canonicalFrame_of_carries (checked : checkValues m = .ok ()) :
    (canonicalFrame m.beginString (bodyFields m)).Valid := by
  obtain ⟨follows, header⟩ := valid.follows carries
  apply valid_written_of_fix follows.distinct follows.unframed _ header checked
  rw [carries.beginString]
  exact valid.version_value

end

/-! ### The canonical form -/

/-- **Writing what has been read is a canonical form.** A message that has been read can be written,
with no more bytes than were read. Those bytes are read as an equal message, and that one is written
as the same bytes again. -/
theorem reencoding_is_canonical {input : List UInt8} {m : Message} (decoded : decode input = .ok m) :
    ∃ wire m', encode m = .ok wire ∧ wire.length ≤ input.length ∧ decode wire = .ok m' ∧
      m'.sameAs m = true ∧ m.sameAs m' = true ∧ encode m' = .ok wire := by
  obtain ⟨frame, valid, rfl, carries⟩ := decode_sound decoded
  have checked := checkValues_of_decode decoded
  have perm := perm_bodyFields_of_carries valid carries
  obtain ⟨follows, _⟩ := valid.follows carries
  have written := encode_of_checkValues checked
  rw [← bytes_canonicalFrame] at written
  -- The canonical frame is valid, and the length it declares is small enough to be read.
  have canonical := valid_canonicalFrame_of_carries valid carries checked
  have fits : (canonicalFrame m.beginString (bodyFields m)).bodyBytes.length < Numeral.limit64 := by
    rw [bodyBytes_canonicalFrame]
    exact Nat.lt_of_le_of_lt (length_bodyBytes_le valid carries)
      (bodyLength_lt_of_decode decoded carries)
  have read := decode_of_valid canonical (carries_canonicalFrame _ _) fits
  refine ⟨_, _, written, length_bytes_canonicalFrame_le valid carries, read, ?_, ?_, ?_⟩
  · exact Message.sameAs_of_perm rfl perm follows.distinct
  · exact Message.sameAs_of_perm rfl perm.symm
      (nodup_tags_bodyFields follows.distinct follows.unframed)
  · -- The message that comes back stands in the order of writing.
    have order (info : Option WireInfo) :
        bodyFields ⟨m.beginString, bodyFields m, info⟩ = bodyFields m := bodyFields_of_fields_eq rfl
    rw [encode_of_checkValues (checkValues_of_decode read), order, bytes_canonicalFrame]

/-- A frame with leading zeros in two tags and in its length, and with a text in front of the header. -/
def wanderingFrame : FrameSpelling where
  version := ⟨[56], [70, 73, 88]⟩
  length := ⟨[48, 57], [48, 48, 51, 52]⟩
  body := [⟨[51, 53], [48]⟩, ⟨[48, 53, 56], [97, 61, 195, 169]⟩, ⟨[53, 50], [84]⟩, ⟨[51, 52], [49]⟩,
    ⟨[53, 54], [66]⟩, ⟨[52, 57], [65]⟩]
  trailer := ⟨[49, 48], [48, 52, 52]⟩

def wanderingMessage : Message where
  beginString := "FIX"
  fields := [⟨Tag.msgType, "0"⟩, ⟨Tag.text, "a=é"⟩, ⟨Tag.sendingTime, "T"⟩, ⟨Tag.msgSeqNum, "1"⟩,
    ⟨Tag.targetCompId, "B"⟩, ⟨Tag.senderCompId, "A"⟩]
  wire := some ⟨34, 44⟩

theorem carries_wanderingFrame : wanderingFrame.Carries wanderingMessage where
  beginString := by decide
  fields := by
    repeat' constructor
  wire := by decide

theorem decode_wanderingFrame : decode wanderingFrame.bytes = .ok wanderingMessage := by
  have valid : wanderingFrame.Valid := by
    have required : ∀ tag ∈ Tag.requiredHeader, tag ∈ wanderingMessage.fields.map Field.tag := by
      simp [wanderingMessage, Tag.requiredHeader]
    refine FrameSpelling.valid_of_denotes (by decide) carries_wanderingFrame.fields ?_ required
      (by decide) (by decide) ⟨"FIX", by decide⟩ (by decide) (by decide) (by decide) (by decide)
    exact (follows_nil_iff _).mpr (by decide)
  exact decode_complete valid carries_wanderingFrame (by decide)

/-- The frame is read, and comes out shorter and in order. -/
theorem reencoding_is_canonical_wandering :
    decode wanderingFrame.bytes = .ok wanderingMessage ∧ ∃ wire m', encode wanderingMessage = .ok wire ∧
      wire.length = 51 ∧ wanderingFrame.bytes.length = 55 ∧ decode wire = .ok m' ∧
      m'.sameAs wanderingMessage = true ∧ encode m' = .ok wire := by
  obtain ⟨wire, m', written, _, read, same, _, again⟩ :=
    reencoding_is_canonical decode_wanderingFrame
  refine ⟨decode_wanderingFrame, wire, m', written, ?_, by decide, read, same, again⟩
  rw [encode_of_checkValues (checkValues_of_decode decode_wanderingFrame)] at written
  cases written
  decide +kernel

end FixBench.Wire
