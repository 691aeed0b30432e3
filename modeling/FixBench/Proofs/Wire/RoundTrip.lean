import FixBench.Proofs.Failing
import FixBench.Proofs.Protocol.Message
import FixBench.Proofs.Wire.Grammar
import FixBench.Wire.Encode

/-!
# Writing and reading back

What `encode` writes is the canonical spelling of a frame: tags and length without leading zeros
and the fields in canonical order. So the round trip needs nothing about readers. It is enough that
the canonical frame is valid in the sense of the grammar, and that it carries the message.

The fields come back in another order. That they are the same fields is `bodyFields_perm`: on
distinct tags, picking the header fields by look-up and then everything else loses nothing and
repeats nothing.
-/
namespace FixBench.Wire

/-! ### Canonical frames -/

/-- A field as it is written. -/
def canonicalField (field : Field) : Spelling :=
  ⟨Numeral.digits field.tag.toNat, Utf8.encode field.value⟩

/-- The frame that is written for a version and the fields of a body. -/
def canonicalFrame (beginString : String) (fields : List Field) : FrameSpelling where
  version := canonicalField ⟨Tag.beginString, beginString⟩
  length := ⟨Numeral.digits Tag.bodyLength.toNat, Numeral.digits (bodyBytes fields).length⟩
  body := fields.map canonicalField
  trailer := ⟨Numeral.digits Tag.checkSum.toNat,
    checksumDigits (checksum (frameHead beginString (bodyBytes fields)))⟩

theorem bodyBytes_canonicalFrame (beginString : String) (fields : List Field) :
    (canonicalFrame beginString fields).bodyBytes = bodyBytes fields := by
  rw [FrameSpelling.bodyBytes, canonicalFrame, List.flatMap_map]
  rfl

theorem head_canonicalFrame (beginString : String) (fields : List Field) :
    (canonicalFrame beginString fields).head = frameHead beginString (bodyBytes fields) := by
  rw [FrameSpelling.head, bodyBytes_canonicalFrame]
  rfl

theorem bytes_canonicalFrame (beginString : String) (fields : List Field) :
    (canonicalFrame beginString fields).bytes = frame beginString (bodyBytes fields) := by
  rw [FrameSpelling.bytes, head_canonicalFrame]
  rfl

theorem number_canonicalField (field : Field) :
    (canonicalField field).number = field.tag.toNat :=
  Numeral.digitsValue_digits _

theorem denotes_canonicalField (field : Field) : (canonicalField field).Denotes field :=
  ⟨(number_canonicalField field).symm, rfl⟩

theorem denotes_map_canonicalField (fields : List Field) :
    List.Forall₂ Spelling.Denotes (fields.map canonicalField) fields := by
  rw [List.forall₂_map_left_iff, List.forall₂_same]
  exact fun field _ => denotes_canonicalField field

theorem carries_canonicalFrame (beginString : String) (fields : List Field) :
    (canonicalFrame beginString fields).Carries ⟨beginString, fields, some
      ⟨(bodyBytes fields).length, UInt8.ofNat (byteSum (frameHead beginString (bodyBytes fields)))⟩⟩ where
  beginString := rfl
  fields := denotes_map_canonicalField fields
  wire := by rw [bodyBytes_canonicalFrame, head_canonicalFrame]

theorem readChecksum?_checksumDigits (sum : UInt8) :
    readChecksum? (checksumDigits sum) = some sum := by
  rw [readChecksum?_eq_some_iff]
  have small := sum.toNat_lt
  -- None of the three additions overflows a byte.
  have first : (48 + sum / 100).toNat = 48 + sum.toNat / 100 := by
    simp [UInt8.toNat_add, UInt8.toNat_div]
    omega
  have second : (48 + sum / 10 % 10).toNat = 48 + sum.toNat / 10 % 10 := by
    simp [UInt8.toNat_add, UInt8.toNat_div]
    omega
  have third : (48 + sum % 10).toNat = 48 + sum.toNat % 10 := by
    simp [UInt8.toNat_add]
    omega
  refine ⟨rfl, ?_, ?_⟩
  · simp only [checksumDigits, List.forall_mem_cons, Numeral.isDigit_iff, first, second, third]
    refine ⟨by omega, by omega, by omega, by simp⟩
  · simp only [checksumDigits, Numeral.digitsValue, List.foldl_cons, List.foldl_nil, first, second,
      third]
    omega

/-- A value that can stand in a field under this tag. -/
structure Writable (tag : Tag) (value : String) : Prop where
  positive : tag ≠ 0
  nonempty : value ≠ ""
  soh_notMem : soh ∉ Utf8.encode value

theorem checkValue_eq_ok_iff (tag : Tag) (value : String) :
    checkValue tag value = .ok () ↔ Writable tag value := by
  unfold checkValue
  constructor
  · intro checked
    split at checked
    · cases checked
    rename_i positive
    split at checked
    · cases checked
    rename_i nonempty
    split at checked
    · cases checked
    rename_i absent
    exact ⟨positive, nonempty, by simpa using absent⟩
  · rintro ⟨positive, nonempty, absent⟩
    rw [if_neg positive, if_neg nonempty, if_neg (by simpa using absent)]

theorem wellFormed_canonicalField {field : Field} (writable : Writable field.tag field.value) :
    (canonicalField field).WellFormed :=
  Spelling.wellFormed_of_tag field.tag _ writable.positive
    (fun empty => writable.nonempty ((Utf8.encode_eq_nil_iff _).mp empty)) writable.soh_notMem

/-- The canonical frame of a body that has all a message needs is valid. -/
theorem valid_canonicalFrame {beginString : String} {fields : List Field}
    (version : Writable Tag.beginString beginString)
    (fix : [70, 73, 88] <+: Utf8.encode beginString)
    (writable : ∀ field ∈ fields, Writable field.tag field.value) (follows : Follows [] fields)
    (required : ∀ tag ∈ Tag.requiredHeader, tag ∈ fields.map Field.tag) :
    (canonicalFrame beginString fields).Valid := by
  have read := readChecksum?_checksumDigits (checksum (frameHead beginString (bodyBytes fields)))
  refine FrameSpelling.valid_of_denotes ?_ (denotes_map_canonicalField fields) follows required
    (number_canonicalField _) fix ⟨beginString, rfl⟩ (Numeral.digitsValue_digits _) ?_
    (Numeral.digitsValue_digits _) ?_
  · simp only [FrameSpelling.spellings, List.forall_mem_cons, List.forall_mem_append]
    refine ⟨wellFormed_canonicalField version, ?_, ?_, ?_, by simp⟩
    · exact Spelling.wellFormed_of_tag _ _ (by decide) (Numeral.digits_ne_nil _)
        (Numeral.notMem_of_isDigit rfl (Numeral.isDigit_of_mem_digits _))
    · intro spelling member
      obtain ⟨field, present, rfl⟩ := List.mem_map.mp member
      exact wellFormed_canonicalField (writable field present)
    · exact Spelling.wellFormed_of_tag _ _ (by decide) (by simp [checksumDigits])
        (Numeral.notMem_of_isDigit rfl ((readChecksum?_eq_some_iff _ _).mp read).2.1)
  · rw [bodyBytes_canonicalFrame]
    exact Numeral.digitsValue?_digits _
  · rw [head_canonicalFrame]
    exact read

/-! ### Checked values -/

theorem checkFields_eq_ok_iff (fields : List Field) :
    checkFields fields = .ok () ↔ ∀ field ∈ fields, Writable field.tag field.value := by
  induction fields with
  | nil => simp [checkFields]
  | cons field rest ih =>
    rw [List.forall_mem_cons, checkFields, check_bind_eq_ok_iff, checkValue_eq_ok_iff, ih]

theorem checkValues_eq_ok_iff (m : Message) :
    checkValues m = .ok () ↔
      Writable Tag.beginString m.beginString ∧
        ∀ field ∈ written m.fields, Writable field.tag field.value := by
  rw [checkValues, check_bind_eq_ok_iff, checkValue_eq_ok_iff, checkFields_eq_ok_iff]

theorem Writable.of_tag {tag other : Tag} {value : String} (writable : Writable tag value)
    (positive : other ≠ 0) : Writable other value :=
  ⟨positive, writable.nonempty, writable.soh_notMem⟩

theorem writable_of_denotes {body : List Spelling} {texts : List Field}
    (denotes : List.Forall₂ Spelling.Denotes body texts)
    (wellFormed : ∀ spelling ∈ body, spelling.WellFormed) :
    ∀ field ∈ texts, Writable field.tag field.value := by
  induction denotes with
  | nil => simp
  | @cons spelling field _ _ first _ ih =>
    simp only [List.mem_cons, forall_eq_or_imp] at wellFormed ⊢
    obtain ⟨here, later⟩ := wellFormed
    refine ⟨⟨?_, ?_, ?_⟩, ih later⟩
    · intro zero
      have positive := here.number_pos
      rw [← first.tag, zero] at positive
      exact absurd positive (Nat.lt_irrefl 0)
    · intro empty
      apply here.value_ne_nil
      rw [← first.value, empty]
      rfl
    · rw [first.value]
      exact here.soh_notMem_value

/-- Every value of a message that has been received can be written again. -/
theorem writable_of_decode {input : List UInt8} {m : Message} (decoded : decode input = .ok m) :
    ∀ field ∈ m.fields, Writable field.tag field.value := by
  obtain ⟨frame, valid, -, carries⟩ := decode_sound decoded
  apply writable_of_denotes carries.fields
  intro spelling member
  exact valid.wellFormed spelling (by simp [FrameSpelling.spellings, member])

/-- So can its version. -/
theorem writable_version_of_decode {input : List UInt8} {m : Message}
    (decoded : decode input = .ok m) : Writable Tag.beginString m.beginString := by
  obtain ⟨frame, valid, -, carries⟩ := decode_sound decoded
  have wellFormed := valid.wellFormed frame.version (by simp [FrameSpelling.spellings])
  refine ⟨by decide, ?_, ?_⟩
  · intro empty
    apply wellFormed.value_ne_nil
    rw [← carries.beginString, empty]
    rfl
  · rw [carries.beginString]
    exact wellFormed.soh_notMem_value

theorem encode_eq_error_iff (m : Message) (fault : BuildFault) :
    encode m = .error fault ↔ checkValues m = .error fault := by
  rw [encode, bind_eq_error_iff]
  simp [pure, Except.pure]

theorem encode_of_checkValues {m : Message} (checked : checkValues m = .ok ()) :
    encode m = .ok (frame m.beginString (bodyBytes (bodyFields m))) := by
  rw [encode, checked]
  rfl

theorem exists_encode_iff (m : Message) :
    (∃ bytes, encode m = .ok bytes) ↔ checkValues m = .ok () := by
  simp only [encode, check_bind_eq_ok_iff, pure_eq_ok_iff, exists_and_left, exists_eq', and_true]

/-! ### Canonical order -/

/-- The fields under the given tags, in the order of the tags, and behind them all others as they
stand. -/
def inOrder (order : List Tag) (fields : List Field) : List Field :=
  (order.flatMap fun tag => fields.filter (·.tag = tag)) ++ fields.filter (·.tag ∉ order)

/-- Putting fields in order loses none and repeats none. -/
theorem inOrder_perm (order : List Tag) (distinct : order.Nodup) (fields : List Field) :
    (inOrder order fields).Perm fields := by
  induction order with
  | nil => simp [inOrder]
  | cons tag rest ih =>
    rw [List.nodup_cons] at distinct
    -- The fields under `tag` are taken out of those that the later tags leave over.
    have under : (fields.filter (·.tag ∉ rest)).filter (·.tag = tag) =
        fields.filter (·.tag = tag) := by
      rw [List.filter_filter]
      apply List.filter_congr
      intro field _
      by_cases same : field.tag = tag
      · simp [same, distinct.1]
      · simp [same]
    have others : (fields.filter (·.tag ∉ rest)).filter (fun field => !decide (field.tag = tag)) =
        fields.filter (·.tag ∉ tag :: rest) := by
      rw [List.filter_filter]
      apply List.filter_congr
      intro field _
      simp
    have parts := List.filter_append_perm (·.tag = tag) (fields.filter (·.tag ∉ rest))
    rw [under, others] at parts
    rw [inOrder, List.flatMap_cons, List.append_assoc]
    refine (List.perm_append_comm_assoc _ _ _).trans ?_
    refine List.Perm.trans ?_ (ih distinct.2)
    exact parts.append_left _

/-- Distinct fields that the frame does not compute itself are written in header order. -/
theorem bodyFields_eq_inOrder (m : Message) (distinct : (m.fields.map Field.tag).Nodup)
    (unframed : ∀ field ∈ m.fields,
      field.tag ≠ Tag.beginString ∧ field.tag ≠ Tag.bodyLength ∧ field.tag ≠ Tag.checkSum) :
    bodyFields m = inOrder Tag.headerOrder m.fields := by
  -- One field at most stands under each tag, so a look-up takes all there are.
  have header : headerFields m =
      Tag.headerOrder.flatMap fun tag => m.fields.filter (·.tag = tag) := by
    rw [headerFields, List.filterMap_eq_flatMap_toList]
    simp only [Message.filter_tag_eq _ distinct, Message.get]
  -- The tags left out besides the header's do not occur.
  have others : m.fields.filter (fun field => !Tag.isHeader field.tag && field.tag ≠ Tag.checkSum) =
      m.fields.filter (·.tag ∉ Tag.headerOrder) := by
    apply List.filter_congr
    intro field present
    obtain ⟨eight, nine, ten⟩ := unframed field present
    simp [Tag.isHeader, eight, nine, ten]
  rw [bodyFields, header, others, inOrder]

/-- Whatever a message holds, a frame has a field of the header once at most, and its value is what a
look-up finds. -/
theorem filter_tag_bodyFields (m : Message) {tag : Tag} (header : tag ∈ Tag.headerOrder) :
    (bodyFields m).filter (·.tag = tag) = ((m.get tag).map (Field.mk tag)).toList := by
  -- Stated for any list without repeats, since the induction leaves the header's own one.
  have picked (order : List Tag) (distinct : order.Nodup) (member : tag ∈ order) :
      (order.filterMap fun each => (m.get each).map (Field.mk each)).filter (·.tag = tag) =
        ((m.get tag).map (Field.mk tag)).toList := by
    induction order with
    | nil => cases member
    | cons first rest ih =>
      rw [List.nodup_cons] at distinct
      rw [List.filterMap_eq_flatMap_toList, List.flatMap_cons, List.filter_append,
        ← List.filterMap_eq_flatMap_toList]
      by_cases same : first = tag
      · subst same
        have once : (rest.filterMap fun each => (m.get each).map (Field.mk each)).filter
            (·.tag = first) = [] := by
          rw [List.filter_eq_nil_iff]
          intro field present
          obtain ⟨each, later, found⟩ := List.mem_filterMap.mp present
          obtain ⟨_, -, rfl⟩ := Option.map_eq_some_iff.mp found
          rw [decide_eq_true_eq]
          rintro rfl
          exact distinct.1 later
        rw [once, List.append_nil]
        cases m.get first <;> simp
      · rw [ih distinct.2 (List.mem_of_ne_of_mem (Ne.symm same) member)]
        cases m.get first <;> simp [same]
  have others : (m.fields.filter fun field =>
      !Tag.isHeader field.tag && field.tag ≠ Tag.checkSum).filter (·.tag = tag) = [] := by
    rw [List.filter_eq_nil_iff]
    intro field present
    have outside := (List.mem_filter.mp present).2
    rw [decide_eq_true_eq]
    rintro rfl
    simp [Tag.isHeader, header] at outside
  rw [bodyFields, List.filter_append, others, List.append_nil]
  exact picked _ (by decide) header

/-- In header order the message type comes first. -/
theorem head?_inOrder {fields : List Field} (typed : ∃ field ∈ fields, field.tag = Tag.msgType) :
    ((inOrder Tag.headerOrder fields).map Field.tag).head? = some Tag.msgType := by
  rw [inOrder, Tag.headerOrder, List.flatMap_cons, List.append_assoc]
  cases first : fields.filter (·.tag = Tag.msgType) with
  | nil =>
    obtain ⟨field, present, tag⟩ := typed
    exact absurd (decide_eq_true tag) (List.filter_eq_nil_iff.mp first field present)
  | cons field rest =>
    have member : field ∈ fields.filter (·.tag = Tag.msgType) := by simp [first]
    simpa using (List.mem_filter.mp member).2

/-! ### The round trip -/

section
variable {m : Message} (distinct : (m.fields.map Field.tag).Nodup)
  (unframed : ∀ field ∈ m.fields,
    field.tag ≠ Tag.beginString ∧ field.tag ≠ Tag.bodyLength ∧ field.tag ≠ Tag.checkSum)
include distinct unframed

theorem bodyFields_perm : (bodyFields m).Perm m.fields := by
  rw [bodyFields_eq_inOrder m distinct unframed]
  exact inOrder_perm _ (by decide) _

theorem nodup_tags_bodyFields : ((bodyFields m).map Field.tag).Nodup :=
  ((bodyFields_perm distinct unframed).map Field.tag).nodup_iff.mpr distinct

/-- The frame written for a message that has all a received one must have is valid. -/
theorem valid_written_of_fix (version : [70, 73, 88] <+: Utf8.encode m.beginString)
    (header : ∀ tag ∈ Tag.msgType :: Tag.requiredHeader, m.contains tag = true)
    (checked : checkValues m = .ok ()) :
    (canonicalFrame m.beginString (bodyFields m)).Valid := by
  have perm := bodyFields_perm distinct unframed
  obtain ⟨writableVersion, writable⟩ := (checkValues_eq_ok_iff m).mp checked
  simp only [Message.contains_iff] at header
  apply valid_canonicalFrame writableVersion version
  · intro field member
    have present := perm.mem_iff.mp member
    obtain ⟨_, nine, ten⟩ := unframed field present
    exact writable field (by simp [written, present, nine, ten])
  · refine ⟨?_, nodup_tags_bodyFields distinct unframed, by simp, fun _ => ?_⟩
    · exact fun field member => unframed field (perm.mem_iff.mp member)
    · rw [bodyFields_eq_inOrder m distinct unframed]
      exact head?_inOrder (header Tag.msgType (by simp))
  · intro tag member
    obtain ⟨field, present, same⟩ := header tag (List.mem_cons_of_mem _ member)
    exact List.mem_map.mpr ⟨field, perm.mem_iff.mpr present, same⟩

theorem valid_written (version : ∃ rest, m.beginString = "FIX" ++ rest)
    (header : ∀ tag ∈ Tag.msgType :: Tag.requiredHeader, m.contains tag = true)
    (checked : checkValues m = .ok ()) :
    (canonicalFrame m.beginString (bodyFields m)).Valid := by
  apply valid_written_of_fix distinct unframed _ header checked
  obtain ⟨rest, same⟩ := version
  rw [same, Utf8.encode_append]
  exact List.prefix_append _ _

end

/-- **Round trip.** Take a message with distinct tags, none of them computed by the frame, a FIX
version, and all a received message must have. Writing it fails exactly when a value is refused.
Otherwise, unless the frame were longer than a 64-bit number can say, reading gives an equal
message, with the fields in header order and with the length of the body and the byte sum of all
that stands in front of the trailer. -/
theorem decode_encode (m : Message) (distinct : (m.fields.map Field.tag).Nodup)
    (unframed : ∀ field ∈ m.fields,
      field.tag ≠ Tag.beginString ∧ field.tag ≠ Tag.bodyLength ∧ field.tag ≠ Tag.checkSum)
    (version : ∃ rest, m.beginString = "FIX" ++ rest)
    (header : ∀ tag ∈ Tag.msgType :: Tag.requiredHeader, m.contains tag = true) :
    (∀ fault, encode m = .error fault ↔ checkValues m = .error fault) ∧
      (checkValues m = .ok () → ∃ wire, encode m = .ok wire ∧ (wire.length < Numeral.limit64 →
        ∃ m' opening body trailer, wire = opening ++ body ++ trailer ∧
          opening = fieldBytes Tag.beginString (Utf8.encode m.beginString) ++
            fieldBytes Tag.bodyLength (Numeral.digits body.length) ∧
          trailer.length = 7 ∧ decode wire = .ok m' ∧ m'.sameAs m = true ∧ m.sameAs m' = true ∧
          m'.fields = inOrder Tag.headerOrder m.fields ∧
          m'.wire = some ⟨body.length, UInt8.ofNat (byteSum (opening ++ body) % 256)⟩)) := by
  refine ⟨encode_eq_error_iff m, ?_⟩
  intro checked
  refine ⟨_, encode_of_checkValues checked, ?_⟩
  intro small
  have perm := bodyFields_perm distinct unframed
  have valid := valid_written distinct unframed version header checked
  have carries := carries_canonicalFrame m.beginString (bodyFields m)
  have complete := decode_complete valid carries (by rwa [bytes_canonicalFrame])
  rw [bytes_canonicalFrame] at complete
  refine ⟨_, fieldBytes Tag.beginString (Utf8.encode m.beginString) ++
      fieldBytes Tag.bodyLength (Numeral.digits (bodyBytes (bodyFields m)).length),
    bodyBytes (bodyFields m), fieldBytes Tag.checkSum (checksumDigits (checksum
      (frameHead m.beginString (bodyBytes (bodyFields m))))), rfl, rfl, ?_, complete, ?_, ?_,
    bodyFields_eq_inOrder m distinct unframed, ?_⟩
  · -- `10=`, three digits and a separator.
    rw [fieldBytes, Tag.checkSum, Numeral.digits, Numeral.digits]
    rfl
  · exact Message.sameAs_of_perm rfl perm distinct
  · exact Message.sameAs_of_perm rfl perm.symm (nodup_tags_bodyFields distinct unframed)
  · rw [UInt8.ofNat_mod_size]
    rfl

/-- A message whose text stands in front of its header and holds an equals sign and a character of
two bytes. -/
def scrambled : Message where
  beginString := "FIX.4.4"
  fields := [⟨Tag.text, "a=é"⟩, ⟨Tag.sendingTime, "T"⟩, ⟨Tag.msgSeqNum, "1"⟩,
    ⟨Tag.targetCompId, "B"⟩, ⟨Tag.senderCompId, "A"⟩, ⟨Tag.msgType, "0"⟩]
  wire := none

theorem decode_encode_scrambled :
    ∃ wire m', encode scrambled = .ok wire ∧ decode wire = .ok m' ∧
      m'.sameAs scrambled = true ∧ scrambled.sameAs m' = true ∧
      m'.fields = [⟨Tag.msgType, "0"⟩, ⟨Tag.senderCompId, "A"⟩, ⟨Tag.targetCompId, "B"⟩,
        ⟨Tag.msgSeqNum, "1"⟩, ⟨Tag.sendingTime, "T"⟩, ⟨Tag.text, "a=é"⟩] := by
  have checked : checkValues scrambled = .ok () := by decide
  obtain ⟨_, written⟩ :=
    decode_encode scrambled (by decide) (by decide) ⟨".4.4", by decide⟩
      (List.all_eq_true.mp (by decide))
  obtain ⟨wire, encoded, read⟩ := written checked
  have small : wire.length < Numeral.limit64 := by
    rw [encode_of_checkValues checked] at encoded
    cases encoded
    decide +kernel
  obtain ⟨m', _, _, _, _, _, _, decoded, same, same', fields, _⟩ := read small
  exact ⟨wire, m', encoded, decoded, same, same', fields⟩

end FixBench.Wire
