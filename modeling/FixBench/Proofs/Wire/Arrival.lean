import FixBench.Proofs.Wire.Framing
import FixBench.Proofs.Wire.RoundTrip
import FixBench.Session.Config

/-!
# What arrives

A message that is put together field by field has no tag twice (`Message.Composed`). Under a FIX version
and with the header complete (`deliverable_headed`) it is `Deliverable`: once written, it is read as a
message with the same value under every tag (`Deliverable.decode`). On a stream that opens with its
frame, the first frame to be announced is this one, whatever the limit and however little of the stream
has arrived (`Deliverable.first_frame`).
-/
namespace FixBench

/-! ### Putting a message together -/

namespace Message

/-- No tag is there twice, and none that the frame computes itself. -/
structure Composed (m : Message) : Prop where
  distinct : (m.fields.map Field.tag).Nodup
  unframed : ∀ field ∈ m.fields,
    field.tag ≠ Tag.beginString ∧ field.tag ≠ Tag.bodyLength ∧ field.tag ≠ Tag.checkSum

theorem composed_ofType (version : String) (type : MsgType) : (ofType version type).Composed := by
  refine ⟨List.nodup_singleton _, fun field member => ?_⟩
  have typed : field.tag = Tag.msgType := congrArg Field.tag (List.mem_singleton.mp member)
  rw [typed]
  decide

theorem Composed.set {m : Message} (composed : m.Composed) (tag : Tag) (value : String)
    (unframed : tag ≠ Tag.beginString ∧ tag ≠ Tag.bodyLength ∧ tag ≠ Tag.checkSum) :
    (m.set tag value).Composed where
  distinct := by
    rw [Message.set, map_tag_put]
    split
    · exact composed.distinct
    · rename_i absent
      exact List.nodup_append_comm.mp (List.nodup_cons.mpr ⟨absent, composed.distinct⟩)
  unframed := (forall_mem_put_iff tag value composed.unframed).mpr unframed

end Message

theorem SessionConfig.prefix_of_isVersion {text : String} (version : isVersion text = true) :
    [70, 73, 88] <+: Utf8.encode text := by
  obtain ⟨rest, whole⟩ := List.isPrefixOf_iff_prefix.mp version
  have split : text = "FIX" ++ String.ofList rest := String.toList_inj.mp (by simpa using whole.symm)
  rw [split, Utf8.encode_append]
  exact List.prefix_append [70, 73, 88] _

/-- The message with the fields that stand behind the type of every message. -/
def Message.headed (m : Message) (sender target number time : String) : Message :=
  (((m.set Tag.senderCompId sender).set Tag.targetCompId target).set Tag.msgSeqNum number).set
    Tag.sendingTime time

theorem Message.get_headed (m : Message) (sender target number time : String) {tag : Tag}
    (other : tag ∉ Tag.requiredHeader) : (m.headed sender target number time).get tag = m.get tag := by
  simp only [Tag.requiredHeader, List.mem_cons, List.not_mem_nil, or_false, not_or] at other
  obtain ⟨sender, target, number, time⟩ := other
  rw [headed, get_set_of_ne _ _ (Ne.symm time), get_set_of_ne _ _ (Ne.symm number),
    get_set_of_ne _ _ (Ne.symm target), get_set_of_ne _ _ (Ne.symm sender)]

namespace Wire

/-- A message that has all a receiver asks for. -/
structure Deliverable (m : Message) : Prop extends m.Composed where
  version : [70, 73, 88] <+: Utf8.encode m.beginString
  header : ∀ tag ∈ Tag.msgType :: Tag.requiredHeader, m.contains tag = true

/-- The header makes a message of a known type complete. -/
theorem deliverable_headed {m : Message} (composed : m.Composed)
    (version : [70, 73, 88] <+: Utf8.encode m.beginString) {type : String}
    (typed : m.get Tag.msgType = some type) (sender target number time : String) :
    Deliverable (m.headed sender target number time) where
  toComposed := by
    have sent := composed.set Tag.senderCompId sender (by decide)
    have received := sent.set Tag.targetCompId target (by decide)
    have numbered := received.set Tag.msgSeqNum number (by decide)
    exact numbered.set Tag.sendingTime time (by decide)
  version := version
  header := by
    have type := Message.contains_of_get typed
    simp only [Message.headed, Message.contains_set_iff, Tag.requiredHeader, List.forall_mem_cons]
    simp [type]

theorem Deliverable.setIfSome {m : Message} (deliverable : Deliverable m) (tag : Tag)
    (value : Option String)
    (unframed : tag ≠ Tag.beginString ∧ tag ≠ Tag.bodyLength ∧ tag ≠ Tag.checkSum) :
    Deliverable (m.setIfSome tag value) := by
  cases value with
  | none => exact deliverable
  | some value =>
    refine ⟨deliverable.toComposed.set tag value unframed, deliverable.version, fun other needed => ?_⟩
    exact (Message.contains_set_iff ..).mpr (.inr (deliverable.header other needed))

theorem checkValues_of_encode {m : Message} {bytes : List UInt8} (encodes : encode m = .ok bytes) :
    checkValues m = .ok () := (exists_encode_iff m).mp ⟨bytes, encodes⟩

/-- What is written is read with the same value under every tag, if its length can be told. -/
theorem Deliverable.decode {m : Message} (deliverable : Deliverable m) {bytes : List UInt8}
    (encodes : encode m = .ok bytes)
    (fits : (bodyBytes (bodyFields m)).length < Numeral.limit64) :
    ∃ m', Wire.decode bytes = .ok m' ∧ m'.beginString = m.beginString ∧
      ∀ tag, m'.get tag = m.get tag := by
  have checked := checkValues_of_encode encodes
  rw [encode_of_checkValues checked] at encodes
  cases encodes
  have valid := valid_written_of_fix deliverable.distinct deliverable.unframed deliverable.version
    deliverable.header checked
  have decoded := decode_of_valid valid (carries_canonicalFrame _ _)
    (by rwa [bodyBytes_canonicalFrame])
  rw [bytes_canonicalFrame] at decoded
  refine ⟨_, decoded, rfl, fun tag => ?_⟩
  exact Message.get_of_perm (bodyFields_perm deliverable.distinct deliverable.unframed)
    deliverable.distinct tag

/-! ### The first frame of a stream -/

theorem OpensWith.eq_of_prefix {limit : Nat} {stream : List UInt8} {opening other : Opening}
    (opens : OpensWith limit stream opening) (starts : other.bytes <+: stream)
    (absent : soh ∉ other.version) (digital : ∀ b ∈ other.digits, Numeral.isDigit b = true) :
    other = opening := by
  have split (o : Opening) (rest : List UInt8) : o.bytes ++ rest =
      (56 :: equals :: o.version) ++ soh :: (57 :: equals :: (o.digits ++ soh :: rest)) := by
    simp [Opening.bytes]
  have marked {version : List UInt8} (absent : soh ∉ version) :
      soh ∉ 56 :: equals :: version := by
    simp only [List.mem_cons, not_or]
    exact ⟨by decide, by decide, absent⟩
  obtain ⟨rest, whole⟩ := opens.starts
  obtain ⟨rest', whole'⟩ := starts
  rw [split] at whole whole'
  -- Both versions end at the first separator, and both lengths at the second.
  have first := (cut?_eq_some_iff soh stream _ _).mpr ⟨whole.symm, marked opens.soh_notMem_version⟩
  have first' := (cut?_eq_some_iff soh stream _ _).mpr ⟨whole'.symm, marked absent⟩
  rw [first] at first'
  simp only [Option.some.injEq, Prod.mk.injEq, List.cons.injEq, true_and] at first'
  obtain ⟨version, behind⟩ := first'
  have bare {digits : List UInt8} (digital : ∀ b ∈ digits, Numeral.isDigit b = true) : soh ∉ digits :=
    Numeral.notMem_of_isDigit rfl digital
  have second := (cut?_eq_some_iff soh _ _ rest).mpr ⟨rfl, bare opens.isDigit_digits⟩
  rw [behind, (cut?_eq_some_iff soh _ _ rest').mpr ⟨rfl, bare digital⟩] at second
  obtain ⟨digits, -⟩ := Prod.mk.inj (Option.some.inj second)
  cases opening
  cases other
  rw [Opening.mk.injEq]
  exact ⟨version.symm, digits⟩

/-- A frame that is written opens with its version and the length of its body. -/
def openingOf (version : String) (body : List UInt8) : Opening :=
  ⟨Utf8.encode version, Numeral.digits body.length⟩

theorem frame_eq (version : String) (body : List UInt8) :
    frame version body = (openingOf version body).bytes ++ (body ++
      fieldBytes Tag.checkSum (checksumDigits (checksum (frameHead version body)))) := by
  have eight : Numeral.digits Tag.beginString.toNat = [56] := by
    rw [Numeral.digits]
    rfl
  have nine : Numeral.digits Tag.bodyLength.toNat = [57] := by
    rw [Numeral.digits]
    rfl
  rw [frame]
  simp [frameHead, fieldBytes, eight, nine, openingOf, Opening.bytes]

theorem total_openingOf (version : String) (body : List UInt8) :
    (openingOf version body).total = (frame version body).length := by
  have seven : (fieldBytes Tag.checkSum (checksumDigits (checksum (frameHead version body)))).length =
      trailerLength := by
    rw [fieldBytes, Tag.checkSum, Numeral.digits, Numeral.digits]
    rfl
  rw [frame_eq, List.length_append, List.length_append, seven, Opening.total, openingOf,
    Numeral.digitsValue_digits, Nat.add_assoc]

theorem length_body_le {m : Message} {bytes : List UInt8} (encodes : encode m = .ok bytes) :
    (bodyBytes (bodyFields m)).length ≤ bytes.length := by
  rw [encode_of_checkValues (checkValues_of_encode encodes)] at encodes
  cases encodes
  rw [← total_openingOf, Opening.total, openingOf, Numeral.digitsValue_digits]
  omega

/-- Whatever part of a stream has arrived that opens with the frame of a deliverable message, if a frame
is announced, then it is this one, and it can be read. -/
theorem Deliverable.first_frame {m : Message} (deliverable : Deliverable m)
    {bytes part rest : List UInt8} (encodes : encode m = .ok bytes) (front : part <+: bytes ++ rest)
    {limit length : Nat} (found : frameLength limit part = .ok (some length)) :
    part.take length = bytes ∧ ∃ m', Wire.decode bytes = .ok m' ∧ m'.beginString = m.beginString ∧
      ∀ tag, m'.get tag = m.get tag := by
  have checked := checkValues_of_encode encodes
  have written := encodes
  rw [encode_of_checkValues checked] at written
  have whole : frame m.beginString (bodyBytes (bodyFields m)) = bytes := Except.ok.inj written
  let own := openingOf m.beginString (bodyBytes (bodyFields m))
  obtain ⟨opening, opens, total⟩ : ∃ opening, OpensWith limit (bytes ++ rest) opening ∧
      opening.total = length := by
    obtain ⟨more, stream⟩ := front
    rw [← stream]
    exact opensWith_of_frameLength (frameLength_append more found)
  -- A stream opens in one way only, and it opens with what the encoder has put in front.
  have same : own = opening := by
    refine opens.eq_of_prefix ?_ ?_ ?_
    · rw [← whole, frame_eq, List.append_assoc]
      exact List.prefix_append _ _
    · exact ((checkValues_eq_ok_iff m).mp checked).1.soh_notMem
    · exact Numeral.isDigit_of_mem_digits _
  have exact_length : length = bytes.length := by
    rw [← total, ← same, total_openingOf, whole]
  constructor
  · have there : bytes <+: part := by
      apply List.prefix_of_prefix_length_le (List.prefix_append bytes rest) front
      rw [← exact_length]
      exact (frameLength_bounds found).2
    obtain ⟨behind, rfl⟩ := there
    rw [exact_length, List.take_left]
  · have declared : Numeral.digitsValue own.digits = (bodyBytes (bodyFields m)).length :=
      Numeral.digitsValue_digits _
    have fits := opens.bodyLength_lt
    rw [← same, declared] at fits
    exact deliverable.decode encodes fits

end Wire

end FixBench
