import Mathlib.Data.List.Perm.Subperm
import FixBench.Proofs.Protocol.Editing
import FixBench.Proofs.Wire.Grammar

/-!
# Which messages are equal

Messages are compared from the left: they have as many fields, and each field of the left one is the
first of its tag on the right. Where no tag is repeated, this is equality of the sets of fields
(`sameAs_iff_perm`): the fields on the left are as many different ones as there are on the right, so
none is left over.

A list of fields that is given as it stands may repeat a tag, and then what is compared is no longer
the set. Comparing stays transitive. But a message is equal to itself only if fields of one tag agree
(`sameAs_self_iff`), and even then it is equal to a message that is not equal to it
(`exists_not_sameAs_of_repeated`).
-/
namespace FixBench

namespace Message

/-- No tag is there twice. -/
def Unrepeated (m : Message) : Prop := (m.fields.map Field.tag).Nodup

instance (m : Message) : Decidable m.Unrepeated := inferInstanceAs (Decidable (List.Nodup _))

/-- Fields of one tag have one value. -/
def Consistent (m : Message) : Prop :=
  ∀ first ∈ m.fields, ∀ second ∈ m.fields, first.tag = second.tag → first.value = second.value

variable {a b c : Message}

theorem sameAs_iff (a b : Message) :
    a.sameAs b = true ↔ a.beginString = b.beginString ∧ a.fields.length = b.fields.length ∧
      ∀ field ∈ a.fields, b.get field.tag = some field.value := by
  simp only [sameAs, Bool.and_eq_true, beq_iff_eq, List.all_eq_true, and_assoc]

/-! ### Comparing in general -/

/-- A field that is the first of its tag in the middle is the first of its tag on the right. -/
theorem sameAs_trans (left : a.sameAs b = true) (right : b.sameAs c = true) :
    a.sameAs c = true := by
  obtain ⟨version, length, found⟩ := (sameAs_iff a b).mp left
  obtain ⟨version', length', found'⟩ := (sameAs_iff b c).mp right
  refine (sameAs_iff a c).mpr ⟨version.trans version', length.trans length', ?_⟩
  intro field member
  exact found' ⟨field.tag, field.value⟩ (mem_of_get (found field member))

theorem sameAs_self_iff (m : Message) : m.sameAs m = true ↔ m.Consistent := by
  rw [sameAs_iff]
  constructor
  · rintro ⟨-, -, found⟩ first member second member' same
    have one := found first member
    rw [same, found second member'] at one
    exact (Option.some.inj one).symm
  · intro consistent
    refine ⟨rfl, rfl, fun field member => ?_⟩
    cases found : m.get field.tag with
    | none => exact absurd (List.mem_map_of_mem member) ((get_eq_none_iff ..).mp found)
    | some value => exact congrArg some (consistent _ (mem_of_get found) field member rfl)

/-! ### Without repeated tags -/

/-- The left fields are different from each other, all on the right, and as many as there are there. -/
theorem perm_of_sameAs (distinct : a.Unrepeated) (same : a.sameAs b = true) :
    a.fields.Perm b.fields := by
  obtain ⟨-, length, found⟩ := (sameAs_iff a b).mp same
  have different : a.fields.Nodup := distinct.of_map
  have contained : a.fields ⊆ b.fields := fun field member => mem_of_get (found field member)
  exact (List.subperm_of_subset different contained).perm_of_length_le length.ge

theorem Unrepeated.sameAs_self (distinct : a.Unrepeated) : a.sameAs a = true :=
  sameAs_of_perm rfl (List.Perm.refl _) distinct

/-- It is enough that no tag is repeated on the left. -/
theorem Unrepeated.sameAs_symm (distinct : a.Unrepeated) (same : a.sameAs b = true) :
    b.sameAs a = true :=
  sameAs_of_perm ((sameAs_iff a b).mp same).1.symm (perm_of_sameAs distinct same).symm distinct

theorem sameAs_iff_perm (distinct : a.Unrepeated) (distinct' : b.Unrepeated) :
    a.sameAs b = true ↔ a.beginString = b.beginString ∧ a.fields.Perm b.fields := by
  constructor
  · intro same
    exact ⟨((sameAs_iff a b).mp same).1, perm_of_sameAs distinct same⟩
  · rintro ⟨version, perm⟩
    exact sameAs_of_perm version perm distinct'

theorem unrepeated_edited (version : String) (type : MsgType) (edits : List Edit) :
    ((ofType version type).edited edits).Unrepeated :=
  ((reflects_nil version none).edits (.set Tag.msgType type.text :: edits)).distinct

/-- A frame with a repeated tag is not read. -/
theorem unrepeated_of_decode {input : List UInt8} {m : Message}
    (decoded : Wire.decode input = .ok m) : m.Unrepeated := by
  obtain ⟨frame, valid, rfl, carries⟩ := Wire.decode_sound decoded
  rw [Unrepeated, ← Wire.nodup_numbers_iff, ← Wire.map_number_of_denotes carries.fields]
  exact valid.body_distinct

/-- **Messages without repeated tags are equal if and only if their fields are the same set.** That is,
if they have one version and their fields are the same up to order; nothing else counts. So equality is
an equivalence among them, and equal ones hold the same under every tag. What has been built from a
type by edits is of this kind, and so is what has been read. -/
theorem sameAs_is_equality_of_field_sets :
    (∀ a b : Message, a.Unrepeated → b.Unrepeated →
        (a.sameAs b = true ↔ a.beginString = b.beginString ∧ a.fields.Perm b.fields)) ∧
      (Equivalence fun a b : {m : Message // m.Unrepeated} => a.1.sameAs b.1 = true) ∧
      (∀ a b : Message, a.Unrepeated → b.Unrepeated → a.sameAs b = true →
        ∀ tag, a.get tag = b.get tag) ∧
      (∀ version type edits, ((ofType version type).edited edits).Unrepeated) ∧
      ∀ input m, Wire.decode input = .ok m → m.Unrepeated := by
  refine ⟨fun a b distinct distinct' => sameAs_iff_perm distinct distinct', ⟨?_, ?_, ?_⟩, ?_,
    unrepeated_edited, fun input m decoded => unrepeated_of_decode decoded⟩
  · rintro ⟨a, distinct⟩
    exact distinct.sameAs_self
  · rintro ⟨a, distinct⟩ b same
    exact distinct.sameAs_symm same
  · intro a b c
    exact sameAs_trans
  · intro a b distinct distinct' same tag
    exact get_of_perm (perm_of_sameAs distinct same) distinct' tag

/-- A message that has been put together and one that has been read, in another order. -/
theorem sameAs_is_equality_of_field_sets_reordered :
    let built := (ofType "FIX.4.4" .heartbeat).edited
      [.set Tag.senderCompId "S", .set Tag.text "x", .set Tag.targetCompId "T", .remove Tag.text]
    let read : Message := ⟨"FIX.4.4", [⟨Tag.targetCompId, "T"⟩, ⟨Tag.msgType, "0"⟩,
      ⟨Tag.senderCompId, "S"⟩], some ⟨20, 7⟩⟩
    built.Unrepeated ∧ read.Unrepeated ∧ built.sameAs read = true ∧
      built.get Tag.senderCompId = read.get Tag.senderCompId := by
  intro built read
  obtain ⟨fields, -, lookups, edited, -⟩ := sameAs_is_equality_of_field_sets
  have distinct : built.Unrepeated := edited ..
  have distinct' : read.Unrepeated := by decide
  have same : built.sameAs read = true := (fields _ _ distinct distinct').mpr (by decide)
  exact ⟨distinct, distinct', same, lookups _ _ distinct distinct' same _⟩

/-! ### With repeated tags -/

theorem lookup_append (tag : Tag) (front back : List Field) :
    lookup tag (front ++ back) = (lookup tag front).or (lookup tag back) := by
  induction front with
  | nil => rfl
  | cons field rest ih =>
    rw [List.cons_append, lookup, lookup]
    split
    · rfl
    · exact ih

/-- A tag that is repeated is there again behind its first field. -/
theorem exists_repeated {fields : List Field} (repeated : ¬ (fields.map Field.tag).Nodup) :
    ∃ front field back, fields = front ++ field :: back ∧ field.tag ∈ front.map Field.tag := by
  induction fields with
  | nil => exact absurd List.nodup_nil repeated
  | cons first rest ih =>
    by_cases distinct : (rest.map Field.tag).Nodup
    · have again : first.tag ∈ rest.map Field.tag := by
        by_contra new
        exact repeated (List.nodup_cons.mpr ⟨new, distinct⟩)
      obtain ⟨field, member, same⟩ := List.mem_map.mp again
      obtain ⟨between, back, rfl⟩ := List.append_of_mem member
      refine ⟨first :: between, field, back, rfl, ?_⟩
      rw [same]
      exact List.mem_cons_self
    · obtain ⟨front, field, back, rfl, again⟩ := ih distinct
      exact ⟨first :: front, field, back, rfl, List.mem_cons_of_mem _ again⟩

/-- With another value in a field that is never found, the message on the right is still equal. From
there the comparison meets the other value, and fails. -/
theorem exists_not_sameAs_of_repeated (own : a.sameAs a = true) (repeated : ¬ a.Unrepeated) :
    ∃ b : Message, a.sameAs b = true ∧ b.sameAs a = false := by
  obtain ⟨front, field, back, whole, again⟩ := exists_repeated repeated
  let changed : Field := ⟨field.tag, field.value ++ "!"⟩
  let b : Message := { a with fields := front ++ changed :: back }
  obtain ⟨-, -, found⟩ := (sameAs_iff a a).mp own
  have unseen (tag : Tag) : b.get tag = a.get tag := by
    rw [get, get, whole, lookup_append, lookup_append, lookup, lookup]
    by_cases here : field.tag = tag
    · -- The fields in front decide.
      have before : lookup tag front ≠ none := fun absent =>
        (lookup_eq_none_iff tag front).mp absent (here ▸ again)
      obtain ⟨value, first⟩ := Option.ne_none_iff_exists'.mp before
      rw [first, Option.some_or, Option.some_or]
    · rw [if_neg here, if_neg here]
  refine ⟨b, (sameAs_iff a b).mpr ⟨rfl, ?_, ?_⟩, ?_⟩
  · simp [b, whole]
  · intro other member
    rw [unseen, found other member]
  · by_contra same
    rw [Bool.not_eq_false, sameAs_iff] at same
    have met := same.2.2 changed (by simp [b])
    have kept := found field (by simp [whole])
    have values : field.value = field.value ++ "!" :=
      Option.some.inj (kept.symm.trans met)
    have lengths := congrArg String.length values
    rw [String.length_append] at lengths
    exact absurd lengths (Nat.ne_of_lt (Nat.lt_add_of_pos_right (by decide)))

/-- **Equality keeps its laws exactly for messages without repeated tags.** Such a message is equal to
itself and to no message that is not equal to it, and no other message is like this. A message is
equal to itself just if its fields of one tag agree. Equality is transitive in any case. -/
theorem sameAs_lawful_iff_unrepeated (a : Message) :
    (a.sameAs a = true ∧ (∀ b, a.sameAs b = true → b.sameAs a = true) ↔ a.Unrepeated) ∧
      (a.sameAs a = true ↔ a.Consistent) ∧
      ∀ b c, a.sameAs b = true → b.sameAs c = true → a.sameAs c = true := by
  refine ⟨⟨?_, ?_⟩, a.sameAs_self_iff, fun b c => sameAs_trans⟩
  · rintro ⟨own, symmetric⟩
    by_contra repeated
    obtain ⟨b, same, different⟩ := exists_not_sameAs_of_repeated own repeated
    rw [symmetric b same] at different
    cases different
  · intro distinct
    exact ⟨distinct.sameAs_self, fun b => distinct.sameAs_symm⟩

/-- A message that repeats one field, and two that hold ever more besides it. -/
theorem sameAs_lawful_iff_unrepeated_tripled :
    let field : Field := ⟨Tag.text, "x"⟩
    let a : Message := ⟨"FIX.4.4", [field, field, field], none⟩
    let b : Message := ⟨"FIX.4.4", [field, ⟨Tag.symbol, "S"⟩, field], none⟩
    let c : Message := ⟨"FIX.4.4", [⟨Tag.symbol, "S"⟩, field, ⟨Tag.price, "1"⟩], none⟩
    a.Consistent ∧ a.sameAs b = true ∧ b.sameAs c = true ∧ a.sameAs c = true ∧
      ∃ d : Message, a.sameAs d = true ∧ d.sameAs a ≠ true := by
  intro field a b c
  obtain ⟨lawful, self, transitive⟩ := sameAs_lawful_iff_unrepeated a
  have own : a.sameAs a = true := by decide
  have first : a.sameAs b = true := by decide
  have second : b.sameAs c = true := by decide
  have unlawful : ¬ ∀ d, a.sameAs d = true → d.sameAs a = true := by
    intro symmetric
    exact absurd (lawful.mp ⟨own, symmetric⟩) (by decide)
  push Not at unlawful
  exact ⟨self.mp own, first, second, transitive b c first second, unlawful⟩

/-- Two fields of one tag that differ make a message unequal to itself. Two that agree leave it equal to
itself, and equal to a message that is not equal to it. -/
theorem repeated_tag_breaks_equality :
    let torn : Message :=
      ⟨"FIX.4.4", [⟨Tag.msgType, "D"⟩, ⟨Tag.text, "x"⟩, ⟨Tag.text, "y"⟩], none⟩
    let doubled : Message := ⟨"FIX.4.4", [⟨Tag.msgType, "0"⟩, ⟨Tag.msgType, "0"⟩], none⟩
    let other : Message := ⟨"FIX.4.4", [⟨Tag.msgType, "0"⟩, ⟨Tag.testReqId, "T"⟩], none⟩
    torn.sameAs torn = false ∧ doubled.sameAs doubled = true ∧
      doubled.sameAs other = true ∧ other.sameAs doubled = false := by
  decide

end Message

end FixBench
