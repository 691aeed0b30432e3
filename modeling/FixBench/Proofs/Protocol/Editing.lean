import FixBench.Proofs.Protocol.Message

/-!
# Messages under construction

A message is put together by setting fields and taking them out. An `Edit` is one such call, and a
history is a list of them, the oldest first. What the message holds in the end can be told from its
history alone: under every tag the value that was last set since the tag was last removed, and the
tags in the order in which they were first set since. `Message.Reflects` says so. It is kept by every
edit (`Message.Reflects.edit`), and so by any number of them.
-/
namespace FixBench

/-! ### Edits -/

/-- A call that changes a message. The chained form of `set` is `set` as well. -/
inductive Edit where
  | set (tag : Tag) (value : String)
  | setIfSome (tag : Tag) (value : Option String)
  | remove (tag : Tag)
  deriving DecidableEq, Repr

namespace Edit

def tag : Edit → Tag
  | set tag _ | setIfSome tag _ | remove tag => tag

def apply (m : Message) : Edit → Message
  | set tag value => m.set tag value
  | setIfSome tag value => m.setIfSome tag value
  | remove tag => (m.remove tag).2

/-- The field that the edit sets, if it sets one. -/
def field? : Edit → Option Field
  | set tag value => some ⟨tag, value⟩
  | setIfSome tag value => value.map (Field.mk tag)
  | remove _ => none

/-- The edit sets the tag to this value. -/
def Sets (e : Edit) (tag : Tag) (value : String) : Prop := e.field? = some ⟨tag, value⟩

/-- The edit sets the tag or removes it. -/
def Touches (e : Edit) (tag : Tag) : Prop := e = remove tag ∨ ∃ value, e.Sets tag value

/-- An edit sets a field, removes one, or leaves the message as it is. -/
theorem apply_cases (e : Edit) :
    (∃ tag value, e.field? = some ⟨tag, value⟩ ∧ ∀ m, e.apply m = m.set tag value) ∨
      (∃ tag, e = remove tag) ∨
      e.field? = none ∧ (∀ tag, e ≠ remove tag) ∧ ∀ m, e.apply m = m := by
  cases e with
  | set tag value => exact .inl ⟨tag, value, rfl, fun _ => rfl⟩
  | remove tag => exact .inr (.inl ⟨tag, rfl⟩)
  | setIfSome tag value =>
    cases value with
    | none => exact .inr (.inr ⟨rfl, nofun, fun _ => rfl⟩)
    | some value => exact .inl ⟨tag, value, rfl, fun _ => rfl⟩

variable {e : Edit} {tag other : Tag} {value : String}

theorem Sets.ne_remove (sets : e.Sets tag value) (other : Tag) : e ≠ remove other := by
  rintro rfl
  cases sets

theorem Sets.sets_iff (sets : e.Sets tag value) (other : Tag) (text : String) :
    e.Sets other text ↔ tag = other ∧ value = text := by
  rw [Sets] at sets
  rw [Sets, sets, Option.some.injEq, Field.mk.injEq]

theorem Sets.exists_sets_iff (sets : e.Sets tag value) (other : Tag) :
    (∃ text, e.Sets other text) ↔ tag = other := by
  simp [sets.sets_iff]

theorem Sets.touches_iff (sets : e.Sets tag value) (other : Tag) :
    e.Touches other ↔ tag = other := by
  rw [Touches, sets.exists_sets_iff, or_iff_right (sets.ne_remove other)]

theorem not_sets_remove (tag other : Tag) (value : String) : ¬ (remove tag).Sets other value := nofun

end Edit

def Message.edited (m : Message) (edits : List Edit) : Message := edits.foldl Edit.apply m

/-! ### What a history says -/

namespace Edit

/-- The value was set, and since then nothing has happened to its tag. -/
def LastSet (history : List Edit) (tag : Tag) (value : String) : Prop :=
  ∃ earlier edit later, history = earlier ++ edit :: later ∧ edit.Sets tag value ∧
    ∀ e ∈ later, ¬ e.Touches tag

/-- The tag has not been set since it was last removed. -/
def Unset (history : List Edit) (tag : Tag) : Prop :=
  ∀ earlier edit later value, history = earlier ++ edit :: later → edit.Sets tag value →
    remove tag ∈ later

/-- The edit at this position was the first to set the tag since its last removal. -/
def InsertedAt (history : List Edit) (tag : Tag) (position : Nat) : Prop :=
  ∃ earlier edit later value, history = earlier ++ edit :: later ∧ earlier.length = position ∧
    edit.Sets tag value ∧ Unset earlier tag ∧ remove tag ∉ later

variable {history : List Edit} {e : Edit} {tag : Tag} {value : String} {position : Nat}

/-- A history can be cut at its last edit or before it. -/
theorem append_singleton_eq_iff {earlier later : List Edit} {edit : Edit} :
    history ++ [e] = earlier ++ edit :: later ↔
      history = earlier ∧ e = edit ∧ later = [] ∨
        ∃ between, later = between ++ [e] ∧ history = earlier ++ edit :: between := by
  constructor
  · intro cut
    rcases List.eq_nil_or_concat' later with rfl | ⟨between, last, rfl⟩
    · obtain ⟨same, last⟩ := List.append_inj' cut rfl
      exact .inl ⟨same, List.head_eq_of_cons_eq last, rfl⟩
    · have regrouped : history ++ [e] = (earlier ++ edit :: between) ++ [last] := by
        rw [cut, List.append_assoc, List.cons_append]
      obtain ⟨same, last⟩ := List.append_inj' regrouped rfl
      cases last
      exact .inr ⟨between, rfl, same⟩
  · rintro (⟨rfl, rfl, rfl⟩ | ⟨between, rfl, rfl⟩)
    · rfl
    · rw [List.append_assoc, List.cons_append]

theorem lastSet_append_singleton :
    LastSet (history ++ [e]) tag value ↔
      e.Sets tag value ∨ LastSet history tag value ∧ ¬ e.Touches tag := by
  constructor
  · rintro ⟨earlier, edit, later, cut, sets, untouched⟩
    obtain ⟨-, rfl, -⟩ | ⟨between, rfl, before⟩ := append_singleton_eq_iff.mp cut
    · exact .inl sets
    · refine .inr ⟨⟨earlier, edit, between, before, sets, ?_⟩, ?_⟩
      · exact fun e member => untouched e (List.mem_append_left _ member)
      · exact untouched e (List.mem_append_right _ List.mem_cons_self)
  · rintro (sets | ⟨⟨earlier, edit, later, rfl, sets, untouched⟩, last⟩)
    · exact ⟨history, e, [], rfl, sets, nofun⟩
    · refine ⟨earlier, edit, later ++ [e], append_singleton_eq_iff.mpr (.inr ⟨later, rfl, rfl⟩),
        sets, ?_⟩
      intro e' member
      rcases List.mem_append.mp member with before | here
      · exact untouched e' before
      · rw [List.mem_singleton.mp here]
        exact last

theorem unset_append_singleton :
    Unset (history ++ [e]) tag ↔
      e = remove tag ∨ Unset history tag ∧ ∀ value, ¬ e.Sets tag value := by
  constructor
  · intro unset
    by_cases removes : e = remove tag
    · exact .inl removes
    · refine .inr ⟨?_, ?_⟩
      · intro earlier edit later value cut sets
        have removed := unset earlier edit (later ++ [e]) value
          (append_singleton_eq_iff.mpr (.inr ⟨later, rfl, cut⟩)) sets
        rcases List.mem_append.mp removed with before | last
        · exact before
        · exact absurd (List.mem_singleton.mp last).symm removes
      · intro value sets
        exact absurd (unset history e [] value rfl sets) List.not_mem_nil
  · intro unset earlier edit later value cut sets
    obtain ⟨-, rfl, -⟩ | ⟨between, rfl, before⟩ := append_singleton_eq_iff.mp cut
    · rcases unset with rfl | ⟨-, none⟩
      · cases sets
      · exact absurd sets (none value)
    · rcases unset with rfl | ⟨removed, -⟩
      · exact List.mem_append_right _ List.mem_cons_self
      · exact List.mem_append_left _ (removed earlier edit between value before sets)

theorem insertedAt_append_singleton :
    InsertedAt (history ++ [e]) tag position ↔
      InsertedAt history tag position ∧ e ≠ remove tag ∨
        position = history.length ∧ (∃ value, e.Sets tag value) ∧ Unset history tag := by
  constructor
  · rintro ⟨earlier, edit, later, value, cut, here, sets, unset, kept⟩
    obtain ⟨rfl, rfl, -⟩ | ⟨between, rfl, before⟩ := append_singleton_eq_iff.mp cut
    · exact .inr ⟨here.symm, ⟨value, sets⟩, unset⟩
    · rw [List.mem_append, List.mem_singleton, not_or] at kept
      exact .inl ⟨⟨earlier, edit, between, value, before, here, sets, unset, kept.1⟩, Ne.symm kept.2⟩
  · rintro (⟨⟨earlier, edit, later, value, rfl, here, sets, unset, kept⟩, last⟩ |
      ⟨rfl, ⟨value, sets⟩, unset⟩)
    · refine ⟨earlier, edit, later ++ [e], value,
        append_singleton_eq_iff.mpr (.inr ⟨later, rfl, rfl⟩), here, sets, unset, ?_⟩
      rw [List.mem_append, List.mem_singleton, not_or]
      exact ⟨kept, Ne.symm last⟩
    · exact ⟨history, e, [], value, rfl, rfl, sets, unset, List.not_mem_nil⟩

theorem InsertedAt.lt (inserted : InsertedAt history tag position) : position < history.length := by
  obtain ⟨earlier, edit, later, value, rfl, rfl, -⟩ := inserted
  rw [List.length_append, List.length_cons]
  omega

end Edit

/-! ### What a message holds -/

namespace Message

open Edit (LastSet Unset InsertedAt)

/-- The message holds what the history says, and holds it in the order the history says. -/
structure Reflects (m : Message) (history : List Edit) : Prop where
  distinct : (m.fields.map Field.tag).Nodup
  value : ∀ tag value, m.get tag = some value ↔ LastSet history tag value
  absent : ∀ tag, m.get tag = none ↔ Unset history tag
  present : ∀ tag, tag ∈ m.fields.map Field.tag ↔ ∃ position, InsertedAt history tag position
  order : (m.fields.map Field.tag).Pairwise fun first second =>
    ∀ i j, InsertedAt history first i → InsertedAt history second j → i < j

theorem reflects_nil (version : String) (wire : Option WireInfo) :
    (⟨version, [], wire⟩ : Message).Reflects [] where
  distinct := List.nodup_nil
  value tag value := by
    refine ⟨nofun, ?_⟩
    rintro ⟨earlier, edit, later, cut, -⟩
    exact absurd cut.symm (List.append_ne_nil_of_right_ne_nil _ (List.cons_ne_nil _ _))
  absent tag := by
    refine ⟨fun _ earlier edit later value cut => ?_, fun _ => rfl⟩
    exact absurd cut.symm (List.append_ne_nil_of_right_ne_nil _ (List.cons_ne_nil _ _))
  present tag := by
    refine ⟨nofun, ?_⟩
    rintro ⟨position, inserted⟩
    exact absurd inserted.lt (Nat.not_lt_zero _)
  order := List.Pairwise.nil

namespace Reflects

variable {m : Message} {history : List Edit} {e : Edit} {tag : Tag} {value : String}

/-- Only the tag that is set can come in anew, and only if it is not there. -/
theorem insertedAt_set (reflects : m.Reflects history) (sets : e.Sets tag value) (other : Tag)
    (position : Nat) : InsertedAt (history ++ [e]) other position ↔
      InsertedAt history other position ∨
        position = history.length ∧ tag = other ∧ tag ∉ m.fields.map Field.tag := by
  rw [Edit.insertedAt_append_singleton, sets.exists_sets_iff, ← reflects.absent, get_eq_none_iff,
    and_iff_left (sets.ne_remove other)]
  refine or_congr_right (and_congr_right fun _ => and_congr_right ?_)
  rintro rfl
  exact Iff.rfl

/-- A tag that comes in anew comes last. -/
theorem order_set_absent (reflects : m.Reflects history) (sets : e.Sets tag value)
    (absent : tag ∉ m.fields.map Field.tag) :
    (m.fields.map Field.tag ++ [tag]).Pairwise fun first second =>
      ∀ i j, InsertedAt (history ++ [e]) first i → InsertedAt (history ++ [e]) second j → i < j := by
  have inserted := reflects.insertedAt_set sets
  have old {other : Tag} (member : other ∈ m.fields.map Field.tag) : tag ≠ other := by
    rintro rfl
    exact absent member
  refine List.pairwise_append.mpr ⟨?_, List.pairwise_singleton _ _, ?_⟩
  · refine reflects.order.imp_of_mem fun member member' before i j first second => ?_
    simp only [inserted, old member, old member', false_and, and_false, or_false] at first second
    exact before i j first second
  · intro other member last here i j first second
    rw [List.mem_singleton.mp here] at second
    have first : i < history.length := by
      rcases (inserted other i).mp first with earlier | ⟨-, rfl, -⟩
      · exact earlier.lt
      · exact absurd member absent
    rcases (inserted tag j).mp second with earlier | ⟨rfl, -, -⟩
    · exact absurd ((reflects.present tag).mpr ⟨j, earlier⟩) absent
    · exact first

theorem set (reflects : m.Reflects history) (sets : e.Sets tag value) :
    (m.set tag value).Reflects (history ++ [e]) := by
  have inserted := reflects.insertedAt_set sets
  constructor
  case distinct =>
    rw [Message.set, map_tag_put]
    split
    · exact reflects.distinct
    · rename_i absent
      exact List.nodup_append_comm.mp (List.nodup_cons.mpr ⟨absent, reflects.distinct⟩)
  case value =>
    -- The set field is the last edit that touches its own tag and none that touches another.
    intro other text
    rw [Edit.lastSet_append_singleton, sets.sets_iff, sets.touches_iff, ← reflects.value]
    by_cases same : tag = other
    · subst same
      simp
    · rw [get_set_of_ne m value same]
      simp [same]
  case absent =>
    intro other
    rw [Edit.unset_append_singleton, ← reflects.absent, ← not_exists, sets.exists_sets_iff,
      or_iff_right (sets.ne_remove other)]
    by_cases same : tag = other
    · subst same
      simp
    · rw [get_set_of_ne m value same]
      simp [same]
  case present =>
    intro other
    simp only [inserted, exists_or, ← reflects.present, Message.set, map_tag_put]
    split
    · rename_i there
      simp [there]
    · rename_i absent
      simp [absent, eq_comm]
  case order =>
    -- A field that is there keeps its place, so nothing is inserted; a new one comes behind all
    -- others.
    rw [Message.set, map_tag_put]
    split
    · rename_i there
      refine reflects.order.imp fun before i j first second => ?_
      simp only [inserted, there, not_true, and_false, or_false] at first second
      exact before i j first second
    · rename_i absent
      exact reflects.order_set_absent sets absent

theorem remove (reflects : m.Reflects history) (tag : Tag) :
    (m.remove tag).2.Reflects (history ++ [.remove tag]) := by
  have tags : (m.remove tag).2.fields.map Field.tag = (m.fields.map Field.tag).filter (· ≠ tag) := by
    rw [List.filter_map]
    exact congrArg (List.map Field.tag) (takeOut_snd tag reflects.distinct)
  have gone : (m.remove tag).2.get tag = none := by
    rw [get_eq_none_iff, tags]
    simp
  have removes (other : Tag) : Edit.remove tag = .remove other ↔ tag = other := by
    rw [Edit.remove.injEq]
  have touches (other : Tag) : (Edit.remove tag).Touches other ↔ tag = other := by
    simp [Edit.Touches, Edit.not_sets_remove]
  have inserted (other : Tag) (position : Nat) :
      InsertedAt (history ++ [.remove tag]) other position ↔
        InsertedAt history other position ∧ tag ≠ other := by
    simp [Edit.insertedAt_append_singleton, Edit.not_sets_remove]
  constructor
  case distinct =>
    rw [tags]
    exact reflects.distinct.filter _
  case value =>
    intro other text
    rw [Edit.lastSet_append_singleton, touches, ← reflects.value]
    by_cases same : tag = other
    · subst same
      simp [gone, Edit.not_sets_remove]
    · rw [get_remove_of_ne m same]
      simp [same, Edit.not_sets_remove]
  case absent =>
    intro other
    rw [Edit.unset_append_singleton, removes, ← reflects.absent]
    by_cases same : tag = other
    · subst same
      simp [gone]
    · rw [get_remove_of_ne m same]
      simp [same, Edit.not_sets_remove]
  case present =>
    intro other
    rw [tags, List.mem_filter, reflects.present, decide_eq_true_eq]
    simp only [inserted, exists_and_right]
    exact and_congr_right fun _ => ne_comm
  case order =>
    -- What is left stands in its old order, and no position in the history has changed.
    rw [tags]
    refine (reflects.order.filter _).imp fun before i j first second => ?_
    exact before i j ((inserted _ i).mp first).1 ((inserted _ j).mp second).1

/-- An edit that sets no field and removes none changes nothing that a history says. -/
theorem idle (reflects : m.Reflects history) (none : e.field? = none)
    (keeps : ∀ tag, e ≠ .remove tag) : m.Reflects (history ++ [e]) := by
  have sets (tag : Tag) (value : String) : ¬ e.Sets tag value := by
    rw [Edit.Sets, none]
    exact nofun
  have inserted (tag : Tag) (position : Nat) :
      InsertedAt (history ++ [e]) tag position ↔ InsertedAt history tag position := by
    simp [Edit.insertedAt_append_singleton, sets, keeps]
  constructor
  case distinct =>
    exact reflects.distinct
  case value =>
    intro tag value
    rw [Edit.lastSet_append_singleton, reflects.value]
    simp [Edit.Touches, sets, keeps]
  case absent =>
    intro tag
    rw [Edit.unset_append_singleton, reflects.absent]
    simp [sets, keeps]
  case present =>
    simpa only [inserted] using reflects.present
  case order =>
    simpa only [inserted] using reflects.order

theorem edit (reflects : m.Reflects history) (e : Edit) :
    (e.apply m).Reflects (history ++ [e]) := by
  rcases e.apply_cases with ⟨tag, value, sets, applied⟩ | ⟨tag, rfl⟩ | ⟨none, keeps, applied⟩
  · rw [applied]
    exact reflects.set sets
  · exact reflects.remove tag
  · rw [applied]
    exact reflects.idle none keeps

theorem edits (reflects : m.Reflects history) (edits : List Edit) :
    (m.edited edits).Reflects (history ++ edits) := by
  induction edits generalizing m history with
  | nil => rwa [List.append_nil]
  | cons e rest ih =>
    rw [List.append_cons]
    exact ih (reflects.edit e)

end Reflects

/-! ### Other tags -/

/-- An edit leaves the fields under other tags alone, and in their order. -/
theorem filter_apply (m : Message) (e : Edit) :
    (e.apply m).fields.filter (·.tag ≠ e.tag) = m.fields.filter (·.tag ≠ e.tag) := by
  have drops (value : String) : decide ((⟨e.tag, value⟩ : Field).tag ≠ e.tag) = false :=
    decide_eq_false (not_not_intro rfl)
  cases e with
  | set tag value => exact filter_put drops value m.fields
  | remove tag => exact filter_takeOut drops m.fields
  | setIfSome tag value =>
    cases value with
    | none => rfl
    | some value => exact filter_put drops value m.fields

theorem get_apply_of_ne (m : Message) (e : Edit) {other : Tag} (different : other ≠ e.tag) :
    (e.apply m).get other = m.get other := by
  cases e with
  | set tag value => exact get_set_of_ne m value different.symm
  | setIfSome tag value => exact get_setIfSome_of_ne m value different.symm
  | remove tag => exact get_remove_of_ne m different.symm

/-- **A message is a map that keeps the order of insertion.** However a message of a type has been
edited, no tag is there twice; under a tag is the value last set since the tag was last removed; and
the tags stand in the order in which they were first set since. Its type counts as the first thing
set. What removing a tag gives is what was found under it, and an edit of one tag leaves the values
under all others and their order as they are. -/
theorem edits_make_ordered_map (version : String) (type : MsgType) (edits : List Edit) :
    let m := (ofType version type).edited edits
    m.Reflects (.set Tag.msgType type.text :: edits) ∧ (∀ tag, (m.remove tag).1 = m.get tag) ∧
      ∀ e : Edit, (∀ other, other ≠ e.tag → (e.apply m).get other = m.get other) ∧
        (e.apply m).fields.filter (·.tag ≠ e.tag) = m.fields.filter (·.tag ≠ e.tag) := by
  intro m
  refine ⟨?_, ?_, ?_⟩
  · exact (reflects_nil version none).edits (.set Tag.msgType type.text :: edits)
  · intro tag
    exact takeOut_fst tag m.fields
  · intro e
    exact ⟨fun other different => m.get_apply_of_ne e different, m.filter_apply e⟩

/-- A tag that comes back after its removal goes to the end, one that is set again stays where it is. -/
theorem edits_make_ordered_map_reinserted :
    let edits : List Edit := [.set Tag.clOrdId "A", .set Tag.symbol "X", .remove Tag.clOrdId,
      .setIfSome Tag.text (some "t"), .setIfSome Tag.price none, .set Tag.clOrdId "B",
      .set Tag.symbol "Y"]
    let m := (ofType "FIX.4.4" .newOrderSingle).edited edits
    m.fields = [⟨Tag.msgType, "D"⟩, ⟨Tag.symbol, "Y"⟩, ⟨Tag.text, "t"⟩, ⟨Tag.clOrdId, "B"⟩] ∧
      LastSet (.set Tag.msgType "D" :: edits) Tag.clOrdId "B" ∧
      Unset (.set Tag.msgType "D" :: edits) Tag.price ∧ (m.remove Tag.symbol).1 = some "Y" ∧
      ((Edit.remove Tag.symbol).apply m).get Tag.clOrdId = some "B" := by
  intro edits m
  obtain ⟨reflects, removed, others⟩ := edits_make_ordered_map "FIX.4.4" .newOrderSingle edits
  refine ⟨by decide, ?_, ?_, ?_, ?_⟩
  · exact (reflects.value Tag.clOrdId "B").mp (by decide)
  · exact (reflects.absent Tag.price).mp (by decide)
  · rw [removed]
    decide
  · rw [(others (.remove Tag.symbol)).1 Tag.clOrdId (by decide)]
    decide

end Message

end FixBench
