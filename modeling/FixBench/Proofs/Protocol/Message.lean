import Mathlib.Data.List.Nodup
import Mathlib.Data.List.Perm.Basic
import FixBench.Protocol.Message

/-!
# Messages with distinct tags

A look-up finds the first field under a tag. When no tag is repeated that field is the only one, so
looking up is membership, and the order of the fields has no part in equality.

Setting a field is described by what it does to look-ups and to the fields that are there; neither
needs the tags to be distinct. Taking a field out leaves the others as they are, and if no tag is
repeated, these are all the fields under other tags.
-/
namespace FixBench.Message

theorem lookup_eq_some_iff (fields : List Field) (distinct : (fields.map Field.tag).Nodup)
    (tag : Tag) (value : String) :
    lookup tag fields = some value ↔ ⟨tag, value⟩ ∈ fields := by
  induction fields with
  | nil => simp [lookup]
  | cons field rest ih =>
    rw [List.map_cons, List.nodup_cons] at distinct
    rw [lookup, List.mem_cons]
    split
    · rename_i same
      subst same
      constructor
      · intro found
        cases found
        exact Or.inl rfl
      · rintro (first | later)
        · rw [← first]
        · exact absurd (List.mem_map.mpr ⟨_, later, rfl⟩) distinct.1
    · rename_i other
      rw [ih distinct.2]
      constructor
      · exact Or.inr
      · rintro (first | later)
        · exact absurd (congrArg Field.tag first).symm other
        · exact later

/-- What is found is there, even among repeated tags. -/
theorem mem_of_get {m : Message} {tag : Tag} {value : String} (found : m.get tag = some value) :
    ⟨tag, value⟩ ∈ m.fields := by
  unfold get at found
  generalize m.fields = fields at found ⊢
  induction fields with
  | nil => cases found
  | cons field rest ih =>
    rw [lookup] at found
    split at found
    · rename_i same
      cases found
      rw [← same]
      exact List.mem_cons_self
    · exact List.mem_cons_of_mem _ (ih found)

theorem contains_iff (m : Message) (tag : Tag) :
    m.contains tag = true ↔ ∃ field ∈ m.fields, field.tag = tag := by
  simp [contains, List.any_eq_true]

theorem contains_of_get {m : Message} {tag : Tag} {value : String} (found : m.get tag = some value) :
    m.contains tag = true := by
  rw [contains_iff]
  exact ⟨_, mem_of_get found, rfl⟩

theorem lookup_eq_none_iff (tag : Tag) (fields : List Field) :
    lookup tag fields = none ↔ tag ∉ fields.map Field.tag := by
  induction fields with
  | nil => simp [lookup]
  | cons field rest ih =>
    rw [lookup, List.map_cons, List.mem_cons, not_or]
    by_cases here : field.tag = tag
    · simp [here]
    · rw [if_neg here, ih, and_iff_right (Ne.symm here)]

theorem get_eq_none_iff (m : Message) (tag : Tag) :
    m.get tag = none ↔ tag ∉ m.fields.map Field.tag :=
  lookup_eq_none_iff tag m.fields

/-- A look-up finds the first of the fields under a tag. -/
theorem lookup_eq_head? (tag : Tag) (fields : List Field) :
    lookup tag fields = (fields.filter (·.tag = tag)).head?.map Field.value := by
  induction fields with
  | nil => rfl
  | cons field rest ih =>
    rw [lookup, List.filter_cons]
    by_cases same : field.tag = tag
    · simp [same]
    · simp [same, ih]

/-- The fields under a tag are what a look-up finds. -/
theorem filter_tag_eq (fields : List Field) (distinct : (fields.map Field.tag).Nodup) (tag : Tag) :
    fields.filter (·.tag = tag) = ((lookup tag fields).map (Field.mk tag)).toList := by
  induction fields with
  | nil => rfl
  | cons field rest ih =>
    rw [List.map_cons, List.nodup_cons] at distinct
    rw [List.filter_cons, lookup]
    split
    · rename_i same
      rw [decide_eq_true_eq] at same
      subst same
      -- No later field has the tag again.
      have none : rest.filter (fun later => later.tag = field.tag) = [] := by
        rw [List.filter_eq_nil_iff]
        intro later member same
        exact distinct.1 (List.mem_map.mpr ⟨later, member, of_decide_eq_true same⟩)
      simp [none]
    · rename_i other
      rw [decide_eq_true_eq] at other
      rw [if_neg other, ih distinct.2]

theorem lookup_filter {keep : Field → Bool} {tag : Tag} (keeps : ∀ value, keep ⟨tag, value⟩ = true)
    (fields : List Field) : lookup tag (fields.filter keep) = lookup tag fields := by
  induction fields with
  | nil => rfl
  | cons field rest ih =>
    by_cases here : field.tag = tag
    · have kept : keep field = true := by
        have form : field = ⟨tag, field.value⟩ := by rw [← here]
        rw [form]
        exact keeps _
      rw [List.filter_cons_of_pos kept, lookup, lookup, if_pos here, if_pos here]
    · rw [List.filter_cons, lookup, if_neg here, ← ih]
      split
      · rw [lookup, if_neg here]
      · rfl

/-- The same fields in any order are found alike, as long as no tag is repeated. -/
theorem get_of_perm {a b : Message} (perm : a.fields.Perm b.fields)
    (distinct : (b.fields.map Field.tag).Nodup) (tag : Tag) : a.get tag = b.get tag := by
  have distinct' : (a.fields.map Field.tag).Nodup := (perm.map Field.tag).nodup_iff.mpr distinct
  apply Option.ext
  intro value
  rw [get, get, lookup_eq_some_iff _ distinct', lookup_eq_some_iff _ distinct, perm.mem_iff]

/-- Messages with one version and the same fields in any order are equal. -/
theorem sameAs_of_perm {a b : Message} (version : a.beginString = b.beginString)
    (perm : a.fields.Perm b.fields) (distinct : (b.fields.map Field.tag).Nodup) :
    a.sameAs b = true := by
  simp only [sameAs, Bool.and_eq_true, beq_iff_eq, List.all_eq_true]
  refine ⟨⟨version, perm.length_eq⟩, ?_⟩
  intro field member
  exact (lookup_eq_some_iff _ distinct _ _).mpr (perm.mem_iff.mp member)

/-! ### Setting fields -/

theorem lookup_put (fields : List Field) (tag other : Tag) (value : String) :
    lookup other (put tag value fields) = if tag = other then some value else lookup other fields := by
  induction fields with
  | nil => simp [put, lookup]
  | cons field rest ih =>
    rw [put]
    split
    · rename_i same
      simp only [lookup, same]
      split <;> rfl
    · rename_i different
      rw [lookup, ih, lookup]
      split
      · rename_i here
        rw [if_neg fun same => different (here.trans same.symm)]
      · rfl

@[simp]
theorem get_set_same (m : Message) (tag : Tag) (value : String) :
    (m.set tag value).get tag = some value := by
  rw [get, set, lookup_put, if_pos rfl]

theorem get_set_of_ne (m : Message) {tag other : Tag} (value : String) (different : tag ≠ other) :
    (m.set tag value).get other = m.get other := by
  rw [get, set, lookup_put, if_neg different, get]

theorem get_setIfSome_same (m : Message) (tag : Tag) (value : Option String) :
    (m.setIfSome tag value).get tag = value.or (m.get tag) := by
  cases value with
  | none => rfl
  | some value => exact get_set_same m tag value

theorem get_setIfSome_of_ne (m : Message) {tag other : Tag} (value : Option String)
    (different : tag ≠ other) : (m.setIfSome tag value).get other = m.get other := by
  cases value with
  | none => rfl
  | some value => exact get_set_of_ne m value different

theorem map_tag_put (tag : Tag) (value : String) (fields : List Field) :
    (put tag value fields).map Field.tag =
      if tag ∈ fields.map Field.tag then fields.map Field.tag else fields.map Field.tag ++ [tag] := by
  induction fields with
  | nil => rfl
  | cons field rest ih =>
    rw [put]
    by_cases here : field.tag = tag
    · simp [here]
    · have there : tag ∈ field.tag :: rest.map Field.tag ↔ tag ∈ rest.map Field.tag := by
        rw [List.mem_cons]
        exact or_iff_right (Ne.symm here)
      rw [if_neg here, List.map_cons, List.map_cons, ih]
      simp only [there]
      split <;> rfl

theorem filter_put {keep : Field → Bool} {tag : Tag} (drops : ∀ value, keep ⟨tag, value⟩ = false)
    (value : String) (fields : List Field) :
    (put tag value fields).filter keep = fields.filter keep := by
  induction fields with
  | nil => simp [put, drops]
  | cons field rest ih =>
    rw [put]
    split
    · rename_i here
      have dropped : keep field = false := by
        have form : field = ⟨tag, field.value⟩ := by rw [← here]
        rw [form]
        exact drops _
      rw [List.filter_cons_of_neg (by simp [drops]), List.filter_cons_of_neg (by simp [dropped])]
    · rw [List.filter_cons, List.filter_cons, ih]

theorem contains_set_iff (m : Message) (tag other : Tag) (value : String) :
    (m.set tag value).contains other = true ↔ other = tag ∨ m.contains other = true := by
  have named (m : Message) : m.contains other = true ↔ other ∈ m.fields.map Field.tag := by
    rw [contains_iff, List.mem_map]
  rw [named, named, Message.set, map_tag_put]
  split
  · rename_i there
    exact ⟨.inr, Or.rec (fun same => same ▸ there) id⟩
  · rw [List.mem_append, List.mem_singleton, or_comm]

/-- Among fields that all satisfy something, the field that is set is the only one in doubt. -/
theorem forall_mem_put_iff {P : Field → Prop} {fields : List Field} (tag : Tag) (value : String)
    (old : ∀ field ∈ fields, P field) : (∀ field ∈ put tag value fields, P field) ↔ P ⟨tag, value⟩ := by
  induction fields with
  | nil => simp [put]
  | cons field rest ih =>
    rw [List.forall_mem_cons] at old
    rw [put]
    split
    · rw [List.forall_mem_cons]
      exact and_iff_left old.2
    · rw [List.forall_mem_cons, ih old.2]
      exact and_iff_right old.1

/-! ### Removing fields -/

/-- The value that is taken out is the one that would have been found. -/
theorem takeOut_fst (tag : Tag) (fields : List Field) :
    (takeOut tag fields).1 = lookup tag fields := by
  induction fields with
  | nil => rfl
  | cons field rest ih =>
    rw [takeOut, lookup]
    split
    · rfl
    · exact ih

theorem filter_takeOut {keep : Field → Bool} {tag : Tag}
    (drops : ∀ value, keep ⟨tag, value⟩ = false) (fields : List Field) :
    (takeOut tag fields).2.filter keep = fields.filter keep := by
  induction fields with
  | nil => rfl
  | cons field rest ih =>
    rw [takeOut]
    split
    · rename_i here
      have form : field = ⟨tag, field.value⟩ := by rw [← here]
      rw [List.filter_cons_of_neg (by rw [form, drops]; exact Bool.false_ne_true)]
    · rw [List.filter_cons, List.filter_cons, ih]

theorem takeOut_snd (tag : Tag) {fields : List Field} (distinct : (fields.map Field.tag).Nodup) :
    (takeOut tag fields).2 = fields.filter (·.tag ≠ tag) := by
  induction fields with
  | nil => rfl
  | cons field rest ih =>
    rw [List.map_cons, List.nodup_cons] at distinct
    rw [takeOut, List.filter_cons]
    by_cases here : field.tag = tag
    · -- No later field has the tag, so all of them stay.
      have others : ∀ later ∈ rest, later.tag ≠ tag := by
        intro later member same
        exact distinct.1 (List.mem_map.mpr ⟨later, member, same.trans here.symm⟩)
      simp only [here, if_true, ne_eq, not_true, decide_false, Bool.false_eq_true, if_false]
      exact (List.filter_eq_self.mpr fun later member => decide_eq_true (others later member)).symm
    · simp only [here, if_false, ne_eq, not_false_iff, decide_true, if_true]
      rw [ih distinct.2]

theorem get_remove_of_ne (m : Message) {tag other : Tag} (different : tag ≠ other) :
    (m.remove tag).2.get other = m.get other := by
  -- Both are found among the fields under other tags.
  let keep (field : Field) : Bool := field.tag ≠ tag
  have found (fields : List Field) : lookup other (fields.filter keep) = lookup other fields :=
    lookup_filter (fun _ => decide_eq_true different.symm) fields
  have drops (value : String) : keep ⟨tag, value⟩ = false := decide_eq_false (not_not_intro rfl)
  calc lookup other (takeOut tag m.fields).2
    _ = lookup other ((takeOut tag m.fields).2.filter keep) := (found _).symm
    _ = lookup other (m.fields.filter keep) := by rw [filter_takeOut drops]
    _ = lookup other m.fields := found _

end FixBench.Message
