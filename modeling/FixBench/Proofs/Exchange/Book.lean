import Mathlib.Data.List.Nodup
import FixBench.Exchange.Book

/-!
# The book and its index

Every operation of the book is described by what it does to the orders and by what it does to the
index. As long as no two orders have the same identifier, finding an order by identifier is
membership (`find?_eq_some_iff`), so the orders can be described as a set.

Entering an order or an identifier touches one key of the index, and the key names its owner. That is
what keeps connections apart.
-/
namespace FixBench.Exchange.Book

variable {b : Book} {e : Entry} {o : RestingOrder} {owner : Owner} {ownerId : Nat}
  {clOrdId orderId : String}

/-- No two orders have the same identifier. -/
def Distinct (b : Book) : Prop := (b.entries.map (·.order.orderId)).Nodup

/-- No order has this identifier. -/
def Fresh (b : Book) (orderId : String) : Prop := ∀ e ∈ b.entries, e.order.orderId ≠ orderId

/-! ### Orders -/

theorem mem_of_find? (found : b.find? orderId = some e) :
    e ∈ b.entries ∧ e.order.orderId = orderId :=
  ⟨List.mem_of_find?_eq_some found, by simpa using List.find?_some found⟩

theorem Distinct.eq_of_orderId (distinct : b.Distinct) {e f : Entry} (first : e ∈ b.entries)
    (second : f ∈ b.entries) (same : e.order.orderId = f.order.orderId) : e = f :=
  List.inj_on_of_nodup_map distinct first second same

theorem find?_eq_some_iff (distinct : b.Distinct) (orderId : String) (e : Entry) :
    b.find? orderId = some e ↔ e ∈ b.entries ∧ e.order.orderId = orderId := by
  refine ⟨mem_of_find?, fun ⟨member, named⟩ => ?_⟩
  cases found : b.find? orderId with
  | none =>
    have absent := List.find?_eq_none.mp found e member
    simp [named] at absent
  | some f =>
    obtain ⟨there, alike⟩ := mem_of_find? found
    rw [distinct.eq_of_orderId there member (alike.trans named.symm)]

theorem entries_insert (fresh : b.Fresh o.orderId) :
    (b.insert o owner).entries = b.entries ++ [⟨o, owner⟩] := by
  have others : b.entries.filter (fun e => e.order.orderId != o.orderId) = b.entries := by
    rw [List.filter_eq_self]
    intro e member
    simpa using fresh e member
  rw [insert, point]
  exact congrArg (· ++ [(⟨o, owner⟩ : Entry)]) others

theorem mem_insert (fresh : b.Fresh o.orderId) :
    e ∈ (b.insert o owner).entries ↔ e ∈ b.entries ∨ e = ⟨o, owner⟩ := by
  rw [entries_insert fresh, List.mem_append, List.mem_singleton]

theorem mem_update :
    e ∈ (b.update o).entries ↔
      e ∈ b.entries ∧ e.order.orderId ≠ o.orderId ∨
        ∃ former ∈ b.entries, former.order.orderId = o.orderId ∧ e = { former with order := o } := by
  rw [update, List.mem_map]
  constructor
  · rintro ⟨former, member, rfl⟩
    split
    · rename_i same
      exact .inr ⟨former, member, same, rfl⟩
    · rename_i other
      exact .inl ⟨member, other⟩
  · rintro (⟨member, other⟩ | ⟨former, member, same, rfl⟩)
    · exact ⟨e, member, if_neg other⟩
    · exact ⟨former, member, if_pos same⟩

theorem mem_removeOwner :
    e ∈ (b.removeOwner ownerId).entries ↔ e ∈ b.entries ∧ e.owner.id ≠ ownerId := by
  rw [removeOwner, List.mem_filter, bne_iff_ne]

theorem Distinct.insert (distinct : b.Distinct) (fresh : b.Fresh o.orderId) :
    (b.insert o owner).Distinct := by
  rw [Distinct, entries_insert fresh, List.map_append, List.nodup_append]
  refine ⟨distinct, List.nodup_singleton _, ?_⟩
  intro id old other last
  obtain ⟨e, member, rfl⟩ := List.mem_map.mp old
  rw [List.map_singleton, List.mem_singleton] at last
  rw [last]
  exact fresh e member

theorem Distinct.update (distinct : b.Distinct) : (b.update o).Distinct := by
  have same : (b.update o).entries.map (·.order.orderId) = b.entries.map (·.order.orderId) := by
    rw [Book.update, List.map_map]
    refine List.map_congr_left fun e _ => ?_
    rw [Function.comp_apply]
    split
    · rename_i named
      exact named.symm
    · rfl
  rw [Distinct, same]
  exact distinct

theorem Distinct.removeOwner (distinct : b.Distinct) : (b.removeOwner ownerId).Distinct :=
  distinct.sublist (List.filter_sublist.map _)

/-! ### The index -/

/-- A search is not affected by removing what it would not have accepted. -/
theorem find?_filter_of_imp {α : Type} {p q : α → Bool} (l : List α)
    (kept : ∀ a, q a = true → p a = true) : (l.filter p).find? q = l.find? q := by
  rw [List.find?_filter]
  refine congrArg (List.find? · l) (funext fun a => ?_)
  cases wanted : q a with
  | false => simp
  | true => simp [kept a wanted]

theorem resolve?_point (b : Book) (ownerId other : Nat) (clOrdId name orderId : String) :
    (b.point ownerId clOrdId orderId).resolve? other name =
      if ownerId = other ∧ clOrdId = name then some orderId else b.resolve? other name := by
  rw [resolve?, point]
  split
  · rename_i here
    simp [here]
  · rename_i elsewhere
    -- What has been removed from the index stood under the entered key, which is not this one.
    rw [List.find?_cons_of_neg (by simpa using elsewhere), find?_filter_of_imp, resolve?]
    intro i wanted
    rw [Bool.and_eq_true, beq_iff_eq, beq_iff_eq] at wanted
    obtain ⟨rfl, rfl⟩ := wanted
    rw [Bool.not_eq_true', ← Bool.not_eq_true, Bool.and_eq_true, beq_iff_eq, beq_iff_eq]
    exact fun here => elsewhere ⟨here.1.symm, here.2.symm⟩

theorem resolve?_insert (b : Book) (o : RestingOrder) (owner : Owner) (other : Nat) (name : String) :
    (b.insert o owner).resolve? other name =
      if owner.id = other ∧ o.clOrdId = name then some o.orderId else b.resolve? other name :=
  b.resolve?_point ..

theorem resolve?_update (b : Book) (o : RestingOrder) (other : Nat) (name : String) :
    (b.update o).resolve? other name = b.resolve? other name :=
  rfl

theorem resolve?_removeOwner (b : Book) (ownerId other : Nat) (name : String) :
    (b.removeOwner ownerId).resolve? other name =
      if other = ownerId then none else b.resolve? other name := by
  rw [resolve?, removeOwner]
  split
  · rename_i gone
    rw [List.find?_eq_none.mpr, Option.map_none]
    intro i member
    have foreign := (List.mem_filter.mp member).2
    simp [gone, bne_iff_ne.mp foreign]
  · rename_i stays
    rw [find?_filter_of_imp, resolve?]
    intro i wanted
    rw [Bool.and_eq_true, beq_iff_eq] at wanted
    simpa [wanted.1] using stays

/-! ### Looking orders up -/

/-- What a connection finds is its own, by one of the two identifiers. -/
theorem mem_of_locate? {name : Option String}
    (found : b.locate? ownerId name clOrdId = some o) :
    ∃ owner, ⟨o, owner⟩ ∈ b.entries ∧ owner.id = ownerId ∧
      (name = some o.orderId ∨ b.resolve? ownerId clOrdId = some o.orderId) := by
  rw [locate?] at found
  split at found
  · rename_i e looked
    split at found
    · rename_i own
      cases found
      obtain ⟨id, way, there⟩ := Option.bind_eq_some_iff.mp looked
      obtain ⟨member, named⟩ := mem_of_find? there
      refine ⟨e.owner, member, own, ?_⟩
      rw [named]
      rcases Option.or_eq_some_iff.mp way with given | ⟨-, entered⟩
      · exact .inl (Option.filter_eq_some_iff.mp given).1
      · exact .inr entered
    · cases found
  · cases found

theorem locate?_of_resolve? (distinct : b.Distinct) (member : ⟨o, owner⟩ ∈ b.entries)
    (entered : b.resolve? owner.id clOrdId = some o.orderId) :
    b.locate? owner.id none clOrdId = some o := by
  have there : b.find? o.orderId = some ⟨o, owner⟩ :=
    (find?_eq_some_iff distinct _ _).mpr ⟨member, rfl⟩
  simp [locate?, entered, there]

theorem resolve?_of_locate? (found : b.locate? ownerId none clOrdId = some o) :
    b.resolve? ownerId clOrdId = some o.orderId := by
  obtain ⟨_, -, -, given | entered⟩ := mem_of_locate? found
  · cases given
  · exact entered

theorem hasOpen_of_resolve? (distinct : b.Distinct) (member : e ∈ b.entries)
    (opened : e.order.isOpen = true)
    (entered : b.resolve? ownerId clOrdId = some e.order.orderId) :
    b.hasOpen ownerId clOrdId = true := by
  have there : b.find? e.order.orderId = some e :=
    (find?_eq_some_iff distinct _ _).mpr ⟨member, rfl⟩
  simp [hasOpen, entered, there, opened]

end FixBench.Exchange.Book
