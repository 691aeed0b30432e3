import FixBench.Proofs.Text.Numeral
import FixBench.Wire.FieldWalk

/-!
# What the field walk finds

A `Spelling` is a field as it stands on the wire, without its place there. The walk is described in
these terms in both directions: what it returns are the placed spellings of a front part of the
bytes, and the bytes of any well-formed spellings are returned as just these.

The central lemma is `nextField_eq_ok_iff`. A tag holds digits only, so the first equals sign ends
it, and a value holds no separator, so the first one after the sign ends it: the field at the head
of some bytes is determined by them.
-/
namespace FixBench.Wire

/-! ### Cuts -/

/-- A cut is at the first separator. -/
theorem cut?_eq_some_iff (separator : UInt8) (bytes before after : List UInt8) :
    cut? separator bytes = some (before, after) ↔
      bytes = before ++ separator :: after ∧ separator ∉ before := by
  constructor
  · intro found
    refine ⟨eq_of_cut? found, ?_⟩
    -- On the bytes: a step that goes on has seen a byte other than the separator.
    induction bytes generalizing before with
    | nil => cases found
    | cons b rest ih =>
      simp only [cut?] at found
      split at found
      · cases found
        simp
      · rename_i other
        split at found
        · rename_i front tail found'
          cases found
          simp only [List.mem_cons, not_or]
          exact ⟨fun same => other same.symm, ih front found'⟩
        · cases found
  · rintro ⟨rfl, absent⟩
    induction before with
    | nil => simp [cut?]
    | cons b rest ih =>
      simp only [List.mem_cons, not_or] at absent
      simp [cut?, Ne.symm absent.1, ih absent.2]

theorem cut?_eq_none_iff (separator : UInt8) (bytes : List UInt8) :
    cut? separator bytes = none ↔ separator ∉ bytes := by
  induction bytes with
  | nil => simp [cut?]
  | cons b rest ih =>
    simp only [cut?, List.mem_cons, not_or]
    split
    · rename_i same
      simp [same]
    · rename_i other
      split <;> simp_all [eq_comm]

/-! ### Spellings -/

/-- A field as it is spelled: the bytes in front of its equals sign, and those behind it. -/
structure Spelling where
  digits : List UInt8
  value : List UInt8
  deriving DecidableEq, Repr

namespace Spelling

/-- The number the digits denote, whatever their count. -/
def number (spelling : Spelling) : Nat := Numeral.digitsValue spelling.digits

def bytes (spelling : Spelling) : List UInt8 :=
  spelling.digits ++ equals :: spelling.value ++ [soh]

/-- The tag is 1 to 10 digits of a positive number of 32 bits; the value is neither empty nor cut
short by a separator of its own. -/
@[mk_iff]
structure WellFormed (spelling : Spelling) : Prop where
  digits_ne_nil : spelling.digits ≠ []
  length_digits_le : spelling.digits.length ≤ 10
  isDigit_digits : ∀ b ∈ spelling.digits, Numeral.isDigit b = true
  number_pos : 0 < spelling.number
  number_lt : spelling.number < Numeral.limit32
  value_ne_nil : spelling.value ≠ []
  soh_notMem_value : soh ∉ spelling.value

-- `List.all` and not the quantifier is what is evaluated: bytes are a finite type, and deciding
-- the quantifier could as well go through all of them.
instance (spelling : Spelling) : Decidable spelling.WellFormed :=
  decidable_of_iff (spelling.digits ≠ [] ∧ spelling.digits.length ≤ 10 ∧
      spelling.digits.all Numeral.isDigit = true ∧ 0 < spelling.number ∧
      spelling.number < Numeral.limit32 ∧ spelling.value ≠ [] ∧ soh ∉ spelling.value)
    (by rw [List.all_eq_true, wellFormed_iff])

/-- The field this spelling is when it starts at `offset`. -/
def placed (spelling : Spelling) (offset : Nat) : RawField :=
  ⟨UInt32.ofNat spelling.number, spelling.digits, spelling.value, offset⟩

theorem stop_placed (spelling : Spelling) (offset : Nat) :
    (spelling.placed offset).stop = offset + spelling.bytes.length := rfl

theorem toNat_tag_placed (spelling : Spelling) (offset : Nat)
    (wellFormed : spelling.WellFormed) : (spelling.placed offset).tag.toNat = spelling.number :=
  UInt32.toNat_ofNat_of_lt' wellFormed.number_lt

theorem tag_placed_eq_iff (spelling : Spelling) (offset : Nat) (tag : Tag)
    (wellFormed : spelling.WellFormed) :
    (spelling.placed offset).tag = tag ↔ spelling.number = tag.toNat := by
  rw [← UInt32.toNat_inj, spelling.toNat_tag_placed offset wellFormed]

/-- A tag written by `Numeral.digits` with a value that can be told apart on the wire. -/
theorem wellFormed_of_tag (tag : Tag) (value : List UInt8) (positive : tag ≠ 0)
    (nonempty : value ≠ []) (absent : soh ∉ value) :
    (⟨Numeral.digits tag.toNat, value⟩ : Spelling).WellFormed := by
  have number := Numeral.digitsValue_digits tag.toNat
  have small := tag.toNat_lt
  have nonzero : tag.toNat ≠ 0 := fun zero => positive (UInt32.toNat_inj.mp zero)
  exact {
    digits_ne_nil := Numeral.digits_ne_nil _
    length_digits_le := Numeral.length_digits_le 10 _ (by omega) (by omega)
    isDigit_digits := Numeral.isDigit_of_mem_digits _
    number_pos := by rw [Spelling.number, number]; omega
    number_lt := by rw [Spelling.number, number]; exact small
    value_ne_nil := nonempty
    soh_notMem_value := absent }

end Spelling

/-! ### One field -/

theorem readTag?_eq_some_iff (digits : List UInt8) (tag : Tag) :
    readTag? digits = some tag ↔
      digits ≠ [] ∧ digits.length ≤ 10 ∧ (∀ b ∈ digits, Numeral.isDigit b = true) ∧
        0 < Numeral.digitsValue digits ∧ Numeral.digitsValue digits < Numeral.limit32 ∧
        tag = UInt32.ofNat (Numeral.digitsValue digits) := by
  unfold readTag?
  constructor
  · intro read
    split at read
    · rename_i short
      split at read
      · rename_i value found
        obtain ⟨nonempty, digital, rfl⟩ := (Numeral.digitsValue?_eq_some_iff _ _).mp found
        split at read
        · rename_i range
          cases read
          exact ⟨nonempty, short, digital, range.1, range.2, rfl⟩
        · cases read
      · cases read
    · cases read
  · rintro ⟨nonempty, short, digital, positive, small, rfl⟩
    have found := (Numeral.digitsValue?_eq_some_iff digits _).mpr ⟨nonempty, digital, rfl⟩
    simp only [if_pos short, found, if_pos (And.intro positive small)]

/-- The field at the head of some bytes is the one well-formed spelling they start with. -/
theorem nextField_eq_ok_iff (offset : Nat) (bytes rest : List UInt8) (field : RawField) :
    nextField offset bytes = .ok (field, rest) ↔
      ∃ spelling : Spelling, spelling.WellFormed ∧ field = spelling.placed offset ∧
        bytes = spelling.bytes ++ rest := by
  constructor
  · intro found
    have whole := eq_of_nextField found
    unfold nextField at found
    split at found
    · cases found
    · rename_i digits tail first
      split at found
      · cases found
      · rename_i tag read
        obtain ⟨nonempty, short, digital, positive, small, rfl⟩ := (readTag?_eq_some_iff _ _).mp read
        split at found
        · cases found
        · cases found
        · rename_i value after filled second
          cases found
          have absent := ((cut?_eq_some_iff _ _ _ _).mp second).2
          exact ⟨⟨digits, value⟩,
            ⟨nonempty, short, digital, positive, small, filled, absent⟩, rfl, whole⟩
  · rintro ⟨spelling, wellFormed, rfl, rfl⟩
    obtain ⟨nonempty, short, digital, positive, small, filled, absent⟩ := wellFormed
    -- Digits hold no equals sign and the value no separator: both cuts are where the spelling
    -- has them.
    have first : cut? equals (spelling.bytes ++ rest) =
        some (spelling.digits, spelling.value ++ soh :: rest) :=
      (cut?_eq_some_iff _ _ _ _).mpr ⟨by simp [Spelling.bytes], Numeral.notMem_of_isDigit rfl digital⟩
    have read := (readTag?_eq_some_iff spelling.digits _).mpr
      ⟨nonempty, short, digital, positive, small, rfl⟩
    have second : cut? soh (spelling.value ++ soh :: rest) = some (spelling.value, rest) :=
      (cut?_eq_some_iff _ _ _ _).mpr ⟨rfl, absent⟩
    unfold nextField
    simp only [first, read]
    split
    · rename_i none
      simp [second] at none
    · rename_i empty
      simp only [second, Option.some.injEq, Prod.mk.injEq] at empty
      exact absurd empty.1 filled
    · rename_i found
      rw [second] at found
      cases found
      rfl

/-! ### All fields -/

/-- Spellings one after the other, the first of them at `offset`. -/
def placeAll (offset : Nat) : List Spelling → List RawField
  | [] => []
  | spelling :: rest =>
    spelling.placed offset :: placeAll (offset + spelling.bytes.length) rest

theorem walk_nil (offset : Nat) : walk offset [] = ⟨[], none, []⟩ := by
  rw [walk, if_pos rfl]

theorem walk_cons (offset : Nat) (spelling : Spelling) (rest : List UInt8)
    (wellFormed : spelling.WellFormed) :
    walk offset (spelling.bytes ++ rest) =
      let after := walk (offset + spelling.bytes.length) rest
      { after with fields := spelling.placed offset :: after.fields } := by
  have found := (nextField_eq_ok_iff offset (spelling.bytes ++ rest) rest _).mpr
    ⟨spelling, wellFormed, rfl, rfl⟩
  rw [walk, if_neg (by simp [Spelling.bytes])]
  -- `walk` matches with a proof of the match, so the answer cannot be rewritten into it.
  split
  · rename_i failed
    simp [failed] at found
  · rename_i found'
    rw [found] at found'
    cases found'
    rw [Spelling.stop_placed]

theorem walk_of_error {offset : Nat} {bytes : List UInt8} {fault : DecodeFault}
    (nonempty : bytes ≠ []) (failed : nextField offset bytes = .error fault) :
    walk offset bytes = ⟨[], some fault, bytes⟩ := by
  rw [walk, if_neg nonempty]
  split
  · rename_i failed'
    rw [failed] at failed'
    cases failed'
    rfl
  · rename_i found
    simp [failed] at found

/-- Bytes made of well-formed spellings are walked field by field. -/
theorem walk_spellings (offset : Nat) (spellings : List Spelling)
    (wellFormed : ∀ spelling ∈ spellings, spelling.WellFormed) :
    walk offset (spellings.flatMap Spelling.bytes) = ⟨placeAll offset spellings, none, []⟩ := by
  induction spellings generalizing offset with
  | nil => exact walk_nil offset
  | cons spelling rest ih =>
    rw [List.flatMap_cons, walk_cons offset spelling _ (wellFormed spelling (by simp)),
      ih _ (fun later member => wellFormed later (by simp [member]))]
    rfl

/-- The fields of a walk are placed spellings of the bytes it has passed. -/
theorem exists_spellings_walk (offset : Nat) (bytes : List UInt8) :
    ∃ spellings : List Spelling, (∀ spelling ∈ spellings, spelling.WellFormed) ∧
      (walk offset bytes).fields = placeAll offset spellings ∧
      bytes = spellings.flatMap Spelling.bytes ++ (walk offset bytes).left := by
  fun_induction walk offset bytes with
  | case1 offset => exact ⟨[], by simp, rfl, by simp⟩
  | case2 offset bytes _ fault _ => exact ⟨[], by simp, rfl, by simp⟩
  | case3 offset bytes _ field rest found after ih =>
    obtain ⟨spelling, wellFormed, rfl, rfl⟩ := (nextField_eq_ok_iff _ _ _ _).mp found
    obtain ⟨spellings, all, fields, passed⟩ := ih
    refine ⟨spelling :: spellings, ?_, ?_, ?_⟩
    · simp only [List.mem_cons, forall_eq_or_imp]
      exact ⟨wellFormed, all⟩
    · rw [placeAll, ← Spelling.stop_placed, ← fields]
    · rw [List.flatMap_cons, List.append_assoc, ← passed]

end FixBench.Wire
