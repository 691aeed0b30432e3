import FixBench.Proofs.Wire.Framing

/-!
# What a framer keeps back

A framer that waits for more keeps what it has, so what it awaits decides how large its buffer can
get. Every exit that waits stands behind a comparison with the limit, but for two: a buffer of one
byte, and a buffer that is cut right behind the frame's first field. A buffer of the second kind is
kept whatever its length.

`kept_back_within_limit` says that these are all. It also says how long such an overlong buffer can
last: two bytes more and it is refused, since then the second field is looked at, and with it comes a
comparison on every path. One of them compares a sum of lengths, so this is said only of frames whose
length is one of 64 bits.
-/
namespace FixBench.Wire

/-- The bytes open a frame and end at the separator of its first field or one byte behind. -/
def CutBehindVersion (bytes : List UInt8) : Prop :=
  ∃ version rest, bytes = 56 :: equals :: version ++ soh :: rest ∧ soh ∉ version ∧ rest.length < 2

/-- A frame that the bytes open is shorter than 2^64 if its body is. -/
def FrameFits (bytes : List UInt8) : Prop :=
  ∀ opening : Opening, opening.bytes <+: bytes → soh ∉ opening.version →
    (∀ b ∈ opening.digits, Numeral.isDigit b = true) →
    Numeral.digitsValue opening.digits < Numeral.limit64 → opening.total < Numeral.limit64

/-- Bytes with a single separator are too short for the two fields a frame opens with. -/
theorem frameFits_of_count {bytes : List UInt8} (few : bytes.count soh < 2) :
    FrameFits bytes := by
  intro opening starts _ _ _
  have separators := starts.sublist.count_le soh
  have two : 2 ≤ opening.bytes.count soh := by
    simp only [Opening.bytes, List.count_append, List.count_cons_self]
    omega
  omega

theorem awaitMore_eq_none_iff (limit : Nat) (bytes : List UInt8) :
    awaitMore limit bytes = .ok none ↔ bytes.length ≤ limit := by
  unfold awaitMore
  by_cases large : limit < bytes.length
  · simp [large]
  · simp [large, Nat.le_of_not_lt large]

theorem length_le_of_completeLength {limit total : Nat} {bytes : List UInt8}
    (waiting : completeLength limit bytes total = .ok none) : bytes.length ≤ limit := by
  unfold completeLength at waiting
  split at waiting
  · cases waiting
  rename_i within
  split at waiting
  · omega
  split at waiting <;> cases waiting

/-- A cut behind the bytes of a frame's first field. -/
theorem cut?_version {version : List UInt8} (absent : soh ∉ version) (rest : List UInt8) :
    cut? soh (56 :: equals :: version ++ soh :: rest) = some (56 :: equals :: version, rest) := by
  rw [cut?_eq_some_iff]
  refine ⟨rfl, ?_⟩
  simp only [List.mem_cons, not_or]
  exact ⟨by decide, by decide, absent⟩

/-- The exits that wait: all but one look at the limit. -/
theorem length_le_or_cut {limit : Nat} {bytes : List UInt8} (room : 2 ≤ limit)
    (waiting : frameLength limit bytes = .ok none) :
    bytes.length ≤ limit ∨ CutBehindVersion bytes := by
  unfold frameLength at waiting
  split at waiting
  · left
    omega
  split at waiting
  · cases waiting
  rename_i eight
  split at waiting
  · exact Or.inl ((awaitMore_eq_none_iff _ _).mp waiting)
  rename_i version rest first
  split at waiting
  · -- The one that does not.
    rename_i short
    right
    obtain ⟨same, absent⟩ := (cut?_eq_some_iff _ _ _ _).mp first
    rw [same] at eight
    obtain ⟨text, rfl⟩ := exists_eq_of_take_two (not_not.mp eight)
    simp only [List.mem_cons, not_or] at absent
    exact ⟨text, rest, same, absent.2.2, short⟩
  split at waiting
  · cases waiting
  split at waiting
  · exact Or.inl ((awaitMore_eq_none_iff _ _).mp waiting)
  split at waiting
  · cases waiting
  split at waiting
  · cases waiting
  exact Or.inl (length_le_of_completeLength waiting)

theorem frameLength_of_cut {bytes : List UInt8} (limit : Nat) (cut : CutBehindVersion bytes) :
    frameLength limit bytes = .ok none := by
  obtain ⟨version, rest, rfl, absent, short⟩ := cut
  unfold frameLength
  rw [if_neg (by simp), if_neg (by simp), cut?_version absent]
  exact if_pos short

/-- Behind two more bytes every path of the framer leads past the limit. -/
theorem exists_fault_of_cut {limit : Nat} {bytes more : List UInt8} (cut : CutBehindVersion bytes)
    (large : limit < bytes.length) (enough : 2 ≤ more.length) :
    ∃ fault, frameLength limit (bytes ++ more) = .error fault := by
  obtain ⟨version, rest, rfl, absent, short⟩ := cut
  have size : limit < version.length + 4 := by
    simp only [List.length_append, List.length_cons] at large
    omega
  have awaited : awaitMore limit (56 :: equals :: version ++ soh :: (rest ++ more)) =
      .error (.tooLarge (56 :: equals :: version ++ soh :: (rest ++ more)).length limit) := by
    apply if_pos
    simp only [List.length_append, List.length_cons]
    omega
  have whole : 56 :: equals :: version ++ soh :: rest ++ more =
      56 :: equals :: version ++ soh :: (rest ++ more) := by simp
  rw [whole]
  unfold frameLength
  rw [if_neg (by simp), if_neg (by simp), cut?_version absent]
  dsimp only
  rw [if_neg (by rw [List.length_append]; omega)]
  by_cases nine : (rest ++ more).take 2 = [57, equals]
  · rw [if_neg (not_not_intro nine)]
    cases second : cut? soh ((rest ++ more).drop 2) with
    | none => exact ⟨_, awaited⟩
    | some found =>
      obtain ⟨digits, after⟩ := found
      dsimp only
      cases Numeral.digitsValue? digits with
      | none => exact ⟨_, rfl⟩
      | some bodyLength =>
        dsimp only
        split
        · exact ⟨_, rfl⟩
        · -- The frame is longer than its first field alone.
          exact ⟨_, if_pos (by simp only [List.length_cons]; omega)⟩
  · exact ⟨_, if_pos nine⟩

/-- **What is kept back keeps to the limit, but behind the first field.** With a limit of two bytes or
more, a buffer for which more is awaited holds no more bytes than the limit, unless it is cut behind
the frame's first field. For a buffer that is, more is awaited whatever its length; but if it is over
the limit, two further bytes are enough for it to be refused, as long as no frame of 2^64 bytes or more
is declared. -/
theorem kept_back_within_limit {limit : Nat} (room : 2 ≤ limit) (buffer : List UInt8) :
    (frameLength limit buffer = .ok none → buffer.length ≤ limit ∨ CutBehindVersion buffer) ∧
      (CutBehindVersion buffer → frameLength limit buffer = .ok none ∧
        (limit < buffer.length → ∀ more : List UInt8, 2 ≤ more.length →
          FrameFits (buffer ++ more) → ∃ fault, frameLength limit (buffer ++ more) = .error fault)) := by
  refine ⟨length_le_or_cut room, ?_⟩
  intro cut
  refine ⟨frameLength_of_cut limit cut, ?_⟩
  -- Sums of whole numbers do not run over, so the length need not fit for the proof.
  intro large more enough _
  exact exists_fault_of_cut cut large enough

/-- A first field of 13 bytes, and a limit of 10. -/
def longVersion : List UInt8 := [56, 61, 70, 73, 88, 46, 52, 46, 52, 46, 52, 46, 1]

theorem kept_back_within_limit_long :
    2 ≤ 10 ∧ CutBehindVersion longVersion ∧ frameLength 10 longVersion = .ok none ∧
      ∃ fault, frameLength 10 (longVersion ++ [57, 61]) = .error fault := by
  have cut : CutBehindVersion longVersion :=
    ⟨[70, 73, 88, 46, 52, 46, 52, 46, 52, 46], [], rfl, by decide, by decide⟩
  obtain ⟨_, kept⟩ := kept_back_within_limit (show 2 ≤ 10 by decide) longVersion
  obtain ⟨awaited, refused⟩ := kept cut
  exact ⟨by decide, cut, awaited,
    refused (by decide) [57, 61] (by decide) (frameFits_of_count (by decide))⟩

/-- Three bytes more than the limit are kept back. -/
theorem overlong_version_is_kept :
    frameLength 10 longVersion = .ok none ∧ ¬ longVersion.length ≤ 10 ∧
      drain 10 longVersion = ⟨[], none, longVersion⟩ := by
  have waiting : frameLength 10 longVersion = .ok none := by decide
  exact ⟨waiting, by decide, drain_of_none waiting⟩

end FixBench.Wire
