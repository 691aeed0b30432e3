import FixBench.Proofs.Wire.FieldWalk
import FixBench.Wire.Framing

/-!
# Framing does not depend on chunks

The framer starts over at the front of a growing buffer, so what it answers depends on how much
has arrived. `frameLength_of_front` says how little: on every front part of a stream that opens
with a frame within the limit, the answer is that frame if all of it is there, and to wait if not.
In particular no front part of such a stream is refused, so a refusal is never premature.

Everything about passes over a buffer follows from that lemma alone. A pass that ends without a
fault can be continued behind what it kept back (`drain_append`), and one that ends with a fault
gives the frames of any longer stream (`frames_drain_append`).
-/
namespace FixBench.Wire

/-! ### Openings -/

/-- The two fields a frame opens with: the version's text and the digits of the body's length. -/
structure Opening where
  version : List UInt8
  digits : List UInt8

namespace Opening

def bytes (opening : Opening) : List UInt8 :=
  56 :: equals :: opening.version ++ soh :: 57 :: equals :: opening.digits ++ [soh]

/-- Length of the whole frame, as the opening declares it. -/
def total (opening : Opening) : Nat :=
  opening.bytes.length + Numeral.digitsValue opening.digits + trailerLength

theorem length_bytes (opening : Opening) :
    opening.bytes.length = opening.version.length + opening.digits.length + 6 := by
  simp [bytes]
  omega

end Opening

/-- The stream starts with a whole frame that has this opening and keeps to the limit. -/
structure OpensWith (limit : Nat) (stream : List UInt8) (opening : Opening) : Prop where
  starts : opening.bytes <+: stream
  soh_notMem_version : soh ∉ opening.version
  digits_ne_nil : opening.digits ≠ []
  isDigit_digits : ∀ b ∈ opening.digits, Numeral.isDigit b = true
  bodyLength_lt : Numeral.digitsValue opening.digits < Numeral.limit64
  total_le_limit : opening.total ≤ limit
  total_le_length : opening.total ≤ stream.length
  trailed : endsWithTrailer (stream.take opening.total) = true

theorem OpensWith.append {limit : Nat} {stream : List UInt8} {opening : Opening}
    (opens : OpensWith limit stream opening) (more : List UInt8) :
    OpensWith limit (stream ++ more) opening := by
  have enough := opens.total_le_length
  exact { opens with
    starts := opens.starts.trans (List.prefix_append _ _)
    total_le_length := by rw [List.length_append]; omega
    trailed := by rw [List.take_append_of_le_length enough]; exact opens.trailed }

/-! ### Front parts of a stream -/

/-- A front part of bytes with a separator has the same cut or, ending too early, none. -/
theorem cut?_of_front {separator : UInt8} {part before after : List UInt8}
    (absent : separator ∉ before) (front : part <+: before ++ separator :: after) :
    (cut? separator part = none ∧ part.length ≤ before.length) ∨
      ∃ rest, cut? separator part = some (before, rest) ∧
        part = before ++ separator :: rest ∧ rest <+: after := by
  obtain ⟨more, whole⟩ := front
  rcases List.append_eq_append_iff.mp whole with ⟨lacking, rfl, _⟩ | ⟨extra, rfl, split⟩
  · left
    rw [List.mem_append, not_or] at absent
    exact ⟨(cut?_eq_none_iff _ _).mpr absent.1, by simp⟩
  · cases extra with
    | nil =>
      left
      rw [List.append_nil]
      exact ⟨(cut?_eq_none_iff _ _).mpr absent, Nat.le_refl _⟩
    | cons first rest =>
      right
      rw [List.cons_append, List.cons.injEq] at split
      obtain ⟨rfl, rfl⟩ := split
      exact ⟨rest, (cut?_eq_some_iff _ _ _ _).mpr ⟨rfl, absent⟩, rfl, List.prefix_append _ _⟩

/-- A front part of bytes that start with two given ones starts with them or is shorter. -/
theorem take_two_of_front {part rest : List UInt8} {first second : UInt8}
    (front : part <+: first :: second :: rest) :
    part.length < 2 ∨
      2 ≤ part.length ∧ part.take 2 = [first, second] ∧ part.drop 2 <+: rest := by
  match part with
  | [] => exact Or.inl (by simp)
  | [_] => exact Or.inl (by simp)
  | a :: b :: tail =>
    simp only [List.cons_prefix_cons] at front
    obtain ⟨rfl, rfl, front⟩ := front
    exact Or.inr ⟨by simp, rfl, front⟩

theorem completeLength_of_front {limit : Nat} {stream part : List UInt8} {opening : Opening}
    (opens : OpensWith limit stream opening) (front : part <+: stream) :
    completeLength limit part opening.total =
      .ok (if opening.total ≤ part.length then some opening.total else none) := by
  have within := opens.total_le_limit
  unfold completeLength
  rw [if_neg (by omega)]
  by_cases there : opening.total ≤ part.length
  · obtain ⟨more, rfl⟩ := front
    have trailed := opens.trailed
    rw [List.take_append_of_le_length there] at trailed
    rw [if_neg (by omega), if_pos trailed, if_pos there]
  · rw [if_pos (by omega), if_neg there]

theorem completeLength_eq_some {limit total length : Nat} {bytes : List UInt8}
    (found : completeLength limit bytes total = .ok (some length)) :
    total ≤ limit ∧ total ≤ bytes.length ∧ endsWithTrailer (bytes.take total) = true ∧
      length = total := by
  unfold completeLength at found
  split at found
  · cases found
  split at found
  · cases found
  split at found
  · rename_i trailed
    cases found
    exact ⟨by omega, by omega, trailed, rfl⟩
  · cases found

/-- On every front part of a stream that opens with a frame, the answer is the frame if all of it
is there, and to wait if not. -/
theorem frameLength_of_front {limit : Nat} {stream part : List UInt8} {opening : Opening}
    (opens : OpensWith limit stream opening) (front : part <+: stream) :
    frameLength limit part =
      .ok (if opening.total ≤ part.length then some opening.total else none) := by
  have complete := completeLength_of_front opens front
  have size := opening.length_bytes
  have within := opens.total_le_limit
  have total : opening.total =
      opening.bytes.length + Numeral.digitsValue opening.digits + trailerLength := rfl
  -- A part that ends inside the opening is too short for the frame and for the limit alike.
  have waits (short : part.length < opening.bytes.length) :
      (.ok none : Except FrameFault (Option Nat)) =
        .ok (if opening.total ≤ part.length then some opening.total else none) := by
    rw [if_neg (by omega)]
  have awaits (short : part.length < opening.bytes.length) :
      awaitMore limit part = .ok none := by
    rw [awaitMore, if_neg (by omega)]
  obtain ⟨tail, rfl⟩ := opens.starts
  have whole : opening.bytes ++ tail = (56 :: equals :: opening.version) ++
      soh :: 57 :: equals :: (opening.digits ++ soh :: tail) := by
    simp [Opening.bytes]
  rw [whole] at front
  unfold frameLength
  rcases take_two_of_front front with short | ⟨long, eight, _⟩
  · rw [if_pos short]
    exact waits (by omega)
  rw [if_neg (by omega), if_neg (not_not_intro eight)]
  -- The version ends at the first separator of the part, if that is there yet.
  have absent : soh ∉ 56 :: equals :: opening.version := by
    simp only [List.mem_cons, not_or]
    exact ⟨by decide, by decide, opens.soh_notMem_version⟩
  rcases cut?_of_front absent front with ⟨none, short⟩ | ⟨rest, found, same, front⟩
  · simp only [none]
    simp only [List.length_cons] at short
    rw [awaits (by omega)]
    exact waits (by omega)
  have length := congrArg List.length same
  simp only [List.length_append, List.length_cons] at length
  simp only [found]
  rcases take_two_of_front front with short | ⟨long, nine, front⟩
  · rw [if_pos short]
    exact waits (by omega)
  rw [if_neg (by omega), if_neg (not_not_intro nine)]
  -- So do the digits of the length.
  have absent : soh ∉ opening.digits := Numeral.notMem_of_isDigit rfl opens.isDigit_digits
  rcases cut?_of_front absent front with ⟨none, short⟩ | ⟨_, found, _, _⟩
  · simp only [none]
    rw [List.length_drop] at short
    rw [awaits (by omega)]
    exact waits (by omega)
  have read : Numeral.digitsValue? opening.digits = some (Numeral.digitsValue opening.digits) :=
    (Numeral.digitsValue?_eq_some_iff _ _).mpr ⟨opens.digits_ne_nil, opens.isDigit_digits, rfl⟩
  have fits := opens.bodyLength_lt
  simp only [found, read]
  rw [if_neg (by omega), ← complete]
  congr 1
  simp only [List.length_cons]
  omega

theorem exists_eq_of_take_two {version rest : List UInt8}
    (eight : (version ++ soh :: rest).take 2 = [56, equals]) :
    ∃ text, version = 56 :: equals :: text := by
  match version with
  | [] => exact absurd eight (by simp [soh])
  | [_] => exact absurd eight (by simp [soh, equals])
  | a :: b :: text =>
    simp only [List.cons_append, List.take_succ_cons, List.take_zero, List.cons.injEq,
      and_true] at eight
    exact ⟨text, by rw [eight.1, eight.2]⟩

/-- A frame is only ever announced at the head of bytes that open with it. -/
theorem opensWith_of_frameLength {limit length : Nat} {bytes : List UInt8}
    (found : frameLength limit bytes = .ok (some length)) :
    ∃ opening, OpensWith limit bytes opening ∧ opening.total = length := by
  -- Of all exits only the last gives a length.
  unfold frameLength at found
  split at found
  · cases found
  split at found
  · cases found
  rename_i long eight
  split at found
  · exact absurd found awaitMore_ne_some
  rename_i version rest first
  split at found
  · cases found
  split at found
  · cases found
  rename_i long' nine
  split at found
  · exact absurd found awaitMore_ne_some
  rename_i digits after second
  split at found
  · cases found
  rename_i bodyLength read
  split at found
  · cases found
  rename_i fits
  obtain ⟨same, absent⟩ := (cut?_eq_some_iff _ _ _ _).mp first
  obtain ⟨same', _⟩ := (cut?_eq_some_iff _ _ _ _).mp second
  obtain ⟨nonempty, digital, rfl⟩ := (Numeral.digitsValue?_eq_some_iff _ _).mp read
  obtain ⟨within, enough, trailed, rfl⟩ := completeLength_eq_some found
  rw [same] at eight
  obtain ⟨text, rfl⟩ := exists_eq_of_take_two (not_not.mp eight)
  have header : rest = 57 :: equals :: (digits ++ soh :: after) := by
    rw [← List.take_append_drop 2 rest, not_not.mp nine, same']
    rfl
  have whole : bytes = (⟨text, digits⟩ : Opening).bytes ++ after := by
    simp [same, header, Opening.bytes]
  have total : (⟨text, digits⟩ : Opening).total = (56 :: equals :: text).length + 1 + 2 +
      digits.length + 1 + Numeral.digitsValue digits + trailerLength := by
    simp only [Opening.total, Opening.length_bytes, List.length_cons]
    omega
  rw [← total] at within enough trailed ⊢
  simp only [List.mem_cons, not_or] at absent
  exact ⟨⟨text, digits⟩, {
    starts := ⟨after, whole.symm⟩
    soh_notMem_version := absent.2.2
    digits_ne_nil := nonempty
    isDigit_digits := digital
    bodyLength_lt := Nat.lt_of_not_le fits
    total_le_limit := within
    total_le_length := enough
    trailed := trailed }, rfl⟩

/-- A frame stays a frame when more bytes arrive behind it. -/
theorem frameLength_append {limit length : Nat} {bytes : List UInt8} (more : List UInt8)
    (found : frameLength limit bytes = .ok (some length)) :
    frameLength limit (bytes ++ more) = .ok (some length) := by
  have bound := (frameLength_bounds found).2
  obtain ⟨opening, opens, rfl⟩ := opensWith_of_frameLength found
  rw [frameLength_of_front (opens.append more) (List.prefix_refl _),
    if_pos (by rw [List.length_append]; omega)]

/-- Bytes that are refused are not the front part of a stream that opens with a frame. -/
theorem frameLength_append_ne_some {limit length : Nat} {bytes : List UInt8} {fault : FrameFault}
    (more : List UInt8) (refused : frameLength limit bytes = .error fault) :
    frameLength limit (bytes ++ more) ≠ .ok (some length) := by
  intro found
  obtain ⟨opening, opens, _⟩ := opensWith_of_frameLength found
  rw [frameLength_of_front opens (List.prefix_append _ _)] at refused
  cases refused

/-! ### Passes -/

theorem drain_of_error {limit : Nat} {bytes : List UInt8} {fault : FrameFault}
    (refused : frameLength limit bytes = .error fault) :
    drain limit bytes = ⟨[], some fault, bytes⟩ := by
  rw [drain]
  split <;> simp_all

theorem drain_of_none {limit : Nat} {bytes : List UInt8}
    (waiting : frameLength limit bytes = .ok none) : drain limit bytes = ⟨[], none, bytes⟩ := by
  rw [drain]
  split <;> simp_all

theorem drain_of_some {limit length : Nat} {bytes : List UInt8}
    (found : frameLength limit bytes = .ok (some length)) :
    drain limit bytes =
      let after := drain limit (bytes.drop length)
      { after with frames := bytes.take length :: after.frames } := by
  rw [drain]
  split <;> simp_all

/-- A pass loses no byte. -/
theorem flatten_frames_drain (limit : Nat) (bytes : List UInt8) :
    (drain limit bytes).frames.flatten ++ (drain limit bytes).left = bytes := by
  fun_induction drain limit bytes with
  | case1 bytes fault refused => rfl
  | case2 bytes waiting => rfl
  | case3 bytes length found after ih =>
    rw [List.flatten_cons, List.append_assoc, ih, List.take_append_drop]

/-- What a pass without a fault keeps back is no frame yet. -/
theorem frameLength_left_drain {limit : Nat} {bytes : List UInt8}
    (settled : (drain limit bytes).fault = none) :
    frameLength limit (drain limit bytes).left = .ok none := by
  fun_induction drain limit bytes with
  | case1 bytes fault refused => cases settled
  | case2 bytes waiting => exact waiting
  | case3 bytes length found after ih => exact ih settled

/-- A pass without a fault is continued behind what it kept back. -/
theorem drain_append {limit : Nat} {bytes : List UInt8} (more : List UInt8)
    (settled : (drain limit bytes).fault = none) :
    drain limit (bytes ++ more) =
      let later := drain limit ((drain limit bytes).left ++ more)
      { later with frames := (drain limit bytes).frames ++ later.frames } := by
  fun_induction drain limit bytes with
  | case1 bytes fault refused => cases settled
  | case2 bytes waiting => rfl
  | case3 bytes length found after ih =>
    have bound := (frameLength_bounds found).2
    rw [drain_of_some (frameLength_append more found), List.drop_append_of_le_length bound,
      List.take_append_of_le_length bound, ih settled]
    rfl

/-- A pass with a fault has found all frames of any longer stream. -/
theorem frames_drain_append {limit : Nat} {bytes : List UInt8} (more : List UInt8)
    (failed : (drain limit bytes).fault ≠ none) :
    (drain limit (bytes ++ more)).frames = (drain limit bytes).frames := by
  fun_induction drain limit bytes with
  | case1 bytes fault refused =>
    -- More bytes may change the fault or take it away, but they do not complete a frame.
    cases answer : frameLength limit (bytes ++ more) with
    | error fault => rw [drain_of_error answer]
    | ok length? =>
      cases length? with
      | none => rw [drain_of_none answer]
      | some length => exact absurd answer (frameLength_append_ne_some more refused)
  | case2 bytes waiting => exact absurd rfl failed
  | case3 bytes length found after ih =>
    have bound := (frameLength_bounds found).2
    rw [drain_of_some (frameLength_append more found), List.drop_append_of_le_length bound,
      List.take_append_of_le_length bound]
    exact congrArg (bytes.take length :: ·) (ih failed)

/-! ### Chunks -/

/-- All frames that come out while the chunks of a stream arrive one by one. -/
def emitted (limit : Nat) (chunks : List (List UInt8)) : List (List UInt8) :=
  (drainChunks limit [] chunks).flatMap Pass.frames

/-- What is kept back when the last chunk has been worked off. -/
def keptBack (limit : Nat) (chunks : List (List UInt8)) : List UInt8 :=
  ((drainChunks limit [] chunks).getLast?.map Pass.left).getD []

/-- Behind a buffer that waits, chunks give the frames of one pass over all bytes. -/
theorem frames_drainChunks {limit : Nat} {buffer : List UInt8}
    (waiting : frameLength limit buffer = .ok none) (chunks : List (List UInt8)) :
    (drainChunks limit buffer chunks).flatMap Pass.frames =
      (drain limit (buffer ++ chunks.flatten)).frames := by
  induction chunks generalizing buffer with
  | nil => simp [drainChunks, drain_of_none waiting]
  | cons chunk rest ih =>
    rw [drainChunks, List.flatten_cons, ← List.append_assoc]
    split
    · rename_i fault failed
      rw [frames_drain_append rest.flatten (by simp [failed])]
      simp
    · rename_i settled
      rw [List.flatMap_cons, ih (frameLength_left_drain settled), drain_append _ settled]

theorem emitted_eq (limit : Nat) (chunks : List (List UInt8)) :
    emitted limit chunks = (drain limit chunks.flatten).frames :=
  frames_drainChunks rfl chunks

/-- **Chunking independence.** Two ways of cutting a stream give the same frames, and these are
the front part of the stream. -/
theorem emitted_of_same_stream (limit : Nat) (stream : List UInt8) (left right : List (List UInt8))
    (leftCuts : left.flatten = stream) (rightCuts : right.flatten = stream) :
    emitted limit left = emitted limit right ∧ (emitted limit left).flatten <+: stream := by
  rw [emitted_eq, emitted_eq, leftCuts, rightCuts]
  exact ⟨rfl, _, flatten_frames_drain limit stream⟩

/-- A frame and the beginning of another, cut inside a field and all at once. -/
theorem emitted_of_same_stream_cut :
    let first : List UInt8 := [56, 61, 70, 1, 57]
    let second : List UInt8 := [61, 50, 1, 49, 48, 49, 48, 61, 48, 48, 48, 1, 56, 61]
    [first, second].flatten = first ++ second ∧ [first ++ second].flatten = first ++ second ∧
      emitted 64 [first, second] = emitted 64 [first ++ second] ∧
      (emitted 64 [first, second]).flatten <+: first ++ second :=
  ⟨by decide, by decide, emitted_of_same_stream 64 _ _ _ (by decide) (by decide)⟩

/-! ### Streams of frames -/

/-- The outer form of a frame: whatever stands in the body and in the three bytes of the checksum,
the declared length is that of the body. -/
def Framed (frame : List UInt8) : Prop :=
  ∃ version digits body mark : List UInt8,
    frame = [56, equals] ++ version ++ [soh] ++ [57, equals] ++ digits ++ [soh] ++ body ++
      [49, 48, equals] ++ mark ++ [soh] ∧
    soh ∉ version ∧ digits ≠ [] ∧ (∀ b ∈ digits, Numeral.isDigit b = true) ∧
    Numeral.digitsValue digits = body.length ∧ mark.length = 3

/-- What a writer finishes has the form, if its version can stand in a field. -/
theorem framed_finish (writer : FrameWriter) (absent : soh ∉ Utf8.encode writer.beginString) :
    Framed writer.finish := by
  refine ⟨Utf8.encode writer.beginString, Numeral.digits writer.body.length, writer.body,
    checksumDigits (checksum (frameHead writer.beginString writer.body)), ?_, absent,
    Numeral.digits_ne_nil _, Numeral.isDigit_of_mem_digits _, Numeral.digitsValue_digits _, rfl⟩
  have eight : Numeral.digits Tag.beginString.toNat = [56] := by
    rw [Numeral.digits]
    rfl
  have nine : Numeral.digits Tag.bodyLength.toNat = [57] := by
    rw [Numeral.digits]
    rfl
  have ten : Numeral.digits Tag.checkSum.toNat = [49, 48] := by
    rw [Numeral.digits, Numeral.digits]
    rfl
  simp [FrameWriter.finish, frame, frameHead, fieldBytes, eight, nine, ten]

theorem endsWithTrailer_append (front mark : List UInt8) (three : mark.length = 3) :
    endsWithTrailer (front ++ ([49, 48, equals] ++ mark ++ [soh])) = true := by
  have seven : ([49, 48, equals] ++ mark ++ [soh]).length = trailerLength := by
    simp [three, trailerLength]
  have cut : (front ++ ([49, 48, equals] ++ mark ++ [soh])).length - trailerLength =
      front.length := by
    rw [List.length_append, seven]
    omega
  rw [endsWithTrailer, cut, List.drop_left, List.getLast?_concat]
  simp

theorem opensWith_of_framed {limit : Nat} {frame : List UInt8} (framed : Framed frame)
    (small : limit < Numeral.limit64) (within : frame.length ≤ limit) :
    ∃ opening, OpensWith limit frame opening ∧ opening.total = frame.length := by
  obtain ⟨version, digits, body, mark, same, absent, nonempty, digital, declared, three⟩ := framed
  have whole : frame = (⟨version, digits⟩ : Opening).bytes ++ body ++
      ([49, 48, equals] ++ mark ++ [soh]) := by
    simp [same, Opening.bytes]
  have total : (⟨version, digits⟩ : Opening).total = frame.length := by
    rw [whole]
    simp only [Opening.total, declared, trailerLength, List.length_append, List.length_cons,
      List.length_nil, three, Nat.add_assoc]
  refine ⟨⟨version, digits⟩, {
    starts := by rw [whole, List.append_assoc]; exact List.prefix_append _ _
    soh_notMem_version := absent
    digits_ne_nil := nonempty
    isDigit_digits := digital
    bodyLength_lt := ?_
    total_le_limit := by omega
    total_le_length := by omega
    trailed := ?_ }, total⟩
  -- The body is part of a frame below the limit, so its length can be declared.
  · have part : body.length ≤ frame.length := by
      rw [whole]
      simp only [List.length_append]
      omega
    simp only [declared]
    omega
  · rw [total, List.take_length, whole]
    exact endsWithTrailer_append _ mark three

/-- On every front part of a stream that starts with a framed byte string, the answer is that
string if all of it is there, and to wait if not. -/
theorem frameLength_of_framed {limit : Nat} {frame : List UInt8} (framed : Framed frame)
    (small : limit < Numeral.limit64) (within : frame.length ≤ limit)
    {part rest : List UInt8} (front : part <+: frame ++ rest) :
    frameLength limit part = .ok (if frame.length ≤ part.length then some frame.length else none) := by
  obtain ⟨opening, opens, total⟩ := opensWith_of_framed framed small within
  rw [← total]
  exact frameLength_of_front (opens.append rest) front

/-- A pass over a front part of a stream of frames finds no fault, and what it leaves undone is
again a front part of a stream of frames. -/
theorem drain_of_framed {limit : Nat} (small : limit < Numeral.limit64)
    (frames : List (List UInt8))
    (framed : ∀ frame ∈ frames, Framed frame ∧ frame.length ≤ limit)
    {bytes more : List UInt8} (stream : bytes ++ more = frames.flatten) :
    ∃ found rest, frames = found ++ rest ∧ (drain limit bytes).frames = found ∧
      (drain limit bytes).fault = none ∧ (drain limit bytes).left ++ more = rest.flatten := by
  induction frames generalizing bytes with
  | nil =>
    obtain ⟨rfl, rfl⟩ := List.append_eq_nil_iff.mp stream
    have waiting : frameLength limit [] = .ok none := rfl
    exact ⟨[], [], rfl, by rw [drain_of_none waiting], by rw [drain_of_none waiting],
      by rw [drain_of_none waiting]; rfl⟩
  | cons frame rest ih =>
    obtain ⟨form, within⟩ := framed frame (by simp)
    rw [List.flatten_cons] at stream
    have answer := frameLength_of_framed form small within ⟨more, stream⟩
    by_cases there : frame.length ≤ bytes.length
    · -- The first frame is there: it is taken off, and the rest of the bytes is a front part of
      -- the rest of the stream.
      rw [if_pos there] at answer
      obtain ⟨behind, rfl⟩ : frame <+: bytes :=
        List.prefix_of_prefix_length_le (List.prefix_append _ _) ⟨more, stream⟩ there
      rw [List.append_assoc, List.append_right_inj] at stream
      obtain ⟨found, left, split, frames, settled, undone⟩ :=
        ih (fun later member => framed later (by simp [member])) stream
      rw [drain_of_some answer, List.drop_left, List.take_left]
      exact ⟨frame :: found, left, by rw [split]; rfl, congrArg (frame :: ·) frames, settled, undone⟩
    · rw [if_neg there] at answer
      rw [drain_of_none answer]
      exact ⟨[], frame :: rest, rfl, rfl, rfl, stream⟩

/-- Behind a buffer that waits, the chunks of a stream of frames give these frames, no fault, and
leave nothing. -/
theorem drainChunks_of_framed {limit : Nat} (small : limit < Numeral.limit64)
    (frames : List (List UInt8))
    (framed : ∀ frame ∈ frames, Framed frame ∧ frame.length ≤ limit)
    {buffer : List UInt8} (chunks : List (List UInt8))
    (waiting : frameLength limit buffer = .ok none)
    (stream : buffer ++ chunks.flatten = frames.flatten) :
    (drainChunks limit buffer chunks).flatMap Pass.frames = frames ∧
      (∀ pass ∈ drainChunks limit buffer chunks, pass.fault = none) ∧
      ((drainChunks limit buffer chunks).getLast?.map Pass.left).getD buffer = [] := by
  induction chunks generalizing buffer frames with
  | nil =>
    cases frames with
    | nil => exact ⟨rfl, by simp [drainChunks], by simpa [drainChunks] using stream⟩
    | cons frame later =>
      -- A buffer that holds a whole frame does not wait.
      obtain ⟨form, within⟩ := framed frame (by simp)
      rw [List.flatten_nil, List.append_nil, List.flatten_cons] at stream
      subst buffer
      have answer := frameLength_of_framed form small within (List.prefix_refl (frame ++ later.flatten))
      rw [waiting, if_pos (by simp)] at answer
      cases answer
  | cons chunk rest ih =>
    rw [List.flatten_cons, ← List.append_assoc] at stream
    obtain ⟨found, later, rfl, frames, settled, undone⟩ :=
      drain_of_framed small frames framed stream
    obtain ⟨frames', settled', empty⟩ := ih later
      (fun frame member => framed frame (by simp [member])) (frameLength_left_drain settled) undone
    simp only [drainChunks, settled]
    refine ⟨?_, ?_, ?_⟩
    · rw [List.flatMap_cons, frames, frames']
    · simp only [List.mem_cons, forall_eq_or_imp]
      exact ⟨settled, settled'⟩
    · rw [List.getLast?_cons]
      cases last : (drainChunks limit (drain limit (buffer ++ chunk)).left rest).getLast? with
      | none => simpa [last] using empty
      | some pass => simpa [last] using empty

/-- **A damaged frame does not put the stream out of step.** Every writer with a version that can
stand in a field writes a framed byte string. And framed byte strings within the limit, a limit
being a 64-bit number, come out as they are however their stream is cut, without a fault and with
nothing kept back. -/
theorem emitted_of_framed :
    (∀ writer : FrameWriter, soh ∉ Utf8.encode writer.beginString → Framed writer.finish) ∧
    ∀ (limit : Nat) (frames chunks : List (List UInt8)), limit < Numeral.limit64 →
      (∀ frame ∈ frames, Framed frame ∧ frame.length ≤ limit) → chunks.flatten = frames.flatten →
      emitted limit chunks = frames ∧ (∀ pass ∈ drainChunks limit [] chunks, pass.fault = none) ∧
        keptBack limit chunks = [] := by
  refine ⟨framed_finish, ?_⟩
  intro limit frames chunks small framed stream
  exact drainChunks_of_framed small frames framed chunks rfl stream

/-- A frame with a separator, a trailer's tag and the opening of a frame in its body, and with a
checksum that is no number, comes out of two chunks as it is. -/
theorem emitted_of_framed_damaged :
    let first : List UInt8 := [56, 61, 70, 1, 57, 61, 55, 1, 49, 48, 61, 1]
    let second : List UInt8 := [56, 61, 1, 49, 48, 61, 120, 1, 61, 1]
    Framed (FrameWriter.start "FIX.4.4").finish ∧
      emitted 64 [first, second] = [first ++ second] ∧
      (∀ pass ∈ drainChunks 64 [] [first, second], pass.fault = none) ∧
      keptBack 64 [first, second] = [] := by
  refine ⟨emitted_of_framed.1 (FrameWriter.start "FIX.4.4") (by decide), ?_⟩
  refine emitted_of_framed.2 64 _ _ (by decide) ?_ (by decide)
  intro frame member
  rw [List.mem_singleton] at member
  subst frame
  exact ⟨⟨[70], [55], [49, 48, 61, 1, 56, 61, 1], [120, 1, 61], by decide, by decide, by decide,
    List.all_eq_true.mp (by decide), by decide, by decide⟩, by decide⟩

end FixBench.Wire
