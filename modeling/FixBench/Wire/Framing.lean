import FixBench.Wire.FieldWalk

/-!
# Framing

A byte stream is cut into frames by the declared body length alone: neither the checksum nor the
fields of the body are looked at, so a frame damaged inside is still one frame. A frame that is not
there yet in full is awaited, unless it is certain to be longer than the limit.
-/
namespace FixBench.Wire

/-- Why a stream holds no further frame, or a message cannot be put on it. -/
inductive FrameFault where
  | beginString
  | noBodyLength
  | bodyLength
  | noTrailer
  | tooLarge (size limit : Nat)
  | unencodable (fault : BuildFault)
  | stream (text : String)
  deriving DecidableEq, Repr

def FrameFault.message : FrameFault → String
  | .beginString => "invalid begin string: frame must start with 8="
  | .noBodyLength => "missing body length field (tag 9)"
  | .bodyLength => "invalid body length value"
  | .noTrailer => "frame trailer not found at declared body length"
  | .tooLarge size limit => s!"message too large: {size} bytes exceeds maximum {limit}"
  | .unencodable fault => s!"unencodable message: {fault.message}"
  | .stream text => s!"io error: {text}"

/-- Short name of the cause. -/
def FrameFault.name : FrameFault → String
  | .beginString => "InvalidBeginString"
  | .noBodyLength => "MissingBodyLength"
  | .bodyLength => "InvalidBodyLength"
  | .noTrailer => "MissingTrailer"
  | .tooLarge .. => "MessageTooLarge"
  | .unencodable _ => "Unencodable"
  | .stream _ => "Io"

def defaultLimit : Nat := 64 * 1024

/-- Bytes of a trailer: `10=`, three digits and a separator. -/
def trailerLength : Nat := 7

/-- The answer while the frame's first two fields are not complete. -/
def awaitMore (limit : Nat) (bytes : List UInt8) : Except FrameFault (Option Nat) :=
  if limit < bytes.length then .error (.tooLarge bytes.length limit) else .ok none

/-- Whether a trailer field of seven bytes ends `frame`. -/
def endsWithTrailer (frame : List UInt8) : Bool :=
  let trailer := frame.drop (frame.length - trailerLength)
  trailer.take 3 == [49, 48, equals] && trailer.getLast? == some soh

/-- The length of a frame that declares to end at `total`, if it does and all of it is there. -/
def completeLength (limit : Nat) (bytes : List UInt8) (total : Nat) :
    Except FrameFault (Option Nat) :=
  if limit < total then .error (.tooLarge total limit)
  else if bytes.length < total then .ok none
  else if endsWithTrailer (bytes.take total) then .ok (some total)
  else .error .noTrailer

theorem completeLength_bounds {limit total length : Nat} {bytes : List UInt8}
    (found : completeLength limit bytes total = .ok (some length)) :
    length = total ∧ length ≤ bytes.length := by
  unfold completeLength at found
  split at found
  · simp at found
  · split at found
    · simp at found
    · split at found
      · simp only [Except.ok.injEq, Option.some.injEq] at found
        omega
      · simp at found

/-- Length of the frame at the head of `bytes`, once all of it is there. The declared length of the
body is below 2^64 and is added to the rest as a whole number. Words of 64 bits give the same sum as
long as the whole frame stays below 2^64; past that, words run over and this sum does not. -/
def frameLength (limit : Nat) (bytes : List UInt8) : Except FrameFault (Option Nat) :=
  if bytes.length < 2 then .ok none
  else if bytes.take 2 ≠ [56, equals] then .error .beginString
  else
    match cut? soh bytes with
    | none => awaitMore limit bytes
    | some (version, rest) =>
      if rest.length < 2 then .ok none
      else if rest.take 2 ≠ [57, equals] then .error .noBodyLength
      else
        match cut? soh (rest.drop 2) with
        | none => awaitMore limit bytes
        | some (digits, _) =>
          match Numeral.digitsValue? digits with
          | none => .error .bodyLength
          | some bodyLength =>
            if Numeral.limit64 ≤ bodyLength then .error .bodyLength
            else
              completeLength limit bytes
                (version.length + 1 + 2 + digits.length + 1 + bodyLength + trailerLength)

theorem awaitMore_ne_some {limit length : Nat} {bytes : List UInt8} :
    awaitMore limit bytes ≠ .ok (some length) := by
  unfold awaitMore
  split <;> simp

theorem frameLength_bounds {limit : Nat} {bytes : List UInt8} {length : Nat}
    (found : frameLength limit bytes = .ok (some length)) :
    0 < length ∧ length ≤ bytes.length := by
  unfold frameLength at found
  split at found
  · simp at found
  · split at found
    · simp at found
    · split at found
      · exact absurd found awaitMore_ne_some
      · split at found
        · simp at found
        · split at found
          · simp at found
          · split at found
            · exact absurd found awaitMore_ne_some
            · split at found
              · simp at found
              · split at found
                · simp at found
                · have bounds := completeLength_bounds found
                  omega

/-- What one pass over a buffer yields: whole frames, why it ended, and the bytes kept back. -/
structure Pass where
  frames : List (List UInt8)
  fault : Option FrameFault
  left : List UInt8
  deriving DecidableEq, Repr

/-- Takes frames off the buffer until one is incomplete or faulty. -/
def drain (limit : Nat) (bytes : List UInt8) : Pass :=
  match _found : frameLength limit bytes with
  | .error fault => ⟨[], some fault, bytes⟩
  | .ok none => ⟨[], none, bytes⟩
  | .ok (some length) =>
    let after := drain limit (bytes.drop length)
    { after with frames := bytes.take length :: after.frames }
  termination_by bytes.length
  decreasing_by
    have bounds := frameLength_bounds _found
    rw [List.length_drop]
    omega

/-- A pass over the last bytes of a stream: nothing may be kept back. -/
def drainEnd (limit : Nat) (bytes : List UInt8) : Pass :=
  let pass := drain limit bytes
  match pass.fault with
  | some _ => pass
  | none =>
    if pass.left = [] then pass
    else { pass with fault := some (.stream "bytes remaining on stream") }

/-- One pass for each chunk as it arrives behind `buffer`; a fault ends the stream. -/
def drainChunks (limit : Nat) (buffer : List UInt8) : List (List UInt8) → List Pass
  | [] => []
  | chunk :: rest =>
    let pass := drain limit (buffer ++ chunk)
    match pass.fault with
    | some _ => [pass]
    | none => pass :: drainChunks limit pass.left rest

/-- The passes over a whole stream: one for each chunk and, if none of them has failed, one for the
end. -/
def drainStream (limit : Nat) (buffer : List UInt8) (chunks : List (List UInt8)) : List Pass :=
  let passes := drainChunks limit buffer chunks
  let last := (passes.getLast?).getD ⟨[], none, buffer⟩
  if last.fault.isSome then passes else passes ++ [drainEnd limit last.left]

/-- Appends a message to what is to be sent. -/
def appendMessage (buffer : List UInt8) (m : Message) : Except FrameFault (List UInt8) :=
  match encode m with
  | .ok bytes => .ok (buffer ++ bytes)
  | .error fault => .error (.unencodable fault)

end FixBench.Wire
