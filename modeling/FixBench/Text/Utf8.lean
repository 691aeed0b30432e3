/-!
# UTF-8

Text travels as UTF-8. Valid bytes are exactly those the standard library decodes; for the others
`fault` locates the first sequence that rules the text out: where it starts, and how many bytes of
it could begin a character. A sequence that only lacks bytes at the end of the input is incomplete
rather than invalid. `lossy` shows every such sequence as one replacement character.
-/
namespace FixBench.Utf8

/-- The first ill-formed sequence; `length` is absent when the input ends inside it. -/
structure Fault where
  validUpTo : Nat
  length : Option Nat
  deriving DecidableEq, Repr

def Fault.message (fault : Fault) : String :=
  match fault.length with
  | some n => s!"invalid utf-8 sequence of {n} bytes from index {fault.validUpTo}"
  | none => s!"incomplete utf-8 byte sequence from index {fault.validUpTo}"

/-- What the bytes at the head of the input are. -/
inductive Head where
  /-- A character of `length` bytes. -/
  | character (length : Nat) (scalar : Nat)
  /-- `length` bytes that no continuation can make a character. -/
  | broken (length : Nat)
  /-- The beginning of a character, cut off by the end of the input. -/
  | cut
  deriving DecidableEq, Repr

def isTail (b : UInt8) : Bool := 0x80 ≤ b && b ≤ 0xBF

/-- Low six bits, the part of a continuation byte that carries data. -/
def payload (b : UInt8) : Nat := (b &&& 0x3F).toNat

/-- Allowed range of the second byte after each lead byte of three or four bytes. -/
def secondRange (lead : UInt8) : UInt8 × UInt8 :=
  if lead = 0xE0 then (0xA0, 0xBF)
  else if lead = 0xED then (0x80, 0x9F)
  else if lead = 0xF0 then (0x90, 0xBF)
  else if lead = 0xF4 then (0x80, 0x8F)
  else (0x80, 0xBF)

/-- Classifies a lead byte followed by `rest`. -/
def head (lead : UInt8) (rest : List UInt8) : Head :=
  if lead < 0x80 then .character 1 lead.toNat
  else if lead < 0xC2 || 0xF4 < lead then .broken 1
  else
    let (low, high) := secondRange lead
    match rest with
    | [] => .cut
    | b :: rest =>
      if !(low ≤ b && b ≤ high) then .broken 1
      else if lead < 0xE0 then .character 2 ((lead &&& 0x1F).toNat * 64 + payload b)
      else
        match rest with
        | [] => .cut
        | c :: rest =>
          if !isTail c then .broken 2
          else if lead < 0xF0 then
            .character 3 (((lead &&& 0x0F).toNat * 64 + payload b) * 64 + payload c)
          else
            match rest with
            | [] => .cut
            | d :: _ =>
              if !isTail d then .broken 3
              else
                .character 4
                  ((((lead &&& 0x07).toNat * 64 + payload b) * 64 + payload c) * 64 + payload d)

/-- First ill-formed sequence of `bytes`, which starts `offset` bytes into the input. -/
def faultFrom (offset : Nat) : List UInt8 → Fault
  | [] => ⟨offset, none⟩
  | lead :: rest =>
    match head lead rest with
    | .character length _ => faultFrom (offset + length) (rest.drop (length - 1))
    | .broken length => ⟨offset, some length⟩
    | .cut => ⟨offset, none⟩
  termination_by bytes => bytes.length
  decreasing_by all_goals (simp only [List.length_drop, List.length_cons]; omega)

/-- The text `bytes` encode, or the first sequence that is no character. -/
def decode (bytes : List UInt8) : Except Fault String :=
  match String.fromUTF8? bytes.toByteArray with
  | some text => .ok text
  | none => .error (faultFrom 0 bytes)

def encode (text : String) : List UInt8 := text.toByteArray.data.toList

/-- Characters of `bytes`, with one replacement character for each ill-formed sequence. -/
def lossyChars : List UInt8 → List Char
  | [] => []
  | lead :: rest =>
    match head lead rest with
    | .character length scalar => Char.ofNat scalar :: lossyChars (rest.drop (length - 1))
    | .broken length => Char.ofNat 0xFFFD :: lossyChars (rest.drop (length - 1))
    | .cut => [Char.ofNat 0xFFFD]
  termination_by bytes => bytes.length
  decreasing_by all_goals (simp only [List.length_drop, List.length_cons]; omega)

def lossy (bytes : List UInt8) : String := String.ofList (lossyChars bytes)

end FixBench.Utf8
