import FixBench.Wire.Encode

/-!
# Field walk

Wire bytes are a sequence of fields, each its tag's digits, an equals sign, a value and a separator.
The walk takes them off the front one by one. It ends at the end of the bytes or at the first field
that is malformed, and keeps what is left from there on.

The equals sign of a field is the first one in what remains, and its separator the first after that
sign, so a value may hold equals signs and a tag may not.
-/
namespace FixBench.Wire

/-- Splits at the first `separator`, which belongs to neither part. -/
def cut? (separator : UInt8) : List UInt8 → Option (List UInt8 × List UInt8)
  | [] => none
  | b :: rest =>
    if b = separator then some ([], rest)
    else
      match cut? separator rest with
      | some (before, after) => some (b :: before, after)
      | none => none

theorem eq_of_cut? {separator : UInt8} {bytes before after : List UInt8}
    (found : cut? separator bytes = some (before, after)) :
    bytes = before ++ separator :: after := by
  induction bytes generalizing before with
  | nil => simp [cut?] at found
  | cons b rest ih =>
    simp only [cut?] at found
    split at found
    · simp_all
    · split at found
      · simp only [Option.some.injEq, Prod.mk.injEq] at found
        obtain ⟨rfl, rfl⟩ := found
        simp [ih (by assumption)]
      · simp at found

/-- A tag is 1 to 10 digits of a positive number of 32 bits. -/
def readTag? (digits : List UInt8) : Option Tag :=
  if digits.length ≤ 10 then
    match Numeral.digitsValue? digits with
    | some value => if 0 < value ∧ value < Numeral.limit32 then some (UInt32.ofNat value) else none
    | none => none
  else none

/-- A field as it stands on the wire; `offset` is where it starts. -/
structure RawField where
  tag : Tag
  digits : List UInt8
  value : List UInt8
  offset : Nat
  deriving DecidableEq, Repr

namespace RawField

def bytes (field : RawField) : List UInt8 := field.digits ++ equals :: field.value ++ [soh]

/-- Where the next field starts. -/
def stop (field : RawField) : Nat := field.offset + field.bytes.length

end RawField

/-- The field at the head of `bytes`, which start at `offset`, and the bytes after it. -/
def nextField (offset : Nat) (bytes : List UInt8) :
    Except DecodeFault (RawField × List UInt8) :=
  match cut? equals bytes with
  | none => .error (.fieldStructure offset "missing '=' separator")
  | some (digits, rest) =>
    match readTag? digits with
    | none => .error (.tagFormat (Utf8.lossy digits))
    | some tag =>
      match cut? soh rest with
      | none => .error (.fieldStructure offset "missing SOH delimiter")
      | some ([], _) => .error (.fieldStructure offset "empty value")
      | some (value, rest) => .ok (⟨tag, digits, value, offset⟩, rest)

theorem eq_of_nextField {offset : Nat} {bytes rest : List UInt8} {field : RawField}
    (found : nextField offset bytes = .ok (field, rest)) : bytes = field.bytes ++ rest := by
  unfold nextField at found
  split at found
  · simp at found
  · rename_i digits tail first
    split at found
    · simp at found
    · split at found
      · simp at found
      · simp at found
      · rename_i value rest' _ second
        simp only [Except.ok.injEq, Prod.mk.injEq] at found
        obtain ⟨rfl, rfl⟩ := found
        rw [eq_of_cut? first, eq_of_cut? second]
        simp [RawField.bytes]

/-- Outcome of a walk: the fields in front of the first fault, and the bytes from there on. -/
structure Walk where
  fields : List RawField
  fault : Option DecodeFault
  left : List UInt8
  deriving DecidableEq, Repr

def walk (offset : Nat) (bytes : List UInt8) : Walk :=
  if bytes = [] then ⟨[], none, []⟩
  else
    match _found : nextField offset bytes with
    | .error fault => ⟨[], some fault, bytes⟩
    | .ok (field, rest) =>
      let after := walk field.stop rest
      { after with fields := field :: after.fields }
  termination_by bytes.length
  decreasing_by
    rw [eq_of_nextField _found]
    simp [RawField.bytes]
    omega

/-- Bytes the walk has passed, out of `total`. -/
def Walk.offset (walked : Walk) (total : Nat) : Nat := total - walked.left.length

/-! ### One call at a time -/

/-- Takes fields off an input, one with each call. The next one starts at `offset`. -/
structure FieldReader where
  input : List UInt8
  offset : Nat
  deriving DecidableEq, Repr

namespace FieldReader

def start (input : List UInt8) : FieldReader := ⟨input, 0⟩

def isDone (reader : FieldReader) : Bool := reader.input.length ≤ reader.offset

/-- The next field, or none at the end. Only a field takes the reader on. -/
def next (reader : FieldReader) : Except DecodeFault (Option RawField) × FieldReader :=
  if reader.isDone then (.ok none, reader)
  else
    match nextField reader.offset (reader.input.drop reader.offset) with
    | .error fault => (.error fault, reader)
    | .ok (field, _) => (.ok (some field), { reader with offset := field.stop })

end FieldReader

end FixBench.Wire
