import FixBench.Session.Fault

/-!
# Sequence numbers

Each direction counts its messages from one, and zero comes after the largest 64-bit number.
Outgoing numbers are handed out in order; an incoming message is accepted only under the number
that is due. The number must be written in digits alone.
-/
namespace FixBench

structure SequenceNumbers where
  nextOut : Nat
  nextIn : Nat
  deriving DecidableEq, Repr

namespace SequenceNumbers

def initial : SequenceNumbers := ⟨1, 1⟩

/-- The number after `n`. -/
def following (n : Nat) : Nat := (n + 1) % Numeral.limit64

theorem following_eq {n : Nat} (h : n + 1 < Numeral.limit64) : following n = n + 1 :=
  Nat.mod_eq_of_lt h

/-- Hands out the next outgoing number. -/
def allocate (s : SequenceNumbers) : Nat × SequenceNumbers :=
  (s.nextOut, { s with nextOut := following s.nextOut })

/-- The number a field's text stands for. -/
def read? (raw : Option String) : Option Nat :=
  match raw with
  | none => none
  | some text =>
    match Numeral.digitsValue? (Utf8.encode text) with
    | some value => if value < Numeral.limit64 then some value else none
    | none => none

/-- Accepts an incoming message under the number that is due. -/
def accept (s : SequenceNumbers) (raw : Option String) :
    Except SessionFault (Nat × SequenceNumbers) :=
  match read? raw with
  | none => .error (.invalidSeqNum raw)
  | some received =>
    if received < s.nextIn then .error (.sequenceTooLow s.nextIn received)
    else if s.nextIn < received then .error (.sequenceGap s.nextIn received)
    else .ok (received, { s with nextIn := following s.nextIn })

end SequenceNumbers

end FixBench
