import FixBench.Binary64.Basic

/-!
# Durations

Lengths of time in whole nanoseconds. Points in time are durations since a common origin, so the
silence since an event is a truncated difference: it is zero for an event that lies ahead.

A number of seconds in double precision is rounded to the nearest nanosecond, ties to even. A
negative number, and one of 2^64 seconds or more, is no duration.
-/
namespace FixBench

structure Duration where
  nanos : Nat
  deriving DecidableEq, Repr

namespace Duration

def zero : Duration := ⟨0⟩

instance : Inhabited Duration := ⟨zero⟩

def nanosPerMilli : Nat := 1000000
def nanosPerSecond : Nat := 1000000000

def ofMillis (millis : Nat) : Duration := ⟨millis * nanosPerMilli⟩
def ofSeconds (seconds : Nat) : Duration := ⟨seconds * nanosPerSecond⟩

/-- Whole seconds, rounded down. -/
def seconds (d : Duration) : Nat := d.nanos / nanosPerSecond

/-- Whole milliseconds, rounded down. -/
def millis (d : Duration) : Nat := d.nanos / nanosPerMilli

/-- Whole microseconds, rounded down. -/
def micros (d : Duration) : Nat := d.nanos / 1000

def isZero (d : Duration) : Bool := d.nanos == 0

instance : LE Duration := ⟨fun a b => a.nanos ≤ b.nanos⟩
instance : LT Duration := ⟨fun a b => a.nanos < b.nanos⟩

instance (a b : Duration) : Decidable (a ≤ b) := inferInstanceAs (Decidable (a.nanos ≤ b.nanos))
instance (a b : Duration) : Decidable (a < b) := inferInstanceAs (Decidable (a.nanos < b.nanos))

instance : Add Duration := ⟨fun a b => ⟨a.nanos + b.nanos⟩⟩

/-- Time from `earlier` to `d`, zero if `earlier` is later. -/
def since (d earlier : Duration) : Duration := ⟨d.nanos - earlier.nanos⟩

def double (d : Duration) : Duration := ⟨2 * d.nanos⟩

/-- The longest duration: just under 2^64 seconds. -/
def longest : Duration := ⟨Nat.pow 2 64 * nanosPerSecond - 1⟩

/-- Milliseconds in 64 bits, saturating. -/
def millis64 (d : Duration) : Nat := min d.millis (Nat.pow 2 64 - 1)

/-- Seconds in double precision: whole seconds and the rest are converted apart. -/
def toSeconds (d : Duration) : Float :=
  Binary64.ofNat d.seconds + Binary64.ofNat (d.nanos % nanosPerSecond) / 1e9

/-- Why a number of seconds is no duration. -/
inductive Fault where
  | negative
  | tooBig
  deriving DecidableEq, Repr

def Fault.message : Fault → String
  | .negative => "cannot convert float seconds to Duration: value is negative"
  | .tooBig => "cannot convert float seconds to Duration: value is either too big or NaN"

def ofFloat (x : Float) : Except Fault Duration :=
  match Binary64.view x with
  | .nan => .error .tooBig
  | .infinite negative => .error (if negative then .negative else .tooBig)
  | .finite negative mantissa exponent =>
    if negative && mantissa ≠ 0 then .error .negative
    else
      let (n, d) := Binary64.ratio mantissa exponent
      let rounded : Duration := ⟨Rounding.halfEven (n * nanosPerSecond) d⟩
      if rounded ≤ longest then .ok rounded else .error .tooBig

end Duration

end FixBench
