import FixBench.Text.Numeral

/-!
# Timestamps

A point in time is a 64-bit count of nanoseconds since the start of 1970, UTC. Its upper half stands
for the time before: the count is read as a signed number when the calendar is asked for. The text
has the form `YYYYMMDD-HH:MM:SS.mmm`; what is finer than a millisecond is cut off.
-/
namespace FixBench

/-- A day of the proleptic Gregorian calendar. -/
structure CivilDate where
  year : Int
  month : Nat
  day : Nat
  deriving DecidableEq, Repr

/-- The calendar repeats every 400 years, which count from the first of March. Within such an era
the year is found by leaving out the leap days, and the month by the pattern of 153 days in five
months. -/
def CivilDate.ofDays (days : Int) : CivilDate :=
  let shifted := days + 719468
  let era := Int.fdiv shifted 146097
  let dayOfEra := (shifted - era * 146097).toNat
  let yearOfEra := (dayOfEra - dayOfEra / 1460 + dayOfEra / 36524 - dayOfEra / 146096) / 365
  let dayOfYear := dayOfEra - (365 * yearOfEra + yearOfEra / 4 - yearOfEra / 100)
  let fifth := (5 * dayOfYear + 2) / 153
  let month := if fifth < 10 then fifth + 3 else fifth - 9
  { year := yearOfEra + era * 400 + (if month ≤ 2 then 1 else 0)
    month
    day := dayOfYear - (153 * fifth + 2) / 5 + 1 }

structure Timestamp where
  nanos : UInt64
  deriving DecidableEq, Repr

namespace Timestamp

def ofMillis (millis : Nat) : Timestamp := ⟨UInt64.ofNat (millis * 1000000)⟩

/-- The time `nanos` after the start of 1970, or that start itself if a signed 64-bit count has no
room for it. -/
def ofUnixNanos (nanos : Int) : Timestamp :=
  if -(Numeral.limit63 : Int) ≤ nanos ∧ nanos < Numeral.limit63 then
    ⟨UInt64.ofNat (nanos % Numeral.limit64).toNat⟩
  else ⟨0⟩

def millis (t : Timestamp) : Nat := t.nanos.toNat / 1000000

/-- Nanoseconds since the start of 1970, negative before it. -/
def signed (t : Timestamp) : Int :=
  if t.nanos.toNat < Numeral.limit63 then t.nanos.toNat
  else (t.nanos.toNat : Int) - Numeral.limit64

def toText (t : Timestamp) : String :=
  let total := Int.fdiv t.signed 1000000
  let date := CivilDate.ofDays (Int.fdiv total 86400000)
  let within := (Int.fmod total 86400000).toNat
  let two := Numeral.padded 2
  Numeral.padded 4 date.year.toNat ++ two date.month ++ two date.day ++ "-"
    ++ two (within / 3600000) ++ ":" ++ two (within / 60000 % 60) ++ ":"
    ++ two (within / 1000 % 60) ++ "." ++ Numeral.padded 3 (within % 1000)

/-- Whether a text has the form of a point in time. -/
def isText (text : String) : Bool :=
  let form := "00000000-00:00:00.000".toList
  text.length == form.length
    && (form.zip text.toList).all fun (f, c) => if f = '0' then c.isDigit else f == c

end Timestamp

end FixBench
