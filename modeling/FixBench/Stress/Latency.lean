import FixBench.Duration

/-!
# Latencies

A histogram counts latencies in whole microseconds. Its range ends below 2048; a value beyond the
range is recorded as 2, the highest value a fresh histogram covers. The recorded values themselves
are kept, all of them within the range, so nothing is lost in merging, and the statistics are those
of the recorded values.
-/
namespace FixBench.Stress

namespace Histogram

/-- Values below this are counted as they are. -/
def range : Nat := 2048

/-- What a value beyond the range is counted as. -/
def beyond : Nat := 2

def clamp (micros : Nat) : Nat := if micros < range then micros else beyond

theorem clamp_lt (micros : Nat) : clamp micros < range := by
  unfold clamp
  split
  · assumption
  · decide

end Histogram

structure Histogram where
  recorded : List Nat
  within : ∀ value ∈ recorded, value < Histogram.range
  deriving DecidableEq, Repr

namespace Histogram

def empty : Histogram := ⟨[], fun _ none => by cases none⟩

def record (h : Histogram) (latency : Duration) : Histogram where
  recorded := h.recorded ++ [clamp latency.micros]
  within := by
    simp only [List.forall_mem_append, List.forall_mem_singleton]
    exact ⟨h.within, clamp_lt _⟩

def count (h : Histogram) : Nat := h.recorded.length

def merge (a b : Histogram) : Histogram where
  recorded := a.recorded ++ b.recorded
  within := List.forall_mem_append.mpr ⟨a.within, b.within⟩

/-- Every value recorded, ascending, with how often it was. -/
def tally (h : Histogram) : List (Nat × Nat) :=
  (List.range range).filterMap fun value =>
    let times := h.recorded.count value
    if times = 0 then none else some (value, times)

def mean (h : Histogram) : Float :=
  h.tally.foldl
    (fun total entry =>
      total + Binary64.ofNat entry.1 * Binary64.ofNat entry.2 / Binary64.ofNat h.count)
    0.0

/-- The first value by which `needed` values have been counted. -/
def reach (needed : Nat) (counted : Nat) : List (Nat × Nat) → Nat
  | [] => 0
  | (value, times) :: rest =>
    if needed ≤ counted + times then value else reach needed (counted + times) rest

/-- The number of values at or below a quantile of `n` values, at least one. -/
def quantileRank (q : Float) (n : Nat) : Nat :=
  match Binary64.view (q * Binary64.ofNat n) with
  | .finite false mantissa exponent =>
    let (p, d) := Binary64.ratio mantissa exponent
    max 1 (Rounding.up p d)
  | _ => 1

def quantile (h : Histogram) (q : Float) : Nat := reach (quantileRank q h.count) 0 h.tally

end Histogram

structure LatencyStats where
  samples : Nat
  min : Nat
  max : Nat
  mean : Float
  p50 : Nat
  p90 : Nat
  p95 : Nat
  p99 : Nat

/-- Statistics of a histogram, unless it is empty. -/
def Histogram.stats? (h : Histogram) : Option LatencyStats :=
  match h.tally.head?, h.tally.getLast? with
  | some lowest, some highest =>
    some {
      samples := h.count, min := lowest.1, max := highest.1, mean := h.mean,
      p50 := h.quantile 0.50, p90 := h.quantile 0.90,
      p95 := h.quantile 0.95, p99 := h.quantile 0.99 }
  | _, _ => none

end FixBench.Stress
