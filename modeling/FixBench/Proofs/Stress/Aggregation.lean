import Mathlib.Algebra.BigOperators.Group.List.Basic
import Mathlib.Algebra.Ring.Nat
import Mathlib.Data.List.Sort
import FixBench.Stress.Record

/-!
# What the report of a run adds up

The results of the workers come in the order in which the workers finish. The report lists them by
number, and its counters and latencies are folded over that list. As no two workers have the same number,
there is only one such list (`byWorker_eq_of_perm`), so the report does not depend on the order of the
results. Nothing is lost or counted twice on the way (`SumsUp`): both folds add up a measure of each
result, and one lemma, `measure_foldl`, says so for any fold that does.
-/
namespace FixBench.Stress

/-! ### Latencies -/

namespace Histogram

variable (h : Histogram)

@[simp]
theorem count_empty : empty.count = 0 := rfl

@[simp]
theorem count_merge (a b : Histogram) : (a.merge b).count = a.count + b.count :=
  List.length_append

/-- Every value that has been recorded is in the tally, because none is out of range. -/
theorem tally_eq_nil_iff : h.tally = [] ↔ h.count = 0 := by
  unfold tally count
  rw [List.filterMap_eq_nil_iff, List.length_eq_zero_iff]
  constructor
  · intro untold
    rw [List.eq_nil_iff_forall_not_mem]
    intro value recorded
    have told := untold value (List.mem_range.mpr (h.within value recorded))
    have some : h.recorded.count value ≠ 0 := (List.count_pos_iff.mpr recorded).ne'
    simp [some] at told
  · intro nothing value _
    simp [nothing]

/-- The statistics tell how many values have been recorded, and there are none of an empty
histogram. -/
theorem sampleCount_stats? : sampleCount h.stats? = h.count := by
  unfold stats?
  cases told : h.tally with
  | nil => exact (h.tally_eq_nil_iff.mp told).symm
  | cons first rest =>
    rw [List.head?_cons, List.getLast?_cons]
    rfl

end Histogram

/-! ### Folds that add up -/

/-- A fold whose every step adds to a measure adds up what the steps add. -/
theorem measure_foldl {α β : Type} (measure : β → Nat) (added : α → Nat) (step : β → α → β)
    (adds : ∀ b a, measure (step b a) = measure b + added a) (l : List α) (b : β) :
    measure (l.foldl step b) = measure b + (l.map added).sum := by
  induction l generalizing b with
  | nil => rfl
  | cons a rest ih => rw [List.foldl_cons, ih, adds, List.map_cons, List.sum_cons, Nat.add_assoc]

namespace Report

variable {results shuffled : List WorkerResult}

theorem total_eq_sum (results : List WorkerResult) (counter : WorkerResult → Nat) :
    total results counter = (results.map counter).sum := by
  have added := measure_foldl id counter (fun n r => n + counter r) (fun _ _ => rfl) results 0
  rwa [id, id, Nat.zero_add] at added

theorem count_mergedLatency (results : List WorkerResult) :
    (mergedLatency results).count = (results.map fun r => r.latency.count).sum := by
  have added := measure_foldl Histogram.count (fun r : WorkerResult => r.latency.count)
    (fun merged r => merged.merge r.latency) (fun _ _ => Histogram.count_merge ..) results .empty
  rwa [Histogram.count_empty, Nat.zero_add] at added

/-! ### The order of the workers -/

theorem byWorker_perm (results : List WorkerResult) : (byWorker results).Perm results :=
  List.mergeSort_perm _ _

theorem pairwise_byWorker (distinct : (results.map WorkerResult.worker).Nodup) :
    (byWorker results).Pairwise fun a b => a.worker < b.worker := by
  have sorted : (byWorker results).Pairwise fun a b => a.worker ≤ b.worker := by
    refine (List.pairwise_mergeSort ?_ ?_ results).imp of_decide_eq_true
    · intro a b c first second
      rw [decide_eq_true_eq] at first second ⊢
      exact first.trans second
    · intro a b
      rw [Bool.or_eq_true, decide_eq_true_eq, decide_eq_true_eq]
      exact Nat.le_total _ _
  have apart : (byWorker results).Pairwise fun a b => a.worker ≠ b.worker := by
    rw [← List.pairwise_map]
    exact ((byWorker_perm results).map _).nodup_iff.mpr distinct
  exact (sorted.and apart).imp fun both => Nat.lt_of_le_of_ne both.1 both.2

/-- Results of workers with different numbers have one order only. -/
theorem byWorker_eq_of_perm (distinct : (results.map WorkerResult.worker).Nodup)
    (perm : shuffled.Perm results) : byWorker shuffled = byWorker results := by
  have alike : (byWorker shuffled).Perm (byWorker results) :=
    (byWorker_perm shuffled).trans (perm.trans (byWorker_perm results).symm)
  have distinct' : (shuffled.map WorkerResult.worker).Nodup :=
    (perm.map _).nodup_iff.mpr distinct
  refine alike.eq_of_pairwise ?_ (pairwise_byWorker distinct') (pairwise_byWorker distinct)
  intro a b _ _ before after
  exact absurd (before.trans after) (Nat.lt_irrefl _)

end Report

/-! ### The report -/

/-- A row of a report shows what a worker has counted. -/
structure WorkerStats.Shows (row : WorkerStats) (r : WorkerResult) : Prop where
  worker : row.worker = r.worker
  sent : row.sent = r.sent
  acks : row.acks = r.acks
  rejects : row.rejects = r.rejects
  errors : row.errors = r.errors
  logonFailed : row.logonFailed = r.logonFailed
  samples : sampleCount row.latency = r.latency.count

theorem WorkerStats.shows_ofResult (r : WorkerResult) : (ofResult r).Shows r where
  worker := rfl
  sent := rfl
  acks := rfl
  rejects := rfl
  errors := rfl
  logonFailed := rfl
  samples := by rw [ofResult, Histogram.sampleCount_stats?]

namespace Report

/-- What a report owes to the results it is made of. -/
structure SumsUp (report : Report) (results : List WorkerResult) : Prop where
  sent : report.sent = (results.map WorkerResult.sent).sum
  acks : report.acks = (results.map WorkerResult.acks).sum
  rejects : report.rejects = (results.map WorkerResult.rejects).sum
  errors : report.errors = (results.map WorkerResult.errors).sum
  logonFailures : report.logonFailures = (results.filter WorkerResult.logonFailed).length
  samples : sampleCount report.latency = (results.map fun r => r.latency.count).sum
  /-- One row for each result, by the numbers of the workers. -/
  rows : ∃ ordered, ordered.Perm results ∧ ordered.Pairwise (fun a b => a.worker < b.worker) ∧
    List.Forall₂ WorkerStats.Shows report.perWorker ordered

/-- **A report sums up the results of its workers, in whatever order they come.** Its counters are the sums
of theirs, its failed logons are the workers that have failed to log on, its latencies are as many as
theirs together, and each worker has one row, in the order of their numbers, that shows its own
counters. -/
theorem aggregate_sums_up (config : Config) (elapsed : Duration) {results : List WorkerResult}
    (distinct : (results.map WorkerResult.worker).Nodup) :
    (aggregate config results elapsed).SumsUp results ∧
      ∀ shuffled : List WorkerResult, shuffled.Perm results →
        aggregate config shuffled elapsed = aggregate config results elapsed := by
  have ordered := byWorker_perm results
  -- Sorting the results by worker changes no sum.
  have summed (counter : WorkerResult → Nat) :
      total (byWorker results) counter = (results.map counter).sum := by
    rw [total_eq_sum, (ordered.map counter).sum_eq]
  constructor
  · constructor
    case sent | acks | rejects | errors => exact summed _
    case logonFailures =>
      rw [← List.countP_eq_length_filter, ← ordered.countP_eq]
      rfl
    case samples =>
      calc sampleCount (aggregate config results elapsed).latency
        _ = (mergedLatency (byWorker results)).count := by
          rw [aggregate, Histogram.sampleCount_stats?]
        _ = ((byWorker results).map fun r => r.latency.count).sum := count_mergedLatency _
        _ = (results.map fun r => r.latency.count).sum := (ordered.map _).sum_eq
    case rows =>
      refine ⟨byWorker results, ordered, pairwise_byWorker distinct, ?_⟩
      show List.Forall₂ WorkerStats.Shows ((byWorker results).map WorkerStats.ofResult) _
      rw [List.forall₂_map_left_iff, List.forall₂_same]
      exact fun r _ => WorkerStats.shows_ofResult r
  · intro shuffled perm
    rw [aggregate, aggregate, byWorker_eq_of_perm distinct perm]

/-- Three workers that finish out of order. One has not logged on, the others have two samples each,
of which one is beyond the range. -/
theorem aggregate_sums_up_out_of_order :
    let timed (worker : Nat) (millis : List Nat) : WorkerResult :=
      millis.foldl (fun r latency => r.recordLatency (.ofMillis latency))
        { WorkerResult.fresh worker with sent := 10, acks := 9, rejects := 1 }
    let failed : WorkerResult := { WorkerResult.fresh 2 with logonFailed := true }
    let results := [timed 1 [1, 7], failed, timed 0 [0, 2]]
    let report := aggregate .default results (.ofSeconds 4)
    (results.map WorkerResult.worker).Nodup ∧
      report.sent = 20 ∧ report.acks = 18 ∧ report.rejects = 2 ∧ report.errors = 0 ∧
      report.logonFailures = 1 ∧ sampleCount report.latency = 4 ∧
      aggregate .default [timed 0 [0, 2], timed 1 [1, 7], failed] (.ofSeconds 4) = report := by
  intro timed failed results report
  have distinct : (results.map WorkerResult.worker).Nodup := by decide
  obtain ⟨sums, independent⟩ := aggregate_sums_up .default (.ofSeconds 4) distinct
  refine ⟨distinct, sums.sent, sums.acks, sums.rejects, sums.errors, sums.logonFailures,
    sums.samples, independent _ ?_⟩
  decide

end Report

end FixBench.Stress
