import FixBench.Binary64.Text
import FixBench.Stress.Config
import FixBench.Stress.Latency

/-!
# Reports of a stress run

Every worker counts what it sent and what came back. The report of a run sums the counters, merges
the latencies and lists the workers by number.
-/
namespace FixBench.Stress

structure WorkerResult where
  worker : Nat
  sent : Nat
  acks : Nat
  rejects : Nat
  errors : Nat
  logonFailed : Bool
  elapsed : Duration
  latency : Histogram
  deriving DecidableEq, Repr

namespace WorkerResult

def fresh (worker : Nat) : WorkerResult where
  worker
  sent := 0
  acks := 0
  rejects := 0
  errors := 0
  logonFailed := false
  elapsed := .zero
  latency := .empty

def recordLatency (r : WorkerResult) (latency : Duration) : WorkerResult :=
  { r with latency := r.latency.record latency }

/-- Messages nobody has answered yet. -/
def unanswered (r : WorkerResult) : Nat := r.sent - (r.acks + r.rejects)

end WorkerResult

/-- Events per second; zero when no time has passed. -/
def throughput (count : Nat) (seconds : Float) : Float :=
  if 0.0 < seconds then Binary64.ofNat count / seconds else 0.0

structure WorkerStats where
  worker : Nat
  sent : Nat
  acks : Nat
  rejects : Nat
  errors : Nat
  logonFailed : Bool
  elapsedSeconds : Float
  throughput : Float
  latency : Option LatencyStats

def WorkerStats.ofResult (r : WorkerResult) : WorkerStats where
  worker := r.worker
  sent := r.sent
  acks := r.acks
  rejects := r.rejects
  errors := r.errors
  logonFailed := r.logonFailed
  elapsedSeconds := r.elapsed.toSeconds
  throughput := Stress.throughput r.sent r.elapsed.toSeconds
  latency := r.latency.stats?

structure Report where
  tag : Option String
  workers : Nat
  messagesPerWorker : Nat
  ratePerWorker : Float
  sent : Nat
  acks : Nat
  rejects : Nat
  errors : Nat
  logonFailures : Nat
  elapsedSeconds : Float
  throughput : Float
  latency : Option LatencyStats
  perWorker : List WorkerStats

namespace Report

def total (results : List WorkerResult) (counter : WorkerResult → Nat) : Nat :=
  results.foldl (fun n r => n + counter r) 0

/-- All latencies of a run. -/
def mergedLatency (results : List WorkerResult) : Histogram :=
  results.foldl (fun merged r => merged.merge r.latency) .empty

/-- Results in the order of the workers; workers of one number keep their order. -/
def byWorker (results : List WorkerResult) : List WorkerResult :=
  results.mergeSort fun a b => a.worker ≤ b.worker

def aggregate (config : Config) (results : List WorkerResult) (elapsed : Duration) : Report :=
  let results := byWorker results
  let sent := total results WorkerResult.sent
  { tag := config.tag
    workers := config.workers
    messagesPerWorker := config.messagesPerWorker
    ratePerWorker := config.ratePerWorker
    sent
    acks := total results WorkerResult.acks
    rejects := total results WorkerResult.rejects
    errors := total results WorkerResult.errors
    logonFailures := results.countP WorkerResult.logonFailed
    elapsedSeconds := elapsed.toSeconds
    throughput := Stress.throughput sent elapsed.toSeconds
    latency := (mergedLatency results).stats?
    perWorker := results.map WorkerStats.ofResult }

def allLoggedOn (r : Report) : Bool := r.logonFailures == 0

def latencyText (l : LatencyStats) : String :=
  s!" latency_us[n={l.samples} p50={l.p50} p95={l.p95} p99={l.p99} max={l.max}]"

def toText (r : Report) : String :=
  s!"sent={r.sent} acks={r.acks} rejects={r.rejects} errors={r.errors}"
    ++ s!" logon_failures={r.logonFailures}"
    ++ " elapsed=" ++ Binary64.fixed 3 r.elapsedSeconds ++ "s"
    ++ " rate=" ++ Binary64.fixed 1 r.throughput ++ "/s"
    ++ (match r.latency with
      | some l => latencyText l
      | none => "")

end Report

end FixBench.Stress
