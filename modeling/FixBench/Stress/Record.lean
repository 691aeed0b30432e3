import FixBench.Protocol.Record
import FixBench.Stress.Report

/-!
# Stress configurations and reports as JSON records

In a configuration codes are given by their names, quantities and prices as decimal text. Fields
that are not given keep their defaults.
-/
namespace FixBench.Stress.Config

def fieldNames : List String :=
  ["endpoint", "sender_comp_id", "target_comp_id", "begin_string", "workers",
   "messages_per_worker", "rate_per_worker", "sample_every", "measure_latency", "ack_timeout_ms",
   "heartbeat_interval_ms", "logon_timeout_ms", "grace_period_ms", "symbol", "side", "qty",
   "price", "scheduling", "tag"]

def nat? : Json → Option Nat := Json.nat? Numeral.limit64

def side? (j : Json) : Option Side := j.name?.bind CodeSet.ofName?

def scheduling? (j : Json) : Option Scheduling :=
  j.name?.bind fun name => Scheduling.all.find? (·.text == name)

def decimal? (j : Json) : Option Decimal := j.string?.bind Decimal.ofText?

/-- A configuration from a record; fields that are not given keep their defaults. -/
def ofJson? (j : Json) : Option Config :=
  match j.fields? fieldNames with
  | some [endpoint, sender, target, version, workers, messagesPerWorker, ratePerWorker,
      sampleEvery, measureLatency, ackTimeoutMillis, heartbeatMillis, logonTimeoutMillis,
      gracePeriodMillis, symbol, side, qty, price, scheduling, tag] => do
    let base := default
    return {
      endpoint := ← Json.fieldOr base.endpoint Json.string? endpoint
      sender := ← Json.fieldOr base.sender Json.string? sender
      target := ← Json.fieldOr base.target Json.string? target
      version := ← Json.fieldOr base.version Json.string? version
      workers := ← Json.fieldOr base.workers nat? workers
      messagesPerWorker := ← Json.fieldOr base.messagesPerWorker nat? messagesPerWorker
      ratePerWorker := ← Json.fieldOr base.ratePerWorker Json.double? ratePerWorker
      sampleEvery := ← Json.fieldOr base.sampleEvery nat? sampleEvery
      measureLatency := ← Json.fieldOr base.measureLatency Json.bool? measureLatency
      ackTimeoutMillis := ← Json.fieldOr base.ackTimeoutMillis nat? ackTimeoutMillis
      heartbeatMillis := ← Json.fieldOr base.heartbeatMillis nat? heartbeatMillis
      logonTimeoutMillis := ← Json.fieldOr base.logonTimeoutMillis nat? logonTimeoutMillis
      gracePeriodMillis := ← Json.fieldOr base.gracePeriodMillis nat? gracePeriodMillis
      symbol := ← Json.fieldOr base.symbol Json.string? symbol
      side := ← Json.fieldOr base.side side? side
      qty := ← Json.fieldOr base.qty decimal? qty
      price := ← Json.fieldOr base.price (Json.optional? decimal?) price
      scheduling := ← Json.fieldOr base.scheduling scheduling? scheduling
      tag := ← Json.fieldOr base.tag (Json.optional? Json.string?) tag }
  | _ => none

def toRecord (c : Config) : Json :=
  .record
    [("endpoint", c.endpoint), ("sender_comp_id", c.sender), ("target_comp_id", c.target),
     ("begin_string", c.version), ("workers", c.workers),
     ("messages_per_worker", c.messagesPerWorker), ("rate_per_worker", c.ratePerWorker),
     ("sample_every", c.sampleEvery), ("measure_latency", c.measureLatency),
     ("ack_timeout_ms", c.ackTimeoutMillis), ("heartbeat_interval_ms", c.heartbeatMillis),
     ("logon_timeout_ms", c.logonTimeoutMillis), ("grace_period_ms", c.gracePeriodMillis),
     ("symbol", c.symbol), ("side", c.side), ("qty", c.qty), ("price", c.price),
     ("scheduling", c.scheduling.text), ("tag", c.tag)]

instance : ToJson Config := ⟨toRecord⟩

/-- Terms of the orders, given in a record. -/
def withOrder? (c : Config) (j : Json) : Option Config := do
  return { c with
    symbol := ← j.member? "symbol"
    side := ← j.member? "side"
    qty := ← j.member? "qty"
    price := ← j.member? "price" }

/-- The values given in a short record in place of the configuration's own. -/
def amend? (c : Config) (j : Json) : Option Config := do
  let c := { c with
    workers := ← j.memberOr c.workers "workers"
    messagesPerWorker := ← j.memberOr c.messagesPerWorker "messages"
    ratePerWorker := ← j.memberOr c.ratePerWorker "rate"
    ackTimeoutMillis := ← j.memberOr c.ackTimeoutMillis "ack_timeout_ms"
    heartbeatMillis := ← j.memberOr c.heartbeatMillis "heartbeat_ms"
    logonTimeoutMillis := ← j.memberOr c.logonTimeoutMillis "logon_timeout_ms"
    gracePeriodMillis := ← j.memberOr c.gracePeriodMillis "grace_ms"
    scheduling := if ← j.memberOr false "cooperative" then .cooperative else c.scheduling
    tag := ← j.memberOr c.tag "tag" }
  let every : Option Nat ← j.member? "sample_every"
  let c := (every.map c.withLatencySampling).getD c
  match ← (j.member? "order" : Option (Option Json)) with
  | none => return c
  | some order => c.withOrder? order

end FixBench.Stress.Config

namespace FixBench.Stress

instance : ToJson LatencyStats where
  toJson l := .record
    [("samples", l.samples), ("min", l.min), ("max", l.max), ("mean", l.mean), ("p50", l.p50),
     ("p90", l.p90), ("p95", l.p95), ("p99", l.p99)]

instance : ToJson WorkerStats where
  toJson w := .record
    [("worker", w.worker), ("sent", w.sent), ("acks", w.acks), ("rejects", w.rejects),
     ("errors", w.errors), ("logon_failed", w.logonFailed), ("elapsed_secs", w.elapsedSeconds),
     ("throughput", w.throughput), ("latency", w.latency)]

/-- Members of a record of a report. -/
def Report.members (r : Report) : List (String × Json) :=
  [("tag", r.tag), ("workers", r.workers), ("messages_per_worker", r.messagesPerWorker),
   ("rate_per_worker", r.ratePerWorker), ("sent", r.sent), ("acks", r.acks),
   ("rejects", r.rejects), ("errors", r.errors), ("logon_failures", r.logonFailures),
   ("all_logged_on", r.allLoggedOn), ("elapsed_secs", r.elapsedSeconds),
   ("throughput", r.throughput), ("latency", r.latency), ("per_worker", r.perWorker)]

def sampleCount (latency : Option LatencyStats) : Nat := (latency.map LatencyStats.samples).getD 0

/-- What a report counts, without any time. -/
def Report.counts (r : Report) : Json :=
  let row (w : WorkerStats) := Json.array
    [w.worker, w.sent, w.acks, w.rejects, w.errors, w.logonFailed, sampleCount w.latency]
  .record
    [("tag", r.tag), ("workers", r.workers), ("sent", r.sent), ("acks", r.acks),
     ("rejects", r.rejects), ("errors", r.errors), ("logon_failures", r.logonFailures),
     ("samples", sampleCount r.latency), ("per_worker", r.perWorker.map row)]

namespace WorkerResult

/-- Counters of a worker, and its latencies in nanoseconds; the longest one may be called `max`. -/
def ofRecord? (j : Json) : Option WorkerResult := do
  let elapsed : Nat ← j.memberOr 0 "elapsed_ns"
  let counters : WorkerResult :=
    { fresh (← j.member? "worker") with
      sent := ← j.memberOr 0 "sent"
      acks := ← j.memberOr 0 "acks"
      rejects := ← j.memberOr 0 "rejects"
      errors := ← j.memberOr 0 "errors"
      logonFailed := ← j.memberOr false "logon_failed"
      elapsed := ⟨elapsed⟩ }
  let latencies : List Json ← j.memberOr [] "latencies_ns"
  latencies.foldlM (fun r latency =>
    match latency with
    | .string (some "max") => some (r.recordLatency .longest)
    | latency => (fromJson? latency : Option Nat).map fun nanos => r.recordLatency ⟨nanos⟩) counters

instance : FromJson WorkerResult := ⟨ofRecord?⟩

end WorkerResult

end FixBench.Stress
