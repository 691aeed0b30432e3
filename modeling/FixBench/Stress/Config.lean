import FixBench.Order.Request
import FixBench.Session.Config

/-!
# Stress configuration

A stress run has a number of workers, each with a session and a stream of orders of its own.
`validate` refuses what no worker could work with, before any of them starts.
-/
namespace FixBench.Stress

/-- Whether workers share one thread. -/
inductive Scheduling where
  | parallel
  | cooperative
  deriving DecidableEq, Repr

def Scheduling.text : Scheduling → String
  | parallel => "parallel"
  | cooperative => "cooperative"

def Scheduling.all : List Scheduling := [parallel, cooperative]

structure Config where
  endpoint : String
  sender : String
  target : String
  version : String
  workers : Nat
  messagesPerWorker : Nat
  ratePerWorker : Float
  sampleEvery : Nat
  measureLatency : Bool
  ackTimeoutMillis : Nat
  heartbeatMillis : Nat
  logonTimeoutMillis : Nat
  gracePeriodMillis : Nat
  symbol : String
  side : Side
  qty : Decimal
  price : Option Decimal
  scheduling : Scheduling
  tag : Option String

namespace Config

def default : Config where
  endpoint := "127.0.0.1:9878"
  sender := "CLIENT"
  target := "EXCH"
  version := Message.defaultVersion
  workers := 8
  messagesPerWorker := 1000
  ratePerWorker := 100.0
  sampleEvery := 1
  measureLatency := false
  ackTimeoutMillis := 5000
  heartbeatMillis := 30000
  logonTimeoutMillis := 10000
  gracePeriodMillis := 5000
  symbol := "AAPL"
  side := .buy
  qty := .hundred
  price := none
  scheduling := .parallel
  tag := none

def ackTimeout (c : Config) : Duration := .ofMillis c.ackTimeoutMillis
def heartbeatInterval (c : Config) : Duration := .ofMillis c.heartbeatMillis
def logonTimeout (c : Config) : Duration := .ofMillis c.logonTimeoutMillis
def gracePeriod (c : Config) : Duration := .ofMillis c.gracePeriodMillis

/-- Measures the latency of every so many messages. -/
def withLatencySampling (c : Config) (every : Nat) : Config :=
  { c with measureLatency := true, sampleEvery := every }

/-- Whether the latency of a worker's message is measured. -/
def isSampled (c : Config) (index : Nat) : Bool :=
  c.measureLatency && 0 < c.sampleEvery && index % c.sampleEvery == 0

def compId (field text : String) : Except ConfigFault CompId :=
  match CompId.ofText? text with
  | some id => .ok id
  | none => .error (.invalid field s!"{Text.quoted text} is not a valid CompID")

def senderId (c : Config) : Except ConfigFault CompId := compId "sender_comp_id" c.sender

def targetId (c : Config) : Except ConfigFault CompId := compId "target_comp_id" c.target

/-- A rate is a finite number that is not negative. -/
def rateIsValid (c : Config) : Bool :=
  Binary64.isFinite c.ratePerWorker && !(c.ratePerWorker < 0.0)

/-- Refuses a configuration unless `holds`. -/
def require (holds : Bool) (fault : ConfigFault) : Except ConfigFault Unit :=
  if holds then .ok () else .error fault

def validate (c : Config) : Except ConfigFault Unit := do
  require (c.endpoint ≠ "") (.missing "endpoint")
  require (c.symbol ≠ "") (.missing "symbol")
  let _ ← c.senderId
  let _ ← c.targetId
  require (0 < c.workers) (.invalid "workers" "must be at least 1")
  require (0 < c.sampleEvery) (.invalid "sample_every" "must be at least 1")
  require c.rateIsValid (.invalid "rate_per_worker" "must be zero or a positive number")
  require (0 < c.ackTimeoutMillis) (.invalid "ack_timeout_ms" "must be greater than zero")
  require (0 < c.logonTimeoutMillis) (.invalid "logon_timeout_ms" "must be greater than zero")
  require (1000 ≤ c.heartbeatMillis)
    (.invalid "heartbeat_interval_ms" "must be at least one second")
  require c.qty.isPositive (.invalid "qty" "must be positive")
  require (c.price.all Decimal.isPositive) (.invalid "price" "must be positive")

/-! ### What a worker works with -/

/-- Configuration of a worker's session; the workers differ in their sub identifier. -/
def sessionConfig (c : Config) (worker : Nat) : Except ConfigFault SessionConfig := do
  let sender ← c.senderId
  let target ← c.targetId
  return { SessionConfig.default sender target c.version with
    heartbeatInterval := c.heartbeatInterval
    logonTimeout := c.logonTimeout
    senderSubId := some s!"W{worker}" }

/-- Identifier of a worker's order; the nonce keeps runs apart. -/
def clOrdId (c : Config) (worker index : Nat) (nonce : String) : String :=
  s!"{c.sender}-{worker}-{index}-{nonce}"

/-- The order a worker sends: at the configured price, or at market. -/
def newOrder (c : Config) (version clOrdId : String) : Except BuildFault Message := do
  let draft := (Draft.start NewOrderSingle version).clOrdId clOrdId
    |>.symbol c.symbol |>.side c.side |>.orderQty c.qty
  let request ←
    match c.price with
    | some px => ((draft.ordType .limit).price px).build
    | none => (draft.ordType .market).build
  return request.message

end Config

end FixBench.Stress
