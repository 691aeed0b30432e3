import FixBench.Binary64.Text
import FixBench.Exchange.Record
import FixBench.Json.Reader
import FixBench.Stress.Record

/-!
# Settings from the environment

Programs built on the library take their settings from variables whose names begin with `FIX_`. A
variable that is empty counts as not set. A stress configuration may also come from a file, over
which the variables take precedence.
-/
namespace FixBench

structure Environment where
  lookup : String → Option String
  /-- Text of a file, if there is one under this path. -/
  file? : String → Option String

/-- Why the settings are no good. -/
inductive SettingFault where
  | unreadable (name value reason : String)
  | notBoolean (name value : String)
  | notCompId (name value : String)
  | notScheduling (name value : String)
  | notSeconds (name : String) (value reason : String)
  | fileNotRead (path : String)
  | fileNotParsed (path : String)
  | config (fault : ConfigFault)
  deriving DecidableEq, Repr

def SettingFault.message : SettingFault → String
  | unreadable name value reason => s!"{name}={Text.quoted value}: {reason}"
  | notBoolean name value => s!"{name}={Text.quoted value} is not a boolean"
  | notCompId name value => s!"{name}={Text.quoted value} is not a CompID"
  | notScheduling name value => s!"{name}={Text.quoted value} is not parallel or cooperative"
  | notSeconds name value reason => s!"{name}={value}: {reason}"
  | fileNotRead path => s!"reading {path}"
  | fileNotParsed path => s!"parsing {path}"
  | config fault => fault.message

namespace Environment

/-! ### Variables -/

def get? (env : Environment) (name : String) : Option String :=
  (env.lookup name).filter (· ≠ "")

/-- A variable in the form `read` understands; absent if it is not set. -/
def parsed {α : Type} (env : Environment) (name : String) (read : String → Except String α) :
    Except SettingFault (Option α) :=
  match env.get? name with
  | none => .ok none
  | some text =>
    match read text with
    | .ok value => .ok (some value)
    | .error reason => .error (.unreadable name text reason)

def natural (limit : Nat) (text : String) : Except String Nat :=
  (Numeral.unsigned limit text).mapError Numeral.Fault.message

def double (text : String) : Except String Float :=
  (Binary64.read? text).mapError Binary64.Fault.message

def decimal (text : String) : Except String Decimal :=
  (Decimal.ofText text).mapError Decimal.Fault.message

def side (text : String) : Except String Side :=
  (CodeSet.ofText text).mapError UnknownCode.message

/-- A switch, in any of its usual spellings; off if it is not set. -/
def flag (env : Environment) (name : String) : Except SettingFault Bool :=
  match (env.get? name).map String.toLower with
  | none => .ok false
  | some text =>
    if ["0", "false", "no", "off"].contains text then .ok false
    else if ["1", "true", "yes", "on"].contains text then .ok true
    else .error (.notBoolean name text)

def compIdOf (name text : String) : Except SettingFault CompId :=
  match CompId.ofText? text with
  | some id => .ok id
  | none => .error (.notCompId name text)

def compId (env : Environment) (name fallback : String) : Except SettingFault CompId :=
  compIdOf name ((env.get? name).getD fallback)

def heartbeat (env : Environment) : Except SettingFault Duration := do
  let seconds ← env.parsed "FIX_HEARTBEAT" (natural Numeral.limit64)
  return .ofSeconds (seconds.getD 30)

/-- A number of seconds, fractions included. -/
def seconds (env : Environment) (name : String) : Except SettingFault (Option Duration) := do
  match ← env.parsed name double with
  | none => return none
  | some x =>
    match Duration.ofFloat x with
    | .ok d => return some d
    | .error fault => throw (.notSeconds name (Binary64.shortest x) fault.message)

/-! ### Settings of the programs -/

def defaultHost : String := "127.0.0.1"

def defaultListener : Nat := 9878

def endpoint (env : Environment) : Except SettingFault String := do
  let host := (env.get? "FIX_HOST").getD defaultHost
  let number ← env.parsed "FIX_PORT" (natural Numeral.limit16)
  return s!"{host}:{number.getD defaultListener}"

/-- An exchange program: the acceptor and what it simulates. -/
def exchange (env : Environment) : Except SettingFault (AcceptorConfig × Exchange.Settings) := do
  let compId ← env.compId "FIX_SENDER" "EXCH"
  let address ← env.endpoint
  let heartbeatInterval ← env.heartbeat
  let expectedClient ←
    match env.get? "FIX_TARGET" with
    | none => pure none
    | some client => (compIdOf "FIX_TARGET" client).map some
  let acceptor :=
    { AcceptorConfig.default address compId with heartbeatInterval, expectedClient }
  let autoFill ← env.flag "FIX_AUTO_FILL"
  let rejectNewOrders ← env.flag "FIX_REJECT"
  let rejectText := (env.get? "FIX_REJECT_TEXT").getD Exchange.Settings.default.rejectText
  return (acceptor, { autoFill, rejectNewOrders, rejectText })

def clientSession (env : Environment) (defaultSender : String) :
    Except SettingFault SessionConfig := do
  let sender ← env.compId "FIX_SENDER" defaultSender
  let target ← env.compId "FIX_TARGET" "EXCH"
  let heartbeatInterval ← env.heartbeat
  let config :=
    { SessionConfig.default sender target Message.defaultVersion with heartbeatInterval }
  match config.validate with
  | .ok () => return config
  | .error fault => throw (.config fault)

/-- What an order program trades. -/
structure OrderTerms where
  symbol : String
  side : Side
  qty : Decimal
  price : Option Decimal
  deriving DecidableEq, Repr

def orderTerms (env : Environment) : Except SettingFault OrderTerms := do
  let symbol := (env.get? "FIX_SYMBOL").getD "AAPL"
  let side ← env.parsed "FIX_SIDE" side
  let qty ← env.parsed "FIX_QTY" decimal
  let price ← env.parsed "FIX_PRICE" decimal
  return { symbol, side := side.getD .buy, qty := qty.getD .hundred, price }

/-! ### Stress runs -/

/-- The configuration the variables are laid over. -/
def stressBase (env : Environment) : Except SettingFault Stress.Config :=
  match env.get? "FIX_CONFIG" with
  | none => .ok .default
  | some path =>
    match env.file? path with
    | none => .error (.fileNotRead path)
    | some text =>
      match (Json.ofText? text).bind Stress.Config.ofJson? with
      | some config => .ok config
      | none => .error (.fileNotParsed path)

def schedulingOf (text : String) : Except SettingFault Stress.Scheduling :=
  match Stress.Scheduling.all.find? (·.text == text) with
  | some scheduling => .ok scheduling
  | none => .error (.notScheduling "FIX_SCHEDULING" text)

def stress (env : Environment) : Except SettingFault Stress.Config := do
  let count := natural Numeral.limit64
  let base ← env.stressBase
  let isSet := fun name => (env.get? name).isSome
  let endpoint ←
    if isSet "FIX_HOST" || isSet "FIX_PORT" || !isSet "FIX_CONFIG" then env.endpoint
    else pure base.endpoint
  let workers ← env.parsed "FIX_WORKERS" count
  let messagesPerWorker ← env.parsed "FIX_MESSAGES" count
  let ratePerWorker ← env.parsed "FIX_RATE" double
  let side ← env.parsed "FIX_SIDE" side
  let qty ← env.parsed "FIX_QTY" decimal
  let price ← env.parsed "FIX_PRICE" decimal
  let heartbeatMillis ←
    if isSet "FIX_HEARTBEAT" then env.heartbeat.map Duration.millis64
    else pure base.heartbeatMillis
  let measureLatency ←
    if isSet "FIX_MEASURE_LATENCY" then env.flag "FIX_MEASURE_LATENCY"
    else pure base.measureLatency
  let sampleEvery ← env.parsed "FIX_SAMPLE_EVERY" count
  let ackTimeout ← env.seconds "FIX_ACK_TIMEOUT"
  let gracePeriod ← env.seconds "FIX_GRACE"
  let scheduling ←
    match (env.get? "FIX_SCHEDULING").map String.toLower with
    | none => pure base.scheduling
    | some text => schedulingOf text
  let config :=
    { base with
      endpoint
      sender := (env.get? "FIX_SENDER").getD base.sender
      target := (env.get? "FIX_TARGET").getD base.target
      workers := workers.getD base.workers
      messagesPerWorker := messagesPerWorker.getD base.messagesPerWorker
      ratePerWorker := ratePerWorker.getD base.ratePerWorker
      symbol := (env.get? "FIX_SYMBOL").getD base.symbol
      side := side.getD base.side
      qty := qty.getD base.qty
      price := price.or base.price
      heartbeatMillis
      measureLatency
      sampleEvery := sampleEvery.getD base.sampleEvery
      ackTimeoutMillis := (ackTimeout.map Duration.millis64).getD base.ackTimeoutMillis
      gracePeriodMillis := (gracePeriod.map Duration.millis64).getD base.gracePeriodMillis
      scheduling
      tag := (env.get? "FIX_TAG").or base.tag }
  match config.validate with
  | .ok () => return config
  | .error fault => throw (.config fault)

end Environment

end FixBench
