import FixBench.Session.Fault
import FixBench.Session.Liveness
import FixBench.View.Basic

/-!
# Session configuration

A configuration names the two sides, the version they speak, and the times they keep. `validate`
checks what the types leave open. `SessionSettings` are the same values before they have been
checked: each may be missing.
-/
namespace FixBench

structure SessionConfig where
  sender : CompId
  target : CompId
  version : String
  heartbeatInterval : Duration
  maxMessageSize : Nat
  logonTimeout : Duration
  senderSubId : Option String
  targetSubId : Option String
  deriving DecidableEq, Repr

namespace SessionConfig

def default (sender target : CompId) (version : String) : SessionConfig where
  sender
  target
  version
  heartbeatInterval := .ofSeconds 30
  maxMessageSize := 64 * 1024
  logonTimeout := .ofSeconds 10
  senderSubId := none
  targetSubId := none

/-- Short name of the session, from the sender's point of view. -/
def label (c : SessionConfig) : String :=
  match c.senderSubId with
  | some sub => s!"{c.sender}/{sub}->{c.target}"
  | none => s!"{c.sender}->{c.target}"

/-- A version is any text that begins with the name of the protocol. -/
def isVersion (text : String) : Bool := "FIX".toList.isPrefixOf text.toList

def validate (c : SessionConfig) : Except ConfigFault Unit :=
  if c.heartbeatInterval.isZero then
    .error (.invalid "heartbeat_interval" "must be greater than zero")
  else if Liveness.maxInterval < c.heartbeatInterval then
    .error (.invalid "heartbeat_interval" s!"must not exceed {Liveness.maxInterval.seconds}s")
  else if c.logonTimeout.isZero then
    .error (.invalid "logon_timeout" "must be greater than zero")
  else if !isVersion c.version then
    .error (.invalid "begin_string" s!"{Text.quoted c.version} is not a FIX version")
  else .ok ()

end SessionConfig

structure SessionSettings where
  sender : Option String
  target : Option String
  version : Option String
  heartbeatInterval : Option Duration
  logonTimeout : Option Duration
  senderSubId : Option String
  targetSubId : Option String
  deriving DecidableEq, Repr

namespace SessionSettings

def compId (field : String) : Option String → Except ConfigFault CompId
  | none => .error (.missing field)
  | some text =>
    match CompId.ofText? text with
    | some id => .ok id
    | none => .error (.invalid field s!"{Text.quoted text} must be 1 to 32 characters")

def config (s : SessionSettings) : Except ConfigFault SessionConfig := do
  let sender ← compId "sender_comp_id" s.sender
  let target ← compId "target_comp_id" s.target
  let base := SessionConfig.default sender target (s.version.getD Message.defaultVersion)
  let config :=
    { base with
      heartbeatInterval := s.heartbeatInterval.getD base.heartbeatInterval
      logonTimeout := s.logonTimeout.getD base.logonTimeout
      senderSubId := s.senderSubId
      targetSubId := s.targetSubId }
  config.validate
  return config

end SessionSettings

/-! ### Session identifiers -/

/-- A session is named by its version and its two sides. -/
structure SessionId where
  version : String
  sender : String
  target : String
  senderSubId : Option String
  targetSubId : Option String
  deriving DecidableEq, Repr

namespace SessionId

def ofConfig (c : SessionConfig) : SessionId where
  version := c.version
  sender := c.sender.text
  target := c.target.text
  senderSubId := c.senderSubId
  targetSubId := c.targetSubId

/-- The text leaves out the sender's part of a qualified name. -/
def toText (id : SessionId) : String :=
  let base := s!"{id.version}:{id.sender}->{id.target}"
  match id.targetSubId with
  | some sub => s!"{base}/{sub}"
  | none => base

end SessionId

end FixBench
