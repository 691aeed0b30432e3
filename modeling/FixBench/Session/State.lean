import FixBench.Session.Fault

/-!
# Session states

A session is connected in two steps, becomes active when a logon is accepted, and can be
disconnected from every other state.
-/
namespace FixBench

inductive SessionState where
  | disconnected
  | connecting
  | logonPending
  | active
  deriving DecidableEq, Repr

namespace SessionState

def text : SessionState → String
  | disconnected => "Disconnected"
  | connecting => "Connecting"
  | logonPending => "LogonPending"
  | active => "Active"

def all : List SessionState := [disconnected, connecting, logonPending, active]

def canMoveTo : SessionState → SessionState → Bool
  | disconnected, connecting => true
  | connecting, logonPending => true
  | logonPending, active => true
  | connecting, disconnected => true
  | logonPending, disconnected => true
  | active, disconnected => true
  | _, _ => false

def moveTo (state next : SessionState) : Except SessionFault SessionState :=
  if state.canMoveTo next then .ok next
  else .error (.invalidState s!"a state that may move to {next.text}" state.text)

def isActive (state : SessionState) : Bool := state == active

/-- Messages flow in these states. -/
def isConnected : SessionState → Bool
  | logonPending | active => true
  | _ => false

end SessionState

end FixBench
