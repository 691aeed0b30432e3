import FixBench.Order.State
import FixBench.Session.Fault

/-!
# Failures

Whatever a user of the library can run into, with the part it comes from named in front.
-/
namespace FixBench

inductive Failure where
  | malformed (fault : DecodeFault)
  | build (fault : BuildFault)
  | session (fault : SessionFault)
  | order (fault : OrderFault)
  | config (fault : ConfigFault)
  /-- The operating system refused, with this text. -/
  | system (text : String)
  deriving DecidableEq, Repr

namespace Failure

def message : Failure → String
  | malformed fault => s!"malformed message: {fault.message}"
  | build fault => s!"build error: {fault.message}"
  | session fault => s!"session error: {fault.message}"
  | order fault => s!"tracker error: {fault.message}"
  | config fault => s!"configuration error: {fault.message}"
  | system text => s!"io error: {text}"

/-- Short name of the cause, after that of the part it comes from. -/
def name : Failure → String
  | malformed fault => "Malformed." ++ fault.name
  | build fault => "Build." ++ fault.name
  | session fault => "Session." ++ fault.name
  | order fault => "Tracker." ++ fault.name
  | config fault => "Config." ++ fault.name
  | system _ => "Io"

def isMalformed : Failure → Bool
  | malformed _ => true
  | _ => false

def isProtocolViolation : Failure → Bool
  | session fault => fault.isProtocolViolation
  | _ => false

def isTimeout : Failure → Bool
  | session fault => fault.isTimeout
  | _ => false

def isConnectionLoss : Failure → Bool
  | system _ => true
  | session fault => fault.isConnectionLoss
  | _ => false

end Failure

end FixBench
