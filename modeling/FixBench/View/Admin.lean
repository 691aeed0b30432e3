import FixBench.View.Basic

/-!
# Messages of the session

Logon and logout open and end a session, heartbeats and test requests keep it alive, and a reject
answers a message that could not be used.
-/
namespace FixBench

structure Logon where
  message : Message
  heartBtInt : Nat
  deriving DecidableEq, Repr

namespace Logon

instance : MessageView Logon where
  type := .logon
  required := [Tag.encryptMethod, Tag.heartBtInt]
  read m := return { message := m, heartBtInt := ← m.value .u64 Tag.heartBtInt }
  message := message

/-- A logon without encryption that asks for a heartbeat every so many seconds. -/
def draft (version : String) (seconds : Nat) : Draft Logon :=
  ((Draft.start Logon version).put Tag.encryptMethod "0").heartBtInt seconds

end Logon

structure Heartbeat where
  message : Message
  deriving DecidableEq, Repr

namespace Heartbeat

def testReqId (h : Heartbeat) : Option String := h.message.get Tag.testReqId

instance : MessageView Heartbeat where
  type := .heartbeat
  required := []
  read m := .ok ⟨m⟩
  message := message

end Heartbeat

structure TestRequest where
  message : Message
  testReqId : String
  deriving DecidableEq, Repr

namespace TestRequest

instance : MessageView TestRequest where
  type := .testRequest
  required := [Tag.testReqId]
  read m := .ok { message := m, testReqId := m.text Tag.testReqId }
  message := message

end TestRequest

structure Reject where
  message : Message
  refSeqNum : Nat
  deriving DecidableEq, Repr

namespace Reject

/-! ### Reasons -/

def requiredTagMissing : Nat := 1
def valueIncorrect : Nat := 5
def invalidMsgType : Nat := 11

def refMsgType (r : Reject) : Option String := r.message.get Tag.refMsgType
def reason (r : Reject) : Option Nat := r.message.value? .u32 Tag.sessionRejectReason
def text (r : Reject) : Option String := r.message.get Tag.text

instance : MessageView Reject where
  type := .reject
  required := [Tag.refSeqNum]
  read m := return { message := m, refSeqNum := ← m.value .u64 Tag.refSeqNum }
  message := message

end Reject

structure Logout where
  message : Message
  deriving DecidableEq, Repr

namespace Logout

def text (l : Logout) : Option String := l.message.get Tag.text

instance : MessageView Logout where
  type := .logout
  required := []
  read m := .ok ⟨m⟩
  message := message

end Logout

end FixBench
