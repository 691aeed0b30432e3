import FixBench.Link.Line

/-!
# Scripted peers

A line whose far end does what it is told: it writes the bytes it is given, reads frames one at a
time, and closes when it is asked to. It answers nothing of its own accord. What it has written is
read once the client waits for something or sends.
-/
namespace FixBench

structure ScriptedPeer where
  /-- Bytes of the client that have not been read. -/
  unread : List UInt8
  written : List (List UInt8)
  /-- The client has closed its end. -/
  clientEnded : Bool
  closed : Bool
  deriving DecidableEq, Repr

namespace ScriptedPeer

def fresh : ScriptedPeer := ⟨[], [], false, false⟩

def peer : Peer ScriptedPeer where
  receive _ chunk p := { p with unread := p.unread ++ chunk }
  receiveEnd p := { p with clientEnded := true }
  tick _ p := p
  written := written
  hasEnded := closed

/-- What a peer reads next. -/
inductive Reading where
  | frame (bytes : List UInt8)
  | ended
  /-- Nothing yet. -/
  | nothing
  deriving DecidableEq, Repr

def next (p : ScriptedPeer) : Except Wire.FrameFault Reading × ScriptedPeer :=
  match Wire.frameLength Wire.defaultLimit p.unread with
  | .error fault => (.error fault, p)
  | .ok (some length) =>
    (.ok (.frame (p.unread.take length)), { p with unread := p.unread.drop length })
  | .ok none => (.ok (if p.clientEnded then .ended else .nothing), p)

/-- A frame or the end is there to be read. -/
def isReady (p : ScriptedPeer) : Bool := p.next.1 matches .error _ | .ok (.frame _) | .ok .ended

end ScriptedPeer

abbrev ScriptedLine := Line ScriptedPeer

namespace ScriptedLine

def start (client : Client) (now : Moment) : ScriptedLine :=
  Line.start ScriptedPeer.peer .fresh client now

def write (l : ScriptedLine) (bytes : List UInt8) : ScriptedLine :=
  { l with far := { l.far with written := l.far.written ++ [bytes] } }

def close (l : ScriptedLine) : ScriptedLine :=
  { l with far := { l.far with closed := true } }

/-- The next frame of the client, for which it is given some time. -/
def read (l : ScriptedLine) (timeout : Duration) :
    Except Wire.FrameFault ScriptedPeer.Reading × ScriptedLine :=
  let l := l.waitUntil (fun l => l.far.isReady) timeout
  let (reading, far) := l.far.next
  (reading, { l with far })

end ScriptedLine

end FixBench
