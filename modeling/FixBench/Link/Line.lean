import FixBench.Link.OrderFlow

/-!
# Lines

A line joins a client to a peer. Whatever one of them writes reaches the other in order and
undamaged, and an end that closes is noticed once everything it wrote has been read. Time passes
only while somebody waits; then both sides look at the clock as often as they would on their own.

What a peer is like is left open: `Peer` says what it does with the bytes it reads and with the time
that passes, and what it has written so far.
-/
namespace FixBench

def Moment.after (now : Moment) (d : Duration) : Moment :=
  ⟨now.steady + d, now.wall + d.nanos⟩

/-- The other end of a line, with a state of type `π`. -/
structure Peer (π : Type) where
  receive : Moment → List UInt8 → π → π
  /-- The client has closed its end. -/
  receiveEnd : π → π
  /-- Looks at the clock. -/
  tick : Moment → π → π
  /-- Chunks written so far, oldest first. -/
  written : π → List (List UInt8)
  /-- It has closed its own end. -/
  hasEnded : π → Bool

structure Line (π : Type) where
  peer : Peer π
  far : π
  client : Client
  now : Moment
  /-- Frames of the client the peer has read. -/
  readByPeer : Nat
  /-- Chunks of the peer the client has read. -/
  readByClient : Nat
  /-- Whether each side has read the other's end. -/
  endReadByPeer : Bool
  endReadByClient : Bool

namespace Line

variable {π : Type}

def start (peer : Peer π) (far : π) (client : Client) (now : Moment) : Line π where
  peer
  far
  client
  now
  readByPeer := 0
  readByClient := 0
  endReadByPeer := false
  endReadByClient := false

def written (l : Line π) : List (List UInt8) := l.peer.written l.far

/-- Carries everything the client has written to the peer, and its end. -/
def carryToPeer (l : Line π) : Line π :=
  let chunk := (l.client.sent.drop l.readByPeer).flatMap Sent.bytes
  let far := if chunk.isEmpty then l.far else l.peer.receive l.now chunk l.far
  let ended := l.client.endpoint.ended
  let far := if ended && !l.endReadByPeer then l.peer.receiveEnd far else far
  { l with far, readByPeer := l.client.sent.length, endReadByPeer := ended }

/-- Carries everything the peer has written to the client, and its end. -/
def carryToClient (l : Line π) : Line π :=
  let chunk := (l.written.drop l.readByClient).flatten
  let client := l.client.receiveBytes l.now chunk
  let ended := l.peer.hasEnded l.far
  let client := if ended then client.receiveEnd else client
  { l with client, readByClient := l.written.length, endReadByClient := ended }

/-- Something is still on its way. -/
def isBusy (l : Line π) : Bool :=
  l.readByPeer < l.client.sent.length || l.readByClient < l.written.length
    || (l.client.endpoint.ended && !l.endReadByPeer)
    || (l.peer.hasEnded l.far && !l.endReadByClient)

/-- Carries bytes both ways until none are left; an answer to an answer settles within a few
rounds. -/
def settle (l : Line π) : (rounds : Nat) → Line π
  | 0 => l
  | rounds + 1 => if l.isBusy then l.carryToPeer.carryToClient.settle rounds else l

def rounds : Nat := 64

def settled (l : Line π) : Line π := l.settle rounds

/-- Lets both sides look at the clock. -/
def tick (l : Line π) : Line π :=
  { l with far := l.peer.tick l.now l.far, client := l.client.tick l.now }

/-- Lets time pass until `done` holds or the deadline is reached. -/
def passTime (deadline : Duration) (done : Line π → Bool) (l : Line π) : (looks : Nat) → Line π
  | 0 => l
  | looks + 1 =>
    let l := l.settled
    if done l then l
    else
      let left := deadline.since l.now.steady
      if left.isZero then l
      else
        let step : Duration := ⟨min left.nanos l.client.connection.pause.nanos⟩
        passTime deadline done { l with now := l.now.after step }.tick looks

/-- Waits for `done`, for `timeout` at most. -/
def waitUntil (l : Line π) (done : Line π → Bool) (timeout : Duration) : Line π :=
  let looks := timeout.nanos / Connection.shortestPause.nanos + 2
  (passTime (l.now.steady + timeout) done l looks).settled

/-! ### What the client does -/

/-- Lets the client do something at once. -/
def act {α : Type} (l : Line π) (f : Client → α × Client) : α × Line π :=
  let (answer, client) := f l.client
  (answer, { l with client })

def send (l : Line π) (m : Message) : Except SessionFault Nat × Line π :=
  let (result, l) := l.act fun c => c.send m l.now
  (result, l.settled)

def logon (l : Line π) (timeout : Duration) : Except SessionFault Unit × Line π :=
  let (sent, l) := l.act fun c => c.startLogon l.now
  match sent with
  | .error fault => (.error fault, l)
  | .ok _ =>
    let l := l.waitUntil (fun l => l.client.logonSettled) timeout
    let (result, l) := l.act fun c => c.finishLogon timeout
    (result, l.settled)

def disconnect (l : Line π) : Line π := { l with client := l.client.disconnect }.settled

/-- Sends a logout, unless one has been sent, and waits for the answer. -/
def logout (l : Line π) : Except SessionFault Unit × Line π :=
  if !l.client.owesLogout then (.ok (), l)
  else
    let (sent, l) := l.act fun c => c.startLogout l.now
    match sent with
    | .error fault => (.error fault, l.disconnect)
    | .ok _ =>
      let l := l.waitUntil (fun l => l.client.isClosed) l.client.config.logonTimeout
      (.ok (), l.disconnect)

/-- Finishes a wait for a report. -/
def wait (l : Line π) (waiter : Waiter) (timeout : Duration) :
    Except SessionFault Message × Line π :=
  let l := l.waitUntil (fun l => l.client.isSettled waiter) timeout
  l.act fun c => c.finishWait waiter timeout

def waitForReport (l : Line π) (criteria : ReportMatch) (timeout : Duration) :
    Except SessionFault Message × Line π :=
  let (waiter, l) := l.act fun c => c.expect criteria
  l.wait waiter timeout

/-- The next message nobody waits for; `none` if there is none in time. -/
def receive (l : Line π) (timeout : Duration) : Option (Except SessionFault Message) × Line π :=
  let l := l.waitUntil (fun l => l.client.receive.1.isSome) timeout
  l.act Client.receive

/-- Waits for the end of the connection, and gives its reason if it comes. -/
def waitForEnd (l : Line π) (timeout : Duration) : Option SessionFault × Line π :=
  let l := l.waitUntil (fun l => l.client.isClosed) timeout
  (if l.client.isClosed then some l.client.connection.reason else none, l)

/-! ### What an order does -/

def requestFor (l : Line π) (f : Client → Except Failure Unit × Order × Client) :
    Except Failure Unit × Order × Line π :=
  let (result, o, client) := f l.client
  (result, o, { l with client }.settled)

def await (l : Line π) (o : Order) (awaited : Awaited) (timeout : Duration) :
    Except Failure Unit × Order × Line π :=
  let (answer, l) := l.waitForReport (awaited.criteria o) timeout
  match answer with
  | .error fault => (.error (.session fault), o, l)
  | .ok m =>
    match awaited.take o m with
    | .error fault => (.error (.order fault), o, l)
    | .ok o => (.ok (), o, l)

end Line

end FixBench
