import FixBench.Failure
import FixBench.Link.Endpoint
import FixBench.Link.Router

/-!
# Clients

A client dials an acceptor, logs on, sends, and waits for reports. Waiting is the business of
whoever drives the client: the operations here begin a wait, tell whether it has come to its end,
and finish it once it has, or once its time is up.
-/
namespace FixBench

/-- Whether anybody can be dialed at all, and what the system says if not. -/
inductive Network where
  | loopback
  | unreachable
  deriving DecidableEq, Repr

namespace Network

def dial : Network → Except Failure Unit
  | loopback => .ok ()
  | unreachable => .error (.system "Network is unreachable (os error 101)")

end Network

/-- How a logon stands. -/
inductive LogonStatus where
  | pending
  | accepted
  | rejected (text : String)
  | closed (fault : SessionFault)
  deriving DecidableEq, Repr

/-- State of the initiator's role. -/
structure Inbox where
  router : Router
  logon : LogonStatus
  logoutSent : Bool
  deriving DecidableEq, Repr

namespace Inbox

def empty : Inbox := ⟨.empty, .pending, false⟩

/-- Settles the logon, unless it has been settled before. -/
def settleLogon (i : Inbox) (status : LogonStatus) : Inbox :=
  if i.logon = .pending then { i with logon := status } else i

def handle (now : Moment) (event : SessionEvent) (i : Inbox) (c : Connection) :
    Except SessionFault Unit × Inbox × Connection :=
  match event with
  | .logonAccepted _ => (.ok (), { i with logon := .accepted }, c)
  | .deliver m => (.ok (), { i with router := i.router.dispatch m }, c)
  | .logout m =>
    let answered := i.logoutSent
    let i := { i.settleLogon (.rejected ((m.get Tag.text).getD "")) with logoutSent := true }
    if answered then (.ok (), i, c.close)
    else
      match c.send (c.session.logoutMessage none) now with
      | (.error fault, c) => (.error fault, i, c)
      | (.ok _, c) => (.ok (), i, c.close)

def closed (c : Connection) (i : Inbox) : Inbox :=
  { i with router := i.router.close c.reason }.settleLogon (.closed c.reason)

def role : Role Inbox where
  handle := handle
  closed := closed

end Inbox

structure Client where
  config : SessionConfig
  inbox : Inbox
  endpoint : Endpoint
  deriving DecidableEq, Repr

namespace Client

/-- A client whose connection stands; the logon is still to come. -/
def connect (network : Network) (config : SessionConfig) (id : Nat) (now : Moment) :
    Except Failure Client := do
  match config.validate with
  | .error fault => throw (.config fault)
  | .ok () => pure ()
  let lift {α : Type} (result : Except SessionFault α) : Except Failure α :=
    result.mapError Failure.session
  let session ← lift (Session.create config now).connecting
  network.dial
  let session ← lift (session.connected now)
  return { config, inbox := .empty, endpoint := .create (.create id session) }

def connection (c : Client) : Connection := c.endpoint.connection

def state (c : Client) : SessionState := c.connection.state

def isClosed (c : Client) : Bool := c.connection.closed

def version (c : Client) : String := c.config.version

/-- Frames written so far. -/
def sent (c : Client) : List Sent := c.connection.sent

def onEndpoint (c : Client) (f : Inbox → Endpoint → Inbox × Endpoint) : Client :=
  let (inbox, endpoint) := f c.inbox c.endpoint
  { c with inbox, endpoint }

def withConnection (c : Client) (connection : Connection) : Client :=
  { c with endpoint := { c.endpoint with connection } }

/-! ### The outside world -/

def receiveBytes (c : Client) (now : Moment) (chunk : List UInt8) : Client :=
  c.onEndpoint fun i e => e.receive Inbox.role now chunk i

def receiveEnd (c : Client) : Client := c.onEndpoint fun i e => e.receiveEnd Inbox.role i

/-- Lets the reading side notice that the connection has been closed. -/
def settle (c : Client) : Client := c.onEndpoint fun i e => e.settle Inbox.role i

def tick (c : Client) (now : Moment) : Client :=
  (c.withConnection (c.connection.tick now)).settle

/-! ### Sending -/

def send (c : Client) (m : Message) (now : Moment) : Except SessionFault Nat × Client :=
  let (result, connection) := c.connection.send m now
  (result, (c.withConnection connection).settle)

/-- Closes without a logout. -/
def disconnect (c : Client) : Client := (c.withConnection c.connection.close).settle

/-! ### Logon and logout -/

def startLogon (c : Client) (now : Moment) : Except SessionFault Nat × Client :=
  c.send c.connection.session.logonMessage now

def logonSettled (c : Client) : Bool := c.inbox.logon ≠ .pending

/-- Outcome of a logon that is settled, or has had `timeout` to become so. -/
def finishLogon (c : Client) (timeout : Duration) : Except SessionFault Unit × Client :=
  match c.inbox.logon with
  | .accepted => (.ok (), c)
  | .rejected text => (.error (.logonRejected text), c.disconnect)
  | .closed fault => (.error fault, c)
  | .pending => (.error (.logonTimeout timeout.millis64), c.disconnect)

/-- Whether a logout is still to be sent from this side. -/
def owesLogout (c : Client) : Bool := !c.inbox.logoutSent

def startLogout (c : Client) (now : Moment) : Except SessionFault Nat × Client :=
  let c := { c with inbox := { c.inbox with logoutSent := true } }
  c.send (c.connection.session.logoutMessage none) now

/-! ### Reports -/

def expect (c : Client) (criteria : ReportMatch) : Waiter × Client :=
  let (waiter, router) := c.inbox.router.expect criteria
  (waiter, { c with inbox := { c.inbox with router } })

def isSettled (c : Client) (waiter : Waiter) : Bool := c.inbox.router.isSettled waiter

def finishWait (c : Client) (waiter : Waiter) (timeout : Duration) :
    Except SessionFault Message × Client :=
  let (answer, router) := c.inbox.router.finishWait waiter timeout
  (answer, { c with inbox := { c.inbox with router } })

/-- The next message nobody waits for, if there is one already. -/
def receive (c : Client) : Option (Except SessionFault Message) × Client :=
  let (answer, router) := c.inbox.router.next
  (answer, { c with inbox := { c.inbox with router } })

end Client

end FixBench
