import FixBench.Exchange.Fill
import FixBench.Link.Loopback

/-!
# Trading

Orders of one client over one line, with something behind the acceptor that may execute them on its
own account. An exchange executes the orders in its book; whatever is not an exchange knows none.
-/
namespace FixBench.Exchange

/-- Executes an order and builds the report for its owner. -/
abbrev Execution (σ : Type) := σ → String → Decimal → Decimal →
  Except Decimal.ArithmeticError (Except FillFault (Message × Owner) × σ)

def noExecution (σ : Type) : Execution σ :=
  fun s orderId _ _ => .ok (.error (.unknownOrder orderId), s)

structure Trading (σ : Type) where
  application : Application σ
  execution : Execution σ
  line : Loopback σ
  orders : List Order
  /-- Time an answer may take. -/
  timeout : Duration

namespace Trading

variable {σ : Type}

def update (t : Trading σ) (i : Nat) (outcome : Except Failure Unit × Order × Loopback σ) :
    Except Failure Unit × Trading σ :=
  let (result, o, line) := outcome
  (result, { t with line, orders := t.orders.set i o })

/-- Issues a request for order number `i`. -/
def request (t : Trading σ) (i : Nat) (f : Client → Except Failure Unit × Order × Client) :
    Except Failure Unit × Trading σ :=
  t.update i (t.line.requestFor f)

/-- Waits for an answer to order number `i`, which is `o`. -/
def await (t : Trading σ) (i : Nat) (o : Order) (awaited : Awaited) :
    Except Failure Unit × Trading σ :=
  t.update i (t.line.await o awaited t.timeout)

/-- Lets an order be executed and the report be sent; gives the number of the report. -/
def fill (t : Trading σ) (orderId : String) (qty px : Decimal) :
    Except Decimal.ArithmeticError (Except FillFault Nat × Trading σ) := do
  let (result, state) ← t.execution t.line.state orderId qty px
  let line := t.line.withState state
  match result with
  | .error fault => return (.error fault, { t with line })
  | .ok (report, _) =>
    let (sent, line) := Loopback.push line report
    return (sent.mapError .session, { t with line })

end Trading

end FixBench.Exchange
