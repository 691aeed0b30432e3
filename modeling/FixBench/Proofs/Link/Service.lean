import Mathlib.Logic.Function.Iterate
import FixBench.Proofs.Failing
import FixBench.Proofs.Link.Standing

/-!
# The acceptor at work

On a live connection two tasks take turns. The reader takes one frame after the other, asks the
application where its answer is wanted, and sends what there is to be said; the other looks at the
clock now and then. A look may come between any two steps of the reader, which knows by its `Duty` how
far it has got, and so may whatever happens elsewhere to the application. Left to itself, the reader
comes to what `Endpoint.takeFrames` does at a stretch (`exists_leads_takeFrames`), and always to rest
(`exists_leads_atRest`).
-/
namespace FixBench.Acceptor

/-- What the reader has in hand. -/
inductive Duty where
  | free
  /-- A message to be put to the application. -/
  | consult (m : Message)
  /-- Messages to be sent; the connection is to be closed behind them if the client is leaving. -/
  | reply (rest : List Message) (leaving : Bool)
  deriving DecidableEq, Repr

/-- What there is to be said once the application has answered. -/
def responsesTo (m : Message) : Except RejectReason (List Message) → List Message
  | .ok responses => responses
  | .error reason => [rejectFor m reason]

structure Service (σ : Type) where
  desk : Desk σ
  endpoint : Endpoint
  /-- Frames that have arrived and have not been looked at. -/
  frames : List (List UInt8)
  duty : Duty

inductive Turn (σ : Type) where
  /-- A step of the reader. -/
  | advance
  /-- A look at the clock. -/
  | look
  /-- Another connection has made the application change. -/
  | elsewhere (change : σ → σ)

def Turn.isAdvance {σ : Type} : Turn σ → Bool
  | .advance => true
  | .look | .elsewhere _ => false

namespace Service

variable {σ : Type}

def connection (v : Service σ) : Connection := v.endpoint.connection

def withConnection (v : Service σ) (connection : Connection) : Service σ :=
  { v with endpoint := { v.endpoint with connection } }

/-- Ends the endpoint. -/
def finish (app : Application σ) (fault : Option SessionFault) (v : Service σ) : Service σ :=
  let (desk, endpoint) := v.endpoint.finish (role app) fault v.desk
  { v with desk, endpoint, duty := .free }

/-- Lets the session say what a message means. -/
def take (app : Application σ) (now : Moment) (m : Message) (v : Service σ) : Service σ :=
  let (answer, session) := v.connection.session.inbound m now
  let v := v.withConnection { v.connection with session }
  match answer with
  | .error fault => v.finish app (some fault)
  | .ok (.admin none) => v
  | .ok (.admin (some reply)) => { v with duty := .reply [reply] false }
  | .ok (.logonAccepted heartBtInt) =>
    let (desk, endpoint) := v.endpoint.react (role app) now (.logonAccepted heartBtInt) v.desk
    { v with desk, endpoint }
  | .ok .logout => { v with duty := .reply [session.logoutMessage none] true }
  | .ok .deliver => { v with duty := .consult m }

def advance (app : Application σ) (now : Moment) (v : Service σ) : Service σ :=
  match v.duty with
  | .free =>
    match v.frames with
    | [] => v
    | frame :: rest =>
      if v.endpoint.ended then v
      else
        match Wire.decode frame with
        | .error _ => { v with frames := rest }
        | .ok m => { v with frames := rest }.take app now m
  | .consult m =>
    let (answer, application) := Acceptor.consult app m v.connection v.desk.application
    { v with desk := { v.desk with application }, duty := .reply (responsesTo m answer) false }
  | .reply (m :: rest) leaving =>
    match v.connection.send m now with
    | (.error fault, connection) => (v.withConnection connection).finish app (some fault)
    | (.ok _, connection) => { v.withConnection connection with duty := .reply rest leaving }
  | .reply [] true => (v.withConnection v.connection.close).finish app none
  | .reply [] false => if v.connection.closed then v.finish app none else { v with duty := .free }

/-- Between two messages the reader notices that the connection has been closed. -/
def look (app : Application σ) (now : Moment) (v : Service σ) : Service σ :=
  let v := v.withConnection (v.connection.tick now)
  match v.duty with
  | .free =>
    let (desk, endpoint) := v.endpoint.settle (role app) v.desk
    { v with desk, endpoint }
  | _ => v

def turn (app : Application σ) (now : Moment) (v : Service σ) : Turn σ → Service σ
  | .advance => v.advance app now
  | .look => v.look app now
  | .elsewhere change =>
    { v with desk := { v.desk with application := change v.desk.application } }

def run (app : Application σ) (v : Service σ) : List (Moment × Turn σ) → Service σ
  | [] => v
  | (now, turn) :: rest => (v.turn app now turn).run app rest

/-- The reader has nothing left to do. -/
def AtRest (v : Service σ) : Prop := v.duty = .free ∧ (v.frames = [] ∨ v.endpoint.ended = true)

theorem run_append (app : Application σ) (v : Service σ) (first rest : List (Moment × Turn σ)) :
    v.run app (first ++ rest) = (v.run app first).run app rest := by
  induction first generalizing v with
  | nil => rfl
  | cons turn first ih => exact ih _

theorem run_replicate_advance (app : Application σ) (now : Moment) (v : Service σ) (count : Nat) :
    v.run app (List.replicate count (now, .advance)) = (advance app now)^[count] v := by
  induction count generalizing v with
  | zero => rfl
  | succ count ih =>
    rw [List.replicate_succ, Function.iterate_succ_apply]
    exact ih _

/-! ### The reader left to itself -/

variable {app : Application σ} {now : Moment}

/-- Enough steps of the reader lead from one situation to another. -/
def Leads (app : Application σ) (now : Moment) (v w : Service σ) : Prop :=
  ∃ count, (advance app now)^[count] v = w

theorem Leads.refl (v : Service σ) : Leads app now v v := ⟨0, rfl⟩

theorem Leads.step {v w : Service σ} (later : Leads app now (v.advance app now) w) :
    Leads app now v w := by
  obtain ⟨count, rfl⟩ := later
  exact ⟨count + 1, rfl⟩

theorem Leads.once {v w : Service σ} (leads : v.advance app now = w) : Leads app now v w := ⟨1, leads⟩

theorem Leads.trans {v w u : Service σ} (first : Leads app now v w) (second : Leads app now w u) :
    Leads app now v u := by
  obtain ⟨m, rfl⟩ := first
  obtain ⟨n, rfl⟩ := second
  exact ⟨n + m, Function.iterate_add_apply ..⟩

/-- A message that has been sent leaves the connection open. -/
theorem closed_of_send {c after : Connection} {m : Message} {seq : Nat}
    (sends : c.send m now = (.ok seq, after)) : after.closed = false := by
  have isOpen : c.closed = false := by
    cases closed : c.closed with
    | false => rfl
    | true => simp [Connection.send, Connection.checkSendable, closed] at sends
  rcases c.send_cases m now with ⟨fault, refused⟩ | ⟨_, _, _, ⟨_, _, _, sent⟩ | ⟨_, _, spent⟩⟩
  · rw [refused] at sends
    cases sends
  · rw [sent] at sends
    cases sends
    exact isOpen
  · rw [spent] at sends
    cases sends

/-- What comes of the messages in hand, if nothing comes between. -/
def settled (app : Application σ) (now : Moment) (rest : List Message) (v : Service σ) : Service σ :=
  match v.connection.sendAll now rest with
  | (.error fault, connection) => (v.withConnection connection).finish app (some fault)
  | (.ok (), connection) =>
    if connection.closed then (v.withConnection connection).finish app none
    else { v.withConnection connection with duty := .free }

theorem advance_reply_cons (v : Service σ) (m : Message) (rest : List Message) (leaving : Bool) :
    advance app now { v with duty := .reply (m :: rest) leaving } =
      match v.connection.send m now with
      | (.error fault, connection) => (v.withConnection connection).finish app (some fault)
      | (.ok _, connection) => { v.withConnection connection with duty := .reply rest leaving } :=
  rfl

theorem advance_reply_nil (v : Service σ) :
    advance app now { v with duty := .reply [] false } = v.settled app now [] := rfl

theorem leads_settled (v : Service σ) (rest : List Message) :
    Leads app now { v with duty := .reply rest false } (v.settled app now rest) := by
  induction rest generalizing v with
  | nil =>
    apply Leads.step
    rw [advance_reply_nil]
    exact .refl _
  | cons m rest ih =>
    apply Leads.step
    rw [advance_reply_cons]
    rcases sends : v.connection.send m now with ⟨fault | seq, c⟩
    · have failed : v.settled app now (m :: rest) =
          (v.withConnection c).finish app (some fault) := by
        simp only [settled, Connection.sendAll, sends]
      rw [failed]
      exact .refl _
    · have rest : v.settled app now (m :: rest) = (v.withConnection c).settled app now rest := by
        simp only [settled, Connection.sendAll, sends]
        rfl
      rw [rest]
      exact ih _

/-- Between two messages. -/
def between (frames : List (List UInt8)) (reached : Desk σ × Endpoint) : Service σ :=
  ⟨reached.1, reached.2, frames, .free⟩

theorem leads_admin (d : Desk σ) (e : Endpoint) (frames : List (List UInt8)) (reply : Message) :
    Leads app now ⟨d, e, frames, .reply [reply] false⟩
      (between frames (match e.connection.send reply now with
        | (.error fault, connection) =>
          { e with connection }.finish (role app) (some fault) d
        | (.ok _, connection) => (d, { e with connection }))) := by
  refine (leads_settled ⟨d, e, frames, .free⟩ [reply]).trans ?_
  rcases sends : e.connection.send reply now with ⟨fault | seq, c⟩
  · simp only [settled, connection, Connection.sendAll, sends]
    exact .refl _
  · simp only [settled, connection, Connection.sendAll, sends, closed_of_send sends]
    exact .refl _

theorem leads_logout (d : Desk σ) (e : Endpoint) (frames : List (List UInt8)) (m : Message) :
    Leads app now ⟨d, e, frames, .reply [e.connection.session.logoutMessage none] true⟩
      (between frames (e.react (role app) now (.logout m) d)) := by
  apply Leads.step
  rcases sends : e.connection.send (e.connection.session.logoutMessage none) now with
    ⟨fault | seq, c⟩
  · simp only [advance, connection, sends, Endpoint.react, role, handle]
    exact .refl _
  · simp only [advance, connection, sends, Endpoint.react, role, handle]
    apply Leads.step
    exact .refl _

theorem handle_deliver (d : Desk σ) (c : Connection) (m : Message) :
    handle app now (.deliver m) d c =
      let (answer, application) := Acceptor.consult app m c d.application
      let (result, c) := c.sendAll now (responsesTo m answer)
      (result, { d with application }, c) := rfl

theorem leads_deliver (d : Desk σ) (e : Endpoint) (frames : List (List UInt8)) (m : Message) :
    Leads app now ⟨d, e, frames, .consult m⟩
      (between frames (e.react (role app) now (.deliver m) d)) := by
  apply Leads.step
  rcases asked : Acceptor.consult app m e.connection d.application with ⟨answer, application⟩
  simp only [advance, connection, asked]
  refine (leads_settled ⟨{ d with application }, e, frames, .free⟩ _).trans ?_
  simp only [settled, connection, Endpoint.react, role, handle_deliver, asked]
  rcases e.connection.sendAll now (responsesTo m answer) with ⟨fault | ⟨⟩, c⟩
  · exact .refl _
  · dsimp only
    split <;> exact .refl _

/-- What one message comes to. -/
theorem leads_takeMessage (d : Desk σ) (e : Endpoint) (frames : List (List UInt8)) (m : Message) :
    Leads app now (take app now m ⟨d, e, frames, .free⟩)
      (between frames (e.takeMessage (role app) now m d)) := by
  rw [take, Endpoint.takeMessage]
  simp only [connection]
  rcases e.connection.session.inbound m now with ⟨fault | answer, session⟩
  · exact .refl _
  · cases answer with
    | logonAccepted heartBtInt => exact .refl _
    | admin reply =>
      cases reply with
      | none => exact .refl _
      | some reply => exact leads_admin ..
    | logout => exact leads_logout ..
    | deliver => exact leads_deliver ..

/-- Left to itself, the reader comes to rest where the reader that is not divided into steps ends. -/
theorem exists_leads_takeFrames (app : Application σ) (now : Moment) (d : Desk σ) (e : Endpoint)
    (frames : List (List UInt8)) :
    ∃ rest, Leads app now ⟨d, e, frames, .free⟩
        (between rest (e.takeFrames (role app) now d frames)) ∧
      (between rest (e.takeFrames (role app) now d frames)).AtRest := by
  -- On the frames that wait; each of them is skipped, or its message is taken to the end.
  induction frames generalizing d e with
  | nil => exact ⟨[], .refl _, rfl, Or.inl rfl⟩
  | cons frame frames ih =>
    rw [Endpoint.takeFrames]
    cases ended : e.ended with
    | true => exact ⟨frame :: frames, .refl _, rfl, Or.inr ended⟩
    | false =>
      simp only [Bool.false_eq_true, if_false]
      cases decoded : Wire.decode frame with
      | error fault =>
        obtain ⟨rest, leads, atRest⟩ := ih d e
        refine ⟨rest, .step ?_, atRest⟩
        have skips : advance app now ⟨d, e, frame :: frames, .free⟩ = ⟨d, e, frames, .free⟩ := by
          simp [advance, ended, decoded]
        rw [skips]
        exact leads
      | ok m =>
        obtain ⟨rest, leads, atRest⟩ := ih (e.takeMessage (role app) now m d).1
          (e.takeMessage (role app) now m d).2
        refine ⟨rest, .step ?_, atRest⟩
        have takes : advance app now ⟨d, e, frame :: frames, .free⟩ =
            take app now m ⟨d, e, frames, .free⟩ := by
          simp [advance, ended, decoded]
        rw [takes]
        exact (leads_takeMessage d e frames m).trans leads

theorem exists_leads_atRest (app : Application σ) (now : Moment) (v : Service σ) :
    ∃ w, Leads app now v w ∧ w.AtRest := by
  -- It is enough to come to the end of what is in hand.
  suffices freed : ∃ d e frames, Leads app now v ⟨d, e, frames, .free⟩ by
    obtain ⟨d, e, frames, leads⟩ := freed
    obtain ⟨rest, onward, atRest⟩ := exists_leads_takeFrames app now d e frames
    exact ⟨_, leads.trans onward, atRest⟩
  rcases v with ⟨d, e, frames, duty⟩
  cases duty with
  | free => exact ⟨d, e, frames, .refl _⟩
  | consult m => exact ⟨_, _, _, leads_deliver d e frames m⟩
  | reply rest leaving =>
    cases leaving with
    | false =>
      have leads : Leads app now _ _ := leads_settled ⟨d, e, frames, .free⟩ rest
      unfold settled at leads
      split at leads
      · exact ⟨_, _, _, leads⟩
      · split at leads <;> exact ⟨_, _, _, leads⟩
    | true =>
      induction rest generalizing e with
      | nil => exact ⟨_, _, _, .once rfl⟩
      | cons m rest ih =>
        rcases sends : e.connection.send m now with ⟨fault | seq, c⟩
        · have failed : advance app now ⟨d, e, frames, .reply (m :: rest) true⟩ =
              finish app (some fault) ⟨d, { e with connection := c }, frames, .free⟩ := by
            simp only [advance, connection, sends]
            rfl
          exact ⟨_, _, _, .once failed⟩
        · have goesOn : advance app now ⟨d, e, frames, .reply (m :: rest) true⟩ =
              ⟨d, { e with connection := c }, frames, .reply rest true⟩ := by
            simp only [advance, connection, sends]
            rfl
          obtain ⟨_, _, _, leads⟩ := ih { e with connection := c }
          exact ⟨_, _, _, .step (goesOn ▸ leads)⟩

/-! ### What a logon has opened -/

/-- A service that has begun with a frame for which the acceptor has opened a session, whatever has
happened since. -/
inductive Opened (app : Application σ) : Service σ → Prop
  | logon {config : AcceptorConfig} {id : Nat} {frame : List UInt8} {first : Message} {now : Moment}
      {connection : Connection} (state : σ) (rest : List (List UInt8)) :
      Wire.decode frame = .ok first → openConnection config id first now = .ok connection →
      Opened app ⟨⟨state, false⟩, .create connection, frame :: rest, .free⟩
  | turn {v : Service σ} (now : Moment) (turn : Turn σ) : Opened app v → Opened app (v.turn app now turn)

/-- An endpoint that has ended has closed its connection. -/
structure Consistent (settings : SessionConfig) (id : Nat) (v : Service σ) : Prop where
  connection : v.connection.Consistent settings id
  closed : v.endpoint.ended = true → v.connection.closed = true

section Consistent

variable {settings : SessionConfig} {id : Nat} {v : Service σ}

/-- Whoever has an active session still reads. -/
theorem Consistent.goesOn (consistent : v.Consistent settings id)
    (active : v.connection.session.state = .active) : v.endpoint.ended = false := by
  rw [← Bool.not_eq_true]
  intro ended
  have closed := consistent.closed ended
  rw [(consistent.connection.inService active).isOpen] at closed
  cases closed

theorem Consistent.withConnection (consistent : v.Consistent settings id) {c : Connection}
    (other : c.Consistent settings id) (still : v.connection.closed = true → c.closed = true) :
    (v.withConnection c).Consistent settings id :=
  ⟨other, fun ended => still (consistent.closed ended)⟩

theorem Consistent.finish (consistent : v.Consistent settings id) (app : Application σ)
    (fault : Option SessionFault) :
    (v.finish app fault).Consistent settings id := by
  cases fault with
  | none => exact ⟨consistent.connection.close, fun _ => rfl⟩
  | some fault => exact ⟨consistent.connection.fail fault, fun _ => rfl⟩

theorem Consistent.send (consistent : v.Consistent settings id) (m : Message) (now : Moment) :
    (v.withConnection (v.connection.send m now).2).Consistent settings id := by
  refine consistent.withConnection (consistent.connection.send m now) fun closed => ?_
  rw [Connection.send_of_closed closed]
  exact closed

/-- The answer to a logon is sent like any other. -/
theorem Consistent.welcome (consistent : v.Consistent settings id) (heartBtInt : Nat) :
    Consistent settings id
      (let (desk, endpoint) := v.endpoint.react (role app) now (.logonAccepted heartBtInt) v.desk
       { v with desk, endpoint }) := by
  have sent := consistent.send (logonReply v.connection heartBtInt) now
  simp only [Endpoint.react, role, handle]
  change Consistent settings id { v with endpoint := { v.endpoint with connection := _ } } at sent
  rcases sends : v.connection.send (logonReply v.connection heartBtInt) now with ⟨fault | seq, c⟩
  · rw [sends] at sent
    have failed := sent.finish app (some fault)
    unfold Service.connection at sends
    rw [sends]
    exact ⟨failed.connection, failed.closed⟩
  · rw [sends] at sent
    unfold Service.connection at sends
    rw [sends]
    dsimp only
    split
    · have ended := sent.finish app none
      exact ⟨ended.connection, ended.closed⟩
    · exact ⟨sent.connection, sent.closed⟩

theorem Consistent.take (consistent : v.Consistent settings id) {frame : List UInt8} {m : Message}
    (decoded : Wire.decode frame = .ok m) : (v.take app now m).Consistent settings id := by
  have noticed := consistent.withConnection (consistent.connection.inbound decoded now) fun closed => closed
  unfold Service.take
  rcases answered : v.connection.session.inbound m now with ⟨fault | answer, session⟩
  · rw [answered] at noticed
    exact noticed.finish app _
  · rw [answered] at noticed
    dsimp only
    cases answer with
    | admin reply => cases reply <;> exact ⟨noticed.connection, noticed.closed⟩
    | logout | deliver => exact ⟨noticed.connection, noticed.closed⟩
    | logonAccepted heartBtInt => exact noticed.welcome heartBtInt

theorem Consistent.advance (consistent : v.Consistent settings id) :
    (v.advance app now).Consistent settings id := by
  unfold Service.advance
  cases v.duty with
  | free =>
    dsimp only
    split
    · exact consistent
    · rename_i rest _
      split
      · exact consistent
      · have popped : Consistent settings id { v with frames := rest, duty := .free } :=
          ⟨consistent.connection, consistent.closed⟩
        split
        · exact popped
        · rename_i decoded
          exact popped.take decoded
  | consult m => exact ⟨consistent.connection, consistent.closed⟩
  | reply rest leaving =>
    cases rest with
    | cons m rest =>
      have sent := consistent.send m now
      dsimp only
      split <;> rename_i sends <;> rw [sends] at sent
      · exact sent.finish app _
      · exact ⟨sent.connection, sent.closed⟩
    | nil =>
      cases leaving with
      | true =>
        exact Consistent.finish (consistent.withConnection consistent.connection.close fun _ => rfl) app _
      | false =>
        dsimp only
        split
        · exact consistent.finish app _
        · exact ⟨consistent.connection, consistent.closed⟩

theorem Consistent.look (consistent : v.Consistent settings id) :
    (v.look app now).Consistent settings id := by
  have ticked : (v.withConnection (v.connection.tick now)).Consistent settings id := by
    refine consistent.withConnection (consistent.connection.tick now) fun closed => ?_
    rw [Connection.tick_of_closed closed]
    exact closed
  unfold Service.look
  dsimp only
  split
  · unfold Endpoint.settle
    split
    · have ended := ticked.finish app none
      exact ⟨ended.connection, ended.closed⟩
    · exact ⟨ticked.connection, ticked.closed⟩
  · exact ticked

theorem Consistent.turn (consistent : v.Consistent settings id) (turn : Turn σ) :
    (v.turn app now turn).Consistent settings id := by
  cases turn with
  | advance => exact consistent.advance
  | look => exact consistent.look
  | elsewhere => exact ⟨consistent.connection, consistent.closed⟩

theorem openConnection_eq_ok {config : AcceptorConfig} {first : Message} {c : Connection}
    (opens : openConnection config id first now = .ok c) :
    ∃ client, checkLogon config first = .ok client ∧
      c.Consistent (sessionConfig config client first) id := by
  obtain ⟨client, admitted, opens⟩ := (bind_eq_ok_iff ..).mp opens
  obtain ⟨connecting, connects, opens⟩ := (bind_eq_ok_iff ..).mp opens
  obtain ⟨session, connected, opens⟩ := (bind_eq_ok_iff ..).mp opens
  cases opens
  have reached := Session.Reached.connected now (.connecting (.create now) connects) connected
  exact ⟨client, admitted, rfl, reached, by rintro ⟨⟩, fun _ => rfl⟩

/-- What a logon opens keeps to one configuration, and the acceptor can speak in its terms. -/
theorem Opened.consistent (opened : v.Opened app) :
    ∃ settings id, settings.Speaks ∧ v.Consistent settings id := by
  induction opened with
  | logon state rest decoded opens =>
    obtain ⟨client, admitted, consistent⟩ := openConnection_eq_ok opens
    exact ⟨_, _, speaks_sessionConfig decoded admitted, consistent, by rintro ⟨⟩⟩
  | turn now turn _ ih =>
    obtain ⟨settings, id, speaks, consistent⟩ := ih
    exact ⟨settings, id, speaks, consistent.turn turn⟩

end Consistent

end Service

end FixBench.Acceptor
