import FixBench.Link.Loopback
import FixBench.Proofs.Link.Greeting

/-!
# Handshakes

In a `Meeting` a client and an acceptor read what the other has written, in pieces of any size, and in
between each of them may look at the clock, send, close, or find the other gone. The logon of the client
asks for its interval in whole seconds; the acceptor takes this number over and returns it in its own
logon. Whatever happens in between, neither side is ever active at any other interval
(`Meeting.intervals_agree`).
-/
namespace FixBench

variable {σ : Type}

/-- What a side does besides reading. -/
inductive Act where
  /-- Finds the end of what the other side has to say. -/
  | readEnd
  | tick
  | send (m : Message)
  | close
  deriving DecidableEq, Repr

def Client.perform (c : Client) (now : Moment) : Act → Client
  | .readEnd => c.receiveEnd
  | .tick => c.tick now
  | .send m => (c.send m now).2
  | .close => c.disconnect

namespace AcceptorEnd

/-- Sends a message on the acceptor's own account, once there is a session. -/
def push (e : AcceptorEnd σ) (m : Message) (now : Moment) : AcceptorEnd σ :=
  match e.phase with
  | .live endpoint loggedOn =>
    { e with phase := .live { endpoint with connection := (endpoint.connection.send m now).2 } loggedOn }
  | _ => e

def perform (config : AcceptorConfig) (app : Application σ) (e : AcceptorEnd σ) (now : Moment) :
    Act → AcceptorEnd σ
  | .readEnd => e.onPhase (Acceptor.receiveEnd app)
  | .tick => e.onPhase (Acceptor.tick config app e.accepted now)
  | .send m => e.push m now
  | .close => e.onPhase (Acceptor.shutdown app)

end AcceptorEnd

structure Meeting (σ : Type) where
  client : Client
  far : AcceptorEnd σ
  /-- What the client has read of the bytes the acceptor has written, and the other way round. -/
  readByClient : List UInt8
  readByFar : List UInt8

inductive Meeting.Event (σ : Type) where
  /-- Reads this many bytes, or as many as there are. -/
  | clientReads (count : Nat)
  | farReads (count : Nat)
  | client (act : Act)
  | far (act : Act)
  /-- Whoever drives the client turns to what has arrived. -/
  | inbox (change : Inbox → Inbox)
  /-- The application is used elsewhere. -/
  | elsewhere (change : σ → σ)

namespace Meeting

/-- The next bytes of a stream. -/
def piece (stream read : List UInt8) (count : Nat) : List UInt8 := (stream.drop read.length).take count

def start (client : Client) (far : AcceptorEnd σ) : Meeting σ := ⟨client, far, [], []⟩

def fromClient (t : Meeting σ) : List UInt8 := t.client.sent.flatMap Sent.bytes

def fromFar (t : Meeting σ) : List UInt8 := t.far.sent.flatMap Sent.bytes

def step (config : AcceptorConfig) (app : Application σ) (t : Meeting σ) (now : Moment) :
    Event σ → Meeting σ
  | .clientReads count =>
    let chunk := piece t.fromFar t.readByClient count
    { t with
      client := t.client.receiveBytes now chunk
      readByClient := t.readByClient ++ chunk }
  | .farReads count =>
    let chunk := piece t.fromClient t.readByFar count
    { t with
      far := t.far.onPhase (Acceptor.receive config app t.far.id now chunk)
      readByFar := t.readByFar ++ chunk }
  | .client act => { t with client := t.client.perform now act }
  | .far act => { t with far := t.far.perform config app now act }
  | .inbox change => { t with client := { t.client with inbox := change t.client.inbox } }
  | .elsewhere change => { t with far := { t.far with state := change t.far.state } }

def run (config : AcceptorConfig) (app : Application σ) (t : Meeting σ) :
    List (Moment × Event σ) → Meeting σ
  | [] => t
  | (now, event) :: rest => (t.step config app now event).run config app rest

theorem append_piece_prefix {stream read : List UInt8} (front : read <+: stream) (count : Nat) :
    read ++ piece stream read count <+: stream := by
  obtain ⟨rest, rfl⟩ := front
  rw [piece, List.drop_left]
  exact (List.prefix_append_right_inj read).mpr (List.take_prefix count rest)

end Meeting

/-! ### Acts that are no reading -/

/-- The endpoint goes on where it was, or its session has ended. -/
structure Endpoint.Stays (e e' : Endpoint) : Prop where
  continues : e.connection.Continues e'.connection
  place : e'.connection.session.state = .disconnected ∨ e'.buffer = e.buffer ∧ e'.ended = e.ended

namespace Endpoint

variable {τ : Type} {role : Role τ} {s : τ} {e : Endpoint}

theorem Stays.settle {c : Connection} (continues : e.connection.Continues c) :
    e.Stays ({ e with connection := c }.settle role s).2 := by
  refine ⟨continues.trans (settle_continues (e := { e with connection := c })), ?_⟩
  unfold Endpoint.settle
  split
  · exact .inl rfl
  · exact .inr ⟨rfl, rfl⟩

theorem Stays.receiveEnd : e.Stays (e.receiveEnd role s).2 := by
  refine ⟨receiveEnd_continues, ?_⟩
  unfold Endpoint.receiveEnd
  split
  · exact .inr ⟨rfl, rfl⟩
  · split <;> exact .inl rfl

theorem Hears.stay {seconds : Nat} {heard : List UInt8} {e' : Endpoint} (hears : e.Hears seconds heard)
    (stays : e.Stays e') : e'.Hears seconds heard := by
  rcases hears with ⟨pending, goesOn, rfl⟩ | settled
  · -- Still waiting at the same place, unless the session has ended.
    rcases stays.place with ended | ⟨buffer, same⟩
    · exact .inr (.of_disconnected ended)
    · rcases stays.continues.state with state | ended
      · exact .inl ⟨state.trans pending, same.trans goesOn, buffer⟩
      · exact .inr (.of_disconnected ended)
  · exact .inr (settled.continue stays.continues)

end Endpoint

theorem Client.perform_stays (c : Client) (now : Moment) (act : Act) :
    c.endpoint.Stays (c.perform now act).endpoint := by
  cases act with
  | readEnd => exact .receiveEnd
  | tick => exact .settle (c.connection.continues_tick now)
  | send m => exact .settle (c.connection.continues_send m now)
  | close => exact .settle c.connection.continues_close

namespace AcceptorEnd

variable (config : AcceptorConfig) (app : Application σ) (now : Moment) {far : AcceptorEnd σ}
  {e : Endpoint} {loggedOn : Bool}

/-- A live acceptor stays live, and its connection grows. -/
def Grows (far far' : AcceptorEnd σ) : Prop :=
  ∀ e loggedOn, far.phase = .live e loggedOn →
    ∃ e' loggedOn', far'.phase = .live e' loggedOn' ∧ e.connection.Grows e'.connection

theorem sent_of_live (live : far.phase = .live e loggedOn) : far.sent = e.connection.sent := by
  rw [sent, live]
  rfl

theorem sent_of_not_live (silent : ∀ e loggedOn, far.phase ≠ .live e loggedOn) : far.sent = [] := by
  unfold sent
  cases phase : far.phase with
  | live e loggedOn => exact absurd phase (silent e loggedOn)
  | awaitingLogon | dropped => rfl

theorem Grows.sent {far' : AcceptorEnd σ} (grows : far.Grows far') : far.sent <+: far'.sent := by
  by_cases live : ∃ e loggedOn, far.phase = .live e loggedOn
  · obtain ⟨e, loggedOn, live⟩ := live
    obtain ⟨e', loggedOn', live', grown⟩ := grows e loggedOn live
    rw [sent_of_live live, sent_of_live live']
    exact grown.sent
  · push Not at live
    rw [sent_of_not_live live]
    exact List.nil_prefix

/-- What an acceptor says first is a greeting. -/
theorem first_of_hears {seconds : Nat} {heard : List UInt8} (hears : far.phase.Hears seconds heard) :
    ∀ frame ∈ far.sent.head?, frame.Greeting seconds := by
  by_cases live : ∃ e loggedOn, far.phase = .live e loggedOn
  · obtain ⟨e, loggedOn, live⟩ := live
    rw [live] at hears
    rw [sent_of_live live]
    exact hears.2.first
  · push Not at live
    rw [sent_of_not_live live]
    nofun

theorem perform_of_live (far : AcceptorEnd σ) (live : far.phase = .live e loggedOn) (act : Act) :
    ∃ e' loggedOn', (far.perform config app now act).phase = .live e' loggedOn' ∧
      e.connection.Continues e'.connection := by
  obtain ⟨state, phase, id, accepted⟩ := far
  obtain rfl : phase = .live e loggedOn := live
  have settled {c : Connection} (continues : e.connection.Continues c) : e.connection.Continues
      ({ e with connection := c }.settle (Acceptor.role app) ⟨state, loggedOn⟩).2.connection :=
    (Endpoint.Stays.settle continues).continues
  cases act with
  | readEnd => exact ⟨_, _, rfl, Endpoint.receiveEnd_continues⟩
  | tick => exact ⟨_, _, rfl, settled (e.connection.continues_tick now)⟩
  | send m => exact ⟨_, _, rfl, e.connection.continues_send m now⟩
  | close => exact ⟨_, _, rfl, settled e.connection.continues_close⟩

theorem grows_perform (far : AcceptorEnd σ) (act : Act) : far.Grows (far.perform config app now act) := by
  intro e loggedOn live
  obtain ⟨e', loggedOn', live', continues⟩ := perform_of_live config app now far live act
  exact ⟨e', loggedOn', live', continues.toGrows⟩

theorem hears_perform {seconds : Nat} {heard : List UInt8} (hears : far.phase.Hears seconds heard)
    (act : Act) : (far.perform config app now act).phase.Hears seconds heard := by
  obtain ⟨state, phase, id, accepted⟩ := far
  cases phase with
  | live e loggedOn =>
    obtain ⟨e', loggedOn', live', continues⟩ :=
      perform_of_live config app now ⟨state, .live e loggedOn, id, accepted⟩ rfl act
    rw [live']
    exact ⟨hears.1.continue continues, hears.2.grow continues.toGrows⟩
  | awaitingLogon buffer =>
    cases act with
    | send | close => exact hears
    | readEnd => cases buffer <;> trivial
    | tick =>
      simp only [perform, onPhase, Acceptor.tick]
      split
      · trivial
      · exact hears
  | dropped failure => cases act <;> trivial

theorem grows_receive (far : AcceptorEnd σ) (chunk : List UInt8) :
    far.Grows (far.onPhase (Acceptor.receive config app far.id now chunk)) := by
  obtain ⟨state, phase, id, accepted⟩ := far
  rintro e loggedOn rfl
  exact ⟨_, _, rfl, Endpoint.receive_grows (Acceptor.role_continues app) chunk⟩

end AcceptorEnd

/-! ### Every meeting -/

namespace Meeting

structure Sound (seconds : Nat) (t : Meeting σ) : Prop where
  greets : t.client.connection.Greets seconds
  clientHears : t.client.endpoint.Hears seconds t.readByClient
  farHears : t.far.phase.Hears seconds t.readByFar
  toClient : t.readByClient <+: t.fromFar
  toFar : t.readByFar <+: t.fromClient

section Steps

variable (config : AcceptorConfig) (app : Application σ) {seconds : Nat} {t : Meeting σ}

theorem prefix_stream {read : List UInt8} {sent sent' : List Sent}
    (front : read <+: sent.flatMap Sent.bytes) (longer : sent <+: sent') :
    read <+: sent'.flatMap Sent.bytes := by
  obtain ⟨rest, rfl⟩ := longer
  rw [List.flatMap_append]
  exact front.trans (List.prefix_append _ _)

theorem Sound.step (positive : 0 < seconds) (small : seconds < Numeral.limit64)
    (sound : t.Sound seconds) (now : Moment) (event : Event σ) :
    (t.step config app now event).Sound seconds := by
  obtain ⟨greets, clientHears, farHears, toClient, toFar⟩ := sound
  -- Each side's own invariant needs the other's only when it reads: what it reads opens with a greeting.
  cases event with
  | clientReads count =>
    have front := append_piece_prefix toClient count
    have grows : t.client.connection.Grows (t.client.receiveBytes now
        (piece t.fromFar t.readByClient count)).connection :=
      Endpoint.receive_grows Inbox.role_continues _
    exact ⟨greets.grow grows, clientHears.receive positive small Inbox.role_continues
      (AcceptorEnd.first_of_hears farHears) front now _, farHears, front, prefix_stream toFar grows.sent⟩
  | farReads count =>
    have front := append_piece_prefix toFar count
    have grows := t.far.grows_receive config app now (piece t.fromClient t.readByFar count)
    exact ⟨greets, clientHears, farHears.receive positive small greets.first front,
      prefix_stream toClient grows.sent, front⟩
  | client act =>
    have stays := t.client.perform_stays now act
    exact ⟨greets.grow stays.continues.toGrows, clientHears.stay stays, farHears, toClient,
      prefix_stream toFar stays.continues.sent⟩
  | far act =>
    have grows := t.far.grows_perform config app now act
    exact ⟨greets, clientHears, AcceptorEnd.hears_perform config app now farHears act,
      prefix_stream toClient grows.sent, toFar⟩
  | inbox change => exact ⟨greets, clientHears, farHears, toClient, toFar⟩
  | elsewhere change => exact ⟨greets, clientHears, farHears, toClient, toFar⟩

theorem Sound.run (positive : 0 < seconds) (small : seconds < Numeral.limit64)
    (sound : t.Sound seconds) (events : List (Moment × Event σ)) :
    (t.run config app events).Sound seconds := by
  induction events generalizing t with
  | nil => exact sound
  | cons event rest ih =>
    obtain ⟨now, event⟩ := event
    exact ih (sound.step config app positive small now event)

end Steps

end Meeting

/-! ### How a meeting begins -/

/-- A client that has connected awaits its logon, and has said nothing. -/
theorem Client.of_connect {network : Network} {settings : SessionConfig} {id : Nat} {now : Moment}
    {client : Client} (connects : connect network settings id now = .ok client) :
    settings.validate = .ok () ∧ ∃ session, Session.opened settings now now = .ok session ∧
      client.endpoint = .create (.create id session) := by
  cases valid : settings.validate with
  | error fault =>
    simp only [connect, valid] at connects
    cases connects
  | ok =>
    cases network with
    | unreachable =>
      simp only [connect, valid] at connects
      cases connects
    | loopback =>
      simp only [connect, valid] at connects
      cases connects
      exact ⟨rfl, _, rfl, rfl⟩

/-- Before anybody is dialed only the settings are looked at, and nobody looks at them afterwards. -/
theorem Client.connect_eq_config_fault_iff (network : Network) (settings : SessionConfig) (id : Nat)
    (now : Moment) :
    (∃ fault, connect network settings id now = .error (.config fault)) ↔
      settings.validate ≠ .ok () := by
  cases valid : settings.validate with
  | error fault =>
    refine iff_of_true ⟨fault, ?_⟩ (by rintro ⟨⟩)
    simp only [connect, valid]
    rfl
  | ok =>
    refine iff_of_false ?_ (not_not_intro rfl)
    rintro ⟨fault, refused⟩
    cases network with
    | loopback | unreachable =>
      simp only [connect, valid] at refused
      cases refused

/-- A client that has connected can send its logon exactly if its settings speak. -/
theorem Client.startLogon_eq_ok_iff {network : Network} {settings : SessionConfig} {id : Nat}
    {now : Moment} {client : Client} (connects : connect network settings id now = .ok client)
    (later : Moment) : (∃ seq, (client.startLogon later).1 = .ok seq) ↔ settings.Speaks := by
  obtain ⟨-, session, opened, endpoint⟩ := of_connect connects
  have reached := Session.Reached.opened opened
  rw [Session.opened_eq] at opened
  cases opened
  obtain ⟨config, inbox, endpoint⟩ := client
  subst endpoint
  have sends := Connection.send_eq_ok_iff (.create id
    ⟨settings, .logonPending, .initial, .start settings.heartbeatInterval now, none⟩)
    (.logonAt settings.version settings.heartbeatInterval.seconds) later
  have header := reached.headerWritable_iff
  constructor
  · rintro ⟨seq, started⟩
    obtain ⟨-, checked, -, fine⟩ := sends.mp ⟨seq, started⟩
    exact ⟨(Message.checkValues_logonAt_iff _ _).mp checked, header.mp fine⟩
  · rintro ⟨version, fine⟩
    exact sends.mpr ⟨rfl, (Message.checkValues_logonAt_iff _ _).mpr version, rfl, header.mpr fine⟩

theorem Connection.sent_of_send_eq_ok {c : Connection} {m : Message} {now : Moment} {seq : Nat}
    (sends : (c.send m now).1 = .ok seq) : (c.send m now).2.sent ≠ [] := by
  obtain ⟨fault, refused⟩ | ⟨stamped, session, -, ⟨-, bytes, -, written⟩ | ⟨-, reason, spent⟩⟩ :=
    c.send_cases m now
  · rw [refused] at sends
    cases sends
  · rw [written]
    exact List.append_ne_nil_of_right_ne_nil _ (List.cons_ne_nil _ _)
  · rw [spent] at sends
    cases sends

namespace Meeting

/-- The client has sent its logon, and the acceptor has just taken the connection. -/
theorem Sound.start {network : Network} {settings : SessionConfig} {id : Nat} {now later : Moment}
    {client greeted : Client} {seq : Nat} (connects : Client.connect network settings id now = .ok client)
    (sends : client.startLogon later = (.ok seq, greeted)) (state : σ) (farId : Nat) (accepted : Moment) :
    (start greeted (.fresh state farId accepted)).Sound settings.heartbeatInterval.seconds := by
  obtain ⟨valid, session, opened, endpoint⟩ := Client.of_connect connects
  obtain ⟨-, -, -, version⟩ := settings.validate_eq_ok_iff.mp valid
  rw [Session.opened_eq] at opened
  cases opened
  obtain ⟨config, inbox, endpoint⟩ := client
  subst endpoint
  let seconds := settings.heartbeatInterval.seconds
  let pending : Endpoint := .create (.create id
    ⟨settings, .logonPending, .initial, .start settings.heartbeatInterval now, none⟩)
  let c := (pending.connection.send (.logonAt settings.version seconds) later).2
  have sent : (pending.connection.send (.logonAt settings.version seconds) later).1 = .ok seq :=
    congrArg Prod.fst sends
  have settles : greeted.endpoint = ({ pending with connection := c }.settle Inbox.role inbox).2 :=
    congrArg (fun result => result.2.endpoint) sends.symm
  -- The client's first frame is its logon, and the far side has heard nothing yet.
  have greets : c.Greets seconds := by
    refine ⟨.inr (Connection.sent_of_send_eq_ok sent), ?_⟩
    exact Connection.first_of_send_logon rfl (SessionConfig.prefix_of_isVersion version) seconds later
  have stays : pending.Stays greeted.endpoint := by
    rw [settles]
    exact .settle (Connection.continues_send _ _ later)
  have grows : c.Grows greeted.endpoint.connection := by
    rw [settles]
    exact (Endpoint.settle_continues (e := { pending with connection := c })).toGrows
  have awaits : pending.Hears seconds [] := .inl ⟨rfl, rfl, rfl⟩
  exact ⟨greets.grow grows, awaits.stay stays, rfl, List.nil_prefix, List.nil_prefix⟩

/-- **Both sides keep the same time.** A client whose settings are valid, with an interval of at least
one second, has connected and sent its logon, and an acceptor of any configuration, with any
application, has taken the connection. Whatever the two then do: as soon as either of them is active,
its session works with the interval of the client in whole seconds. So both do once both are active. -/
theorem intervals_agree {network : Network} {settings : SessionConfig} {id : Nat} {now later : Moment}
    {client greeted : Client} {seq : Nat} (connects : Client.connect network settings id now = .ok client)
    (long : Duration.ofSeconds 1 ≤ settings.heartbeatInterval)
    (sends : client.startLogon later = (.ok seq, greeted)) (config : AcceptorConfig)
    (app : Application σ) (state : σ) (farId : Nat) (accepted : Moment)
    (events : List (Moment × Event σ)) :
    let met := (start greeted (.fresh state farId accepted)).run config app events
    let agreed := Duration.ofSeconds settings.heartbeatInterval.seconds
    (met.client.state = .active → met.client.connection.session.liveness.interval = agreed) ∧
      ∀ c, met.far.phase.connection? = some c → c.state = .active →
        c.session.liveness.interval = agreed := by
  intro met agreed
  obtain ⟨valid, -⟩ := Client.of_connect connects
  obtain ⟨-, short, -⟩ := settings.validate_eq_ok_iff.mp valid
  have positive : 0 < settings.heartbeatInterval.seconds :=
    Nat.div_pos (by exact long) (by decide)
  have small : settings.heartbeatInterval.seconds < Numeral.limit64 := by
    have bounded : settings.heartbeatInterval.seconds ≤ Liveness.maxInterval.seconds :=
      Nat.div_le_div_right short
    exact lt_of_le_of_lt bounded (by decide)
  have sound := (Sound.start connects sends state farId accepted).run config app positive small events
  refine ⟨fun active => ?_, fun c there active => ?_⟩
  · -- A client that still waits is not active.
    rcases sound.clientHears with ⟨pending, -⟩ | settled
    · rw [Client.state, Connection.state, Client.connection, pending] at active
      cases active
    · exact settled.interval active
  · have hears := sound.farHears
    cases live : met.far.phase with
    | awaitingLogon | dropped =>
      rw [live] at there
      cases there
    | live e loggedOn =>
      rw [live] at there
      cases there
      rw [live] at hears
      exact hears.1.interval active

/-- A client asks for two and a half seconds, and the acceptor would have kept thirty. The logons
arrive in pieces, and both sides look at the clock in between; both end up with two seconds. -/
theorem intervals_agree_in_pieces :
    let now : Moment := ⟨⟨0⟩, 0⟩
    let settings : SessionConfig :=
      { SessionConfig.default ⟨"C", by decide, by decide⟩ ⟨"S", by decide, by decide⟩ "FIX.4.2" with
        heartbeatInterval := ⟨2500000000⟩ }
    let config := AcceptorConfig.default "" ⟨"S", by decide, by decide⟩
    let client : Client := ⟨settings, .empty, .create (.create 1
      ⟨settings, .logonPending, .initial, .start settings.heartbeatInterval now, none⟩)⟩
    let greeted := (client.startLogon now).2
    let events : List (Moment × Event Unit) := [(now, .farReads 40), (now, .far .tick),
      (now, .farReads 100), (now, .clientReads 20), (now, .client .tick), (now, .clientReads 100)]
    let met := (start greeted (.fresh () 2 now)).run config .silent events
    Client.connect .loopback settings 1 now = .ok client ∧
      client.startLogon now = (.ok 1, greeted) ∧ met.client.state = .active ∧
      met.client.connection.session.liveness.interval = .ofSeconds 2 ∧
      ∃ c, met.far.phase.connection? = some c ∧ c.state = .active ∧
        c.session.liveness.interval = .ofSeconds 2 := by
  intro now settings config client greeted events met
  have connects : Client.connect .loopback settings 1 now = .ok client := by decide +kernel
  have sends : client.startLogon now = (.ok 1, greeted) := by decide +kernel
  have whole : settings.heartbeatInterval.seconds = 2 := by decide +kernel
  obtain ⟨near, far⟩ := intervals_agree connects (by decide) sends config .silent () 2 now events
  rw [whole] at near far
  have active : met.client.state = .active := by decide +kernel
  have farActive : met.far.phase.connection?.map Connection.state = some .active := by
    decide +kernel
  obtain ⟨c, there, active'⟩ := Option.map_eq_some_iff.mp farActive
  exact ⟨connects, sends, active, near active, c, there, active', far c there active'⟩

end Meeting

end FixBench
