import FixBench.Proofs.Failing
import FixBench.Proofs.Link.Handshake
import FixBench.Proofs.Stress.Completion
import FixBench.Proofs.View.Content

/-!
# What a worker needs of its configuration

`validate` accepts a configuration exactly if it is `Valid`. A worker needs more. Its session looks at
the interval and the version once more (`InRange`). No text may end the field it stands in: a logon is
made of the version and the two identifiers (`Speakable`), an order of the version, the sender and the
symbol (`Orderable`). All workers are made of the same texts, so what is wrong for one is wrong for all
of them, and for every message they send.

Of an attempt to send only this is needed: if the symbol does not fit, nothing is sent, whatever has become
of the connection (`WorkerRun.attempt_of_unfit`). All else that a worker tells its loop counts no message
as sent.
-/
namespace FixBench

/-! ### Logging on -/

theorem Duration.isZero_ofMillis {millis : Nat} (positive : 0 < millis) :
    (ofMillis millis).isZero = false := by
  have some : millis * nanosPerMilli ≠ 0 := Nat.mul_ne_zero (by omega) (by decide)
  simpa [isZero, ofMillis] using some

namespace Loopback

variable {σ : Type} {network : Network} {settings : SessionConfig} {config : AcceptorConfig}
  {app : Application σ} {state : σ} {id : Nat} {now : Moment} {timeout : Duration}

theorem logOn_eq_config_fault_iff :
    (∃ fault, logOn network settings config app state id now timeout = .error (.config fault)) ↔
      settings.validate ≠ .ok () := by
  rw [← Client.connect_eq_config_fault_iff network settings id now]
  cases connects : Client.connect network settings id now with
  | error fault =>
    have same : logOn network settings config app state id now timeout = .error fault := by
      rw [logOn, connects]
      rfl
    rw [same]
    simp
  | ok client =>
    constructor
    · rintro ⟨fault, refused⟩
      rw [logOn, connects] at refused
      simp only [bind, Except.bind] at refused
      split at refused <;> cases refused
    · rintro ⟨_, ⟨⟩⟩

theorem speaks_of_logOn {line : Loopback σ}
    (opens : logOn network settings config app state id now timeout = .ok line) : settings.Speaks := by
  obtain ⟨client, connects, opens⟩ := (bind_eq_ok_iff ..).mp opens
  rw [← Client.startLogon_eq_ok_iff connects now]
  cases started : (client.startLogon now).1 with
  | ok seq => exact ⟨seq, rfl⟩
  | error fault =>
    simp only [Line.logon, Line.act, start, Line.start, started] at opens
    cases opens

end Loopback

namespace Stress

namespace Config

variable {c : Config}

/-! ### What validation makes sure of -/

structure Valid (c : Config) : Prop where
  endpoint : c.endpoint ≠ ""
  symbol : c.symbol ≠ ""
  sender : ∃ id, c.senderId = .ok id
  target : ∃ id, c.targetId = .ok id
  workers : 0 < c.workers
  sampleEvery : 0 < c.sampleEvery
  rate : c.rateIsValid = true
  ackTimeout : 0 < c.ackTimeoutMillis
  logonTimeout : 0 < c.logonTimeoutMillis
  interval : 1000 ≤ c.heartbeatMillis
  qty : c.qty.isPositive = true
  price : c.price.all Decimal.isPositive = true

theorem require_eq_ok_iff (holds : Bool) (fault : ConfigFault) (done : Unit) :
    require holds fault = .ok done ↔ holds = true := by
  cases holds <;> simp [require]

theorem validate_eq_ok_iff (c : Config) : c.validate = .ok () ↔ c.Valid := by
  simp only [validate, bind_eq_ok_iff, require_eq_ok_iff, decide_eq_true_eq]
  constructor
  · rintro ⟨_, endpoint, _, symbol, sender, named, target, known, _, workers, _, sampleEvery, _, rate,
      _, ackTimeout, _, logonTimeout, _, interval, _, qty, price⟩
    exact ⟨endpoint, symbol, ⟨sender, named⟩, ⟨target, known⟩, workers, sampleEvery, rate, ackTimeout,
      logonTimeout, interval, qty, price⟩
  · rintro ⟨endpoint, symbol, ⟨sender, named⟩, ⟨target, known⟩, workers, sampleEvery, rate, ackTimeout,
      logonTimeout, interval, qty, price⟩
    exact ⟨(), endpoint, (), symbol, sender, named, target, known, (), workers, (), sampleEvery, (),
      rate, (), ackTimeout, (), logonTimeout, (), interval, (), qty, price⟩

theorem text_of_compId {field text : String} {id : CompId} (read : compId field text = .ok id) :
    id.text = text := by
  unfold compId at read
  split at read
  · rename_i found
    cases read
    exact (CompId.ofText?_eq_some_iff text id).mp found
  · cases read

/-! ### The session of a worker -/

/-- The session's own validation has nothing against the configuration. -/
structure InRange (c : Config) : Prop where
  interval : c.heartbeatInterval ≤ Liveness.maxInterval
  version : SessionConfig.isVersion c.version = true

/-- A logon of the configuration can be written. -/
structure Speakable (c : Config) : Prop where
  version : Wire.Writable Tag.beginString c.version
  sender : Wire.Inline c.sender
  target : Wire.Inline c.target

/-- The settings of a worker's session, as the configuration gives them. -/
structure Opens (c : Config) (worker : Nat) (s : SessionConfig) : Prop where
  built : c.sessionConfig worker = .ok s
  sender : s.sender.text = c.sender
  target : s.target.text = c.target
  version : s.version = c.version
  heartbeatInterval : s.heartbeatInterval = c.heartbeatInterval
  logonTimeout : s.logonTimeout = c.logonTimeout
  senderSubId : s.senderSubId = some s!"W{worker}"
  targetSubId : s.targetSubId = none

theorem Valid.opens (valid : c.Valid) (worker : Nat) : ∃ s, c.Opens worker s := by
  obtain ⟨sender, named⟩ := valid.sender
  obtain ⟨target, known⟩ := valid.target
  have built : c.sessionConfig worker = .ok { SessionConfig.default sender target c.version with
      heartbeatInterval := c.heartbeatInterval
      logonTimeout := c.logonTimeout
      senderSubId := some s!"W{worker}" } := by
    rw [sessionConfig, named, known]
    rfl
  exact ⟨_, built, text_of_compId named, text_of_compId known, rfl, rfl, rfl, rfl, rfl⟩

namespace Opens

variable {worker : Nat} {s : SessionConfig} (opens : c.Opens worker s)
include opens

theorem validate_iff (valid : c.Valid) : s.validate = .ok () ↔ c.InRange := by
  have positive : c.heartbeatInterval.isZero = false :=
    Duration.isZero_ofMillis (by have := valid.interval; omega)
  have lasting : c.logonTimeout.isZero = false := Duration.isZero_ofMillis valid.logonTimeout
  rw [s.validate_eq_ok_iff, opens.heartbeatInterval, opens.logonTimeout, opens.version]
  exact ⟨fun ⟨_, interval, _, version⟩ => ⟨interval, version⟩,
    fun ⟨interval, version⟩ => ⟨positive, interval, lasting, version⟩⟩

theorem header_iff : s.HeaderWritable ↔ Wire.Inline c.sender ∧ Wire.Inline c.target := by
  constructor
  · rintro ⟨sender, target, -, -⟩
    exact ⟨opens.sender ▸ sender.soh_notMem, opens.target ▸ target.soh_notMem⟩
  · rintro ⟨sender, target⟩
    refine ⟨?_, ?_, ?_, ?_⟩
    · exact ⟨by decide, s.sender.nonempty, opens.sender.symm ▸ sender⟩
    · exact ⟨by decide, s.target.nonempty, opens.target.symm ▸ target⟩
    · rw [opens.senderSubId]
      rintro _ ⟨⟩
      exact Wire.Writable.append ((Wire.checkValue_eq_ok_iff Tag.senderSubId "W").mp (by decide))
        (Wire.inline_toString worker)
    · rw [opens.targetSubId]
      rintro _ ⟨⟩

theorem speaks_iff : s.Speaks ↔ c.Speakable := by
  constructor
  · rintro ⟨version, header⟩
    obtain ⟨sender, target⟩ := opens.header_iff.mp header
    exact ⟨opens.version ▸ version, sender, target⟩
  · rintro ⟨version, sender, target⟩
    exact ⟨opens.version.symm ▸ version, opens.header_iff.mpr ⟨sender, target⟩⟩

end Opens

/-! ### The orders of a worker -/

/-- The orders of the configuration can be written. -/
structure Orderable (c : Config) : Prop where
  version : Wire.Writable Tag.beginString c.version
  sender : Wire.Inline c.sender
  symbol : Wire.Inline c.symbol

/-- What an order of a worker says. -/
def order (c : Config) (clOrdId : String) : Content :=
  .newOrder clOrdId c.symbol c.side c.qty (if c.price.isSome then .limit else .market) c.price

theorem newOrder_eq_make (c : Config) (version clOrdId : String) :
    c.newOrder version clOrdId = Content.Kind.newOrder.make version (c.order clOrdId).settings := by
  have mapped (built : Except BuildFault NewOrderSingle) :
      built.map NewOrderSingle.message = built >>= fun request => pure request.message := by
    cases built <;> rfl
  cases price : c.price with
  | none | some px =>
    simp only [newOrder, order, price]
    exact (mapped _).symm

/-- A worker's order is always made. What can be wrong with it are its texts. -/
theorem newOrder_checks (c : Config) (version clOrdId : String) :
    ∃ m, c.newOrder version clOrdId = .ok m ∧
      (Wire.checkValues m = .ok () ↔ Wire.Writable Tag.beginString version ∧
        Wire.Writable Tag.clOrdId clOrdId ∧ Wire.Writable Tag.symbol c.symbol) := by
  have priced : (c.order clOrdId).Priced := by
    cases price : c.price <;> simp [order, price, Content.Priced, OrdType.requiresPrice]
  obtain ⟨m, makes, checks⟩ := (c.order clOrdId).make_settings priced version
  refine ⟨m, (c.newOrder_eq_make version clOrdId).trans makes, checks.trans (and_congr_right fun _ => ?_)⟩
  constructor
  · intro fit
    have writable (s : Setting) (call : s ∈ (c.order clOrdId).settings) := (fit s call).writable
    exact ⟨writable (.clOrdId clOrdId) (by simp [order, Content.settings]),
      writable (.symbol c.symbol) (by simp [order, Content.settings])⟩
  · rintro ⟨named, symbol⟩ s call
    simp only [order, Content.settings, List.mem_append, List.mem_cons, List.not_mem_nil, or_false,
      Option.mem_toList, Option.map_eq_some_iff] at call
    rcases call with (rfl | rfl | rfl | rfl | rfl) | ⟨px, -, rfl⟩
    · exact (Setting.fits_iff_writable _).mpr named
    · exact (Setting.fits_iff_writable _).mpr symbol
    -- The other calls bring no text.
    all_goals rintro _ ⟨⟩

/-- The identifiers of all orders begin with the sender, and have nothing else in them to go wrong. -/
theorem writable_clOrdId_iff (named : c.sender ≠ "") (worker index : Nat) {nonce : String}
    (plain : Wire.Inline nonce) :
    Wire.Writable Tag.clOrdId (c.clOrdId worker index nonce) ↔ Wire.Inline c.sender := by
  have dash : Wire.Inline "-" := by decide
  have number (n : Nat) : Wire.Inline (toString n) := Wire.inline_toString n
  have shape : c.clOrdId worker index nonce =
    c.sender ++ "-" ++ toString worker ++ "-" ++ toString index ++ "-" ++ nonce := rfl
  rw [shape]
  constructor
  · intro writable
    have inline : Wire.Inline _ := writable.soh_notMem
    simp only [Wire.inline_append_iff, dash, number, plain, and_true] at inline
    exact inline
  · intro inline
    have sender : Wire.Writable Tag.clOrdId c.sender := ⟨by decide, named, inline⟩
    exact (((((sender.append dash).append (number worker)).append dash).append (number index)).append
      dash).append plain

/-- All orders of a worker can be written, or none. -/
theorem Valid.newOrder_checks_iff (valid : c.Valid) (worker index : Nat) {nonce : String}
    (plain : Wire.Inline nonce) :
    ∃ m, c.newOrder c.version (c.clOrdId worker index nonce) = .ok m ∧
      (Wire.checkValues m = .ok () ↔ c.Orderable) := by
  obtain ⟨m, makes, checks⟩ := c.newOrder_checks c.version (c.clOrdId worker index nonce)
  obtain ⟨sender, named⟩ := valid.sender
  have identifies := c.writable_clOrdId_iff (text_of_compId named ▸ sender.nonempty) worker index plain
  rw [identifies] at checks
  refine ⟨m, makes, checks.trans ⟨?_, ?_⟩⟩
  · rintro ⟨version, sender, symbol⟩
    exact ⟨version, sender, symbol.soh_notMem⟩
  · rintro ⟨version, sender, symbol⟩
    exact ⟨version, sender, by decide, valid.symbol, symbol⟩

end Config

/-! ### The run of a worker -/

namespace WorkerRun

variable {σ : Type} (r : WorkerRun σ) {config : Config}

theorem sent_tell {event : LoopEvent} (idle : event ≠ .attempted .sent) :
    (r.tell config event).loop.progress.result.sent = r.loop.progress.result.sent := by
  cases event with
  | attempted outcome =>
    cases outcome with
    | sent => exact absurd rfl idle
    | notBuilt | sendFailed =>
      simp only [tell, SendLoop.step]
      split <;> rfl
  | hear => exact (SendLoop.Informs.step .hear rfl).sent
  | cancel => rfl
  | _ =>
    simp only [tell, SendLoop.step]
    split <;> rfl

/-- An order whose symbol does not fit is made and refused, whatever has become of the connection. -/
theorem attempt_of_unfit (unfit : ¬ Wire.Inline config.symbol) (worker : Nat) :
    (r.attempt config worker).loop = r.loop.step config (.attempted .sendFailed) := by
  let index := r.loop.attempts
  obtain ⟨m, makes, checks⟩ := config.newOrder_checks r.line.client.version
    (config.clOrdId worker index (Numeral.padded 8 (index % Nat.pow 10 8)))
  have refused (line : Loopback σ) : ∃ fault after, line.send m = (.error fault, after) := by
    cases sends : (line.client.connection.send m line.now).1 with
    | ok seq =>
      obtain ⟨-, checked, -⟩ := (Connection.send_eq_ok_iff ..).mp ⟨seq, sends⟩
      exact absurd (checks.mp checked).2.2.soh_notMem unfit
    | error fault => exact ⟨fault, _, by simp only [Line.send, Line.act, Client.send, sends]; rfl⟩
  unfold attempt
  dsimp only
  split
  · rename_i fault broken
    rw [makes] at broken
    cases broken
  · rename_i m' makes'
    obtain rfl : m = m' := Except.ok.inj (makes.symm.trans makes')
    split
    · rfl
    · rename_i seq line sends
      obtain ⟨fault, after, refuses⟩ := refused _
      rw [refuses] at sends
      cases sends

theorem sent_sendAll (unfit : ¬ Wire.Inline config.symbol) (worker : Nat) (started : Duration)
    (left : Nat) :
    (r.sendAll config worker started left).loop.progress.result.sent =
      r.loop.progress.result.sent := by
  induction left generalizing r with
  | zero => rfl
  | succ left ih =>
    unfold sendAll
    split
    · let paced := r.pace config started
      have failed := (paced.tell config .due).attempt_of_unfit unfit worker
      calc (((paced.tell config .due).attempt config worker).sendAll config worker started
          left).loop.progress.result.sent
        _ = ((paced.tell config .due).tell config (.attempted .sendFailed)).loop.progress.result.sent := by
          rw [ih, failed]
          rfl
        _ = (paced.tell config .due).loop.progress.result.sent := sent_tell _ (by decide)
        _ = paced.loop.progress.result.sent := sent_tell _ (by decide)
        _ = r.loop.progress.result.sent := (r.pace_informs config started).sent
    · rfl

theorem sent_linger (millisLeft : Nat) :
    (r.linger config millisLeft).loop.progress.result.sent = r.loop.progress.result.sent := by
  induction millisLeft generalizing r with
  | zero => exact (sent_tell _ (by decide)).trans (r.collect_informs config).sent
  | succ millisLeft ih =>
    unfold linger
    dsimp only
    split
    · exact (r.collect_informs config).sent
    · exact (ih _).trans (r.collect_informs config).sent

/-- No attempt of the whole run sends anything. -/
theorem sent_complete (unfit : ¬ Wire.Inline config.symbol) (line : Loopback σ) (worker : Nat)
    (cancelled : Bool) :
    ((start line config worker cancelled).complete config worker).loop.progress.result.sent = 0 := by
  let first := start line config worker cancelled
  let all := first.sendAll config worker first.line.now.steady config.messagesPerWorker
  let last := (all.tell config .leave).linger config config.gracePeriodMillis
  calc (last.tell config .finish).loop.progress.result.sent
    _ = last.loop.progress.result.sent := sent_tell _ (by decide)
    _ = (all.tell config .leave).loop.progress.result.sent := sent_linger _ _
    _ = all.loop.progress.result.sent := sent_tell _ (by decide)
    _ = first.loop.progress.result.sent := sent_sendAll _ unfit worker _ _
    _ = 0 := by rw [start_loop]; rfl

end WorkerRun

/-! ### Accepted, and of no use -/

section Runs

variable {c : Config} {worker : Nat} {s : SessionConfig} {σ : Type} (site : Site σ) (state : σ)
  (now : Moment)

theorem openSession_eq_logOn (opens : c.Opens worker s) :
    openSession c site state worker now = Loopback.logOn site.network s site.acceptor
      site.application state worker now c.logonTimeout := by
  rw [openSession, opens.built]
  rfl

/-- A worker that logs on has a configuration to log on with. -/
theorem speakable_of_openSession (opens : c.Opens worker s) (valid : c.Valid) {line : Loopback σ}
    (opened : openSession c site state worker now = .ok line) : c.InRange ∧ c.Speakable := by
  rw [openSession_eq_logOn site state now opens] at opened
  refine ⟨?_, opens.speaks_iff.mp (Loopback.speaks_of_logOn opened)⟩
  rw [← opens.validate_iff valid]
  by_contra refused
  obtain ⟨fault, failed⟩ := Loopback.logOn_eq_config_fault_iff.mpr refused
  rw [failed] at opened
  cases opened

theorem logonFailed_of_unready (opens : c.Opens worker s) (valid : c.Valid)
    (unready : ¬ (c.InRange ∧ c.Speakable)) :
    (runWorker c site state worker now).1.logonFailed = true := by
  unfold runWorker
  split
  · rfl
  · rename_i line opened
    exact absurd (speakable_of_openSession site state now opens valid opened) unready

theorem sent_of_unorderable (opens : c.Opens worker s) (valid : c.Valid) (unready : ¬ c.Orderable) :
    (runWorker c site state worker now).1.sent = 0 := by
  unfold runWorker
  split
  · rfl
  · rename_i line opened
    -- What an order shares with a logon has been good enough for the logon.
    obtain ⟨-, version, sender, -⟩ := speakable_of_openSession site state now opens valid opened
    have unfit : ¬ Wire.Inline c.symbol := fun symbol => unready ⟨version, sender, symbol⟩
    exact WorkerRun.sent_complete unfit line worker site.cancelled

end Runs

/-- **Accepted is not ready.** Validation lets a configuration pass whose workers cannot work, and this is
all that is missing. The session of a worker passes its own validation exactly if interval and version are
`InRange`, and only otherwise does opening it fail because of the configuration; its logon can be sent
exactly if the configuration is `Speakable`. An order is always made, and passes the check of its values
exactly if the configuration is `Orderable`; it can then be sent in every session that speaks. Whatever
the exchange is like, without the former every worker fails to log on, and without the latter no worker
sends anything. -/
theorem worker_ready_iff (c : Config) (valid : c.validate = .ok ()) (worker : Nat) :
    ∃ s, c.sessionConfig worker = .ok s ∧ (s.validate = .ok () ↔ c.InRange) ∧
      (∀ network id now client, Client.connect network s id now = .ok client →
        ∀ later, (∃ seq, (client.startLogon later).1 = .ok seq) ↔ c.Speakable) ∧
      (∀ index nonce, Wire.Inline nonce →
        ∃ m, c.newOrder s.version (c.clOrdId worker index nonce) = .ok m ∧
          (Wire.checkValues m = .ok () ↔ c.Orderable) ∧
          ∀ connection : Connection, Session.Reached s connection.session →
            connection.closed = false → connection.state = .active → ∀ now,
              (∃ seq, (connection.send m now).1 = .ok seq) ↔ c.Orderable ∧ c.Speakable) ∧
      ∀ (σ : Type) (site : Site σ) (state : σ) (now : Moment),
        ((∃ fault, openSession c site state worker now = .error (.config fault)) ↔ ¬ c.InRange) ∧
        (¬ (c.InRange ∧ c.Speakable) → (runWorker c site state worker now).1.logonFailed = true) ∧
        (¬ c.Orderable → (runWorker c site state worker now).1.sent = 0) := by
  rw [Config.validate_eq_ok_iff] at valid
  -- The session of the worker can be built; what it is worth is seen from its configuration alone.
  obtain ⟨s, opens⟩ := valid.opens worker
  have validated := opens.validate_iff valid
  refine ⟨s, opens.built, validated, ?_, ?_, ?_⟩
  · intro network id now client connects later
    exact (Client.startLogon_eq_ok_iff connects later).trans opens.speaks_iff
  · intro index nonce plain
    obtain ⟨m, makes, checks⟩ := valid.newOrder_checks_iff worker index plain
    refine ⟨m, opens.version.symm ▸ makes, checks, ?_⟩
    intro connection reached isOpen active now
    have may : connection.session.maySend m.msgType = true := by
      rw [Session.maySend, show connection.session.state = .active from active]
    rw [Connection.send_eq_ok_iff, checks, reached.headerWritable_iff, opens.header_iff]
    constructor
    · rintro ⟨-, orderable, -, sender, target⟩
      exact ⟨orderable, orderable.version, sender, target⟩
    · rintro ⟨orderable, -, sender, target⟩
      exact ⟨isOpen, orderable, may, sender, target⟩
  · intro σ site state now
    refine ⟨?_, logonFailed_of_unready site state now opens valid,
      sent_of_unorderable site state now opens valid⟩
    rw [openSession_eq_logOn site state now opens, ← validated]
    exact Loopback.logOn_eq_config_fault_iff

/-- The default configuration is ready: a worker's session is valid, its logon is sent, and once the
exchange has answered so is an order. With a symbol that ends its field no order is. -/
theorem worker_ready_iff_default :
    let split := { Config.default with symbol := "AA\x01100=BB" }
    let site : Site Unit := ⟨.loopback, .default "" ⟨"EXCH", by decide, by decide⟩, .silent, false⟩
    let now : Moment := ⟨⟨0⟩, 0⟩
    (∃ s client m, ∃ connection : Connection, Config.default.sessionConfig 3 = .ok s ∧
      s.validate = .ok () ∧ Client.connect .loopback s 1 now = .ok client ∧
      (∃ seq, (client.startLogon now).1 = .ok seq) ∧
      Config.default.newOrder s.version (Config.default.clOrdId 3 0 "00c0ffee") = .ok m ∧
      Wire.checkValues m = .ok () ∧ Session.Reached s connection.session ∧
      connection.state = .active ∧ ∃ seq, (connection.send m now).1 = .ok seq) ∧
    split.validate = .ok () ∧ (runWorker split site () 3 now).1.sent = 0 := by
  have accepted : { Config.default with symbol := "AA\x01100=BB" }.validate = .ok () := rfl
  intro split site now
  constructor
  · obtain ⟨s, built, validated, greets, orders, -⟩ := worker_ready_iff Config.default rfl 3
    have version : Wire.Writable Tag.beginString Config.default.version :=
      (Wire.checkValue_eq_ok_iff _ _).mp (by decide)
    have inRange : Config.default.InRange := ⟨by decide, by decide⟩
    have speakable : Config.default.Speakable := ⟨version, by decide, by decide⟩
    have orderable : Config.default.Orderable := ⟨version, by decide, by decide⟩
    have valid := validated.mpr inRange
    obtain ⟨m, makes, checks, sends⟩ := orders 0 "00c0ffee" (by decide)
    let waiting : Session :=
      ⟨s, .logonPending, .initial, .start s.heartbeatInterval now, none⟩
    have connects : Client.connect .loopback s 1 now =
        .ok ⟨s, .empty, .create (.create 1 waiting)⟩ := by
      simp only [Client.connect, valid]
      rfl
    let answer := (Message.logonAt "FIX.4.4" 30).headed "EXCH" "CLIENT" "1" "-"
    let frame := (Wire.encode answer).toOption.getD []
    have begins : (Wire.decode frame).map (fun m => (waiting.inbound m now).2.state) = .ok .active := by
      obtain rfl := Except.ok.inj built
      decide +kernel
    cases decoded : Wire.decode frame with
    | error fault =>
      rw [decoded] at begins
      cases begins
    | ok reply =>
      rw [decoded] at begins
      have active := Except.ok.inj begins
      have reached := Session.Reached.inbound now (.opened (Session.opened_eq s now now)) decoded
      let connection := Connection.create 1 (waiting.inbound reply now).2
      exact ⟨s, _, m, connection, built, valid, connects,
        (greets .loopback 1 now _ connects now).mpr speakable, makes, checks.mpr orderable, reached,
        active, (sends connection reached rfl active now).mpr ⟨orderable, speakable⟩⟩
  · obtain ⟨s, -, -, -, -, runs⟩ := worker_ready_iff split accepted 3
    have unfit : ¬ Wire.Inline split.symbol := by decide
    exact ⟨accepted, (runs Unit site () now).2.2 fun orderable => unfit orderable.symbol⟩

/-- A day is accepted, and a millisecond more than a day is accepted as well; but each session of the
latter is refused. -/
theorem overlong_interval_is_accepted :
    let c := { Config.default with heartbeatMillis := 86400001 }
    c.validate = .ok () ∧ ∃ s, c.sessionConfig 0 = .ok s ∧
      s.validate = .error (.invalid "heartbeat_interval" "must not exceed 86400s") :=
  ⟨rfl, _, rfl, by decide +kernel⟩

end Stress

end FixBench
