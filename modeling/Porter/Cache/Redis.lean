import Mathlib.Data.List.Nodup
import Porter.Cache.Resp
import Porter.Run.Holding

/-!
# The Redis client and its connections

`Get`, `Set` and `Del` of `internal/cache/redis.go` on one client, with the pool of idle connections
they share.
-/
namespace Porter.Cache

open Go Run

structure Options where
  user : List UInt8
  password : List UInt8
  db : Int
  maxIdleConns : Nat

structure Conn where
  unanswered : List Nat
  inbound : List UInt8
  closed : Bool
  tripFailed : Bool

def Conn.new : Conn := ⟨[], [], false, false⟩

structure Sent where
  conn : Nat
  command : List (List UInt8)
  answer : Option Wire

structure Redis where
  opts : Options
  pool : List Nat
  conns : Nat → Conn
  broken : List Nat
  dialed : Nat
  sent : List Sent

def Redis.new (opts : Options) : Redis := ⟨opts, [], fun _ => Conn.new, [], 0, []⟩

variable (client : Redis)

def Redis.set (c : Nat) (conn : Conn) : Redis :=
  { client with conns := Function.update client.conns c conn }

inductive Request where
  | ping
  | get (key : List UInt8)
  | set (key value : List UInt8) (ttl : Int)
  | del (keys : List (List UInt8))
  | flush

def Request.args : Request → List (List UInt8)
  | .ping => [ascii "PING"]
  | .get key => [ascii "GET", key]
  | .set key value ttl =>
    [ascii "SET", key, value] ++
      if ttl > 0 then [ascii "PX", itoa (ttl / 1000000)] else []
  | .del keys => ascii "DEL" :: keys
  | .flush => [ascii "FLUSHDB"]

variable (opts : Options)

def authArgs : List (List UInt8) :=
  [ascii "AUTH"] ++ (if opts.user ≠ [] then [opts.user] else []) ++ [opts.password]

inductive Stage where
  | auth | select | command

def Stage.args (opts : Options) (request : Request) : Stage → List (List UInt8)
  | .auth => authArgs opts
  | .select => [ascii "SELECT", itoa opts.db]
  | .command => request.args

def Stage.authed : Stage := if opts.db ≠ 0 then .select else .command

def Stage.dialed : Stage := if opts.password = [] then .authed opts else .auth

inductive TripError where
  | io
  | reply (err : ReplyError)

inductive Attempt where
  | first
  | again (err : TripError)

inductive Phase where
  | acquire
  | dial (attempt : Attempt)
  | send (attempt : Attempt) (stage : Stage) (c : Nat)
  | receive (attempt : Attempt) (stage : Stage) (c ticket : Nat)
  | release (c ticket : Nat) (reply : Reply)
  | returned (ticket : Nat) (reply : Reply)
  | failed (err : TripError)
  | skipped

structure Call where
  request : Request
  phase : Phase

variable (request : Request)

def begin : Call :=
  match request with
  | .del [] => ⟨request, .skipped⟩
  | _ => ⟨request, .acquire⟩

structure Input where
  fails : Bool
  buffered : Nat

variable (err : TripError)

def Attempt.giveUp : Attempt → Phase
  | .first => .failed err
  | .again before => .failed before

variable (attempt : Attempt)

def afterError : Stage → Phase
  | .auth => attempt.giveUp err
  | .select => attempt.giveUp err
  | .command =>
    match attempt with
    | .first => .dial (.again err)
    | .again _ => .failed err

def afterReply (c ticket : Nat) (reply : Reply) :
    Stage → Phase
  | .auth => .send attempt (.authed opts) c
  | .select => .send attempt .command c
  | .command => .release c ticket reply

def Redis.fail (c : Nat) : Redis :=
  client.set c { client.conns c with closed := true, tripFailed := true }

def ReplyError.incomplete (err : ReplyError) : Bool := err = .eof || err = .unexpectedEOF

def advance (phase : Phase) (input : Input) : Redis × Phase :=
  match phase with
  | .acquire =>
    match client.pool.getLast? with
    | some c => ({ client with pool := client.pool.dropLast }, .send .first .command c)
    | none => (client, .dial .first)
  | .dial attempt =>
    if input.fails then (client, attempt.giveUp .io)
    else
      ({ client.set client.dialed Conn.new with dialed := client.dialed + 1 },
        .send attempt (.dialed client.opts) client.dialed)
  | .send attempt stage c =>
    if input.fails then (client.fail c, afterError .io attempt stage)
    else
      let conn := client.conns c
      ({ client.set c { conn with unanswered := conn.unanswered ++ [client.sent.length] } with
          sent := client.sent ++ [⟨c, stage.args client.opts request, none⟩] },
        .receive attempt stage c client.sent.length)
  | .receive attempt stage c ticket =>
    if input.fails then (client.fail c, afterError .io attempt stage)
    else
      let conn := client.conns c
      match readReply conn.inbound with
      | .ok (reply, rest) =>
        (client.set c { conn with inbound := rest.drop input.buffered },
          afterReply client.opts attempt c ticket reply stage)
      | .error err =>
        -- The reader waits as long as the connection may still deliver what is missing.
        if err.incomplete && c ∉ client.broken then (client, phase)
        else (client.fail c, afterError (.reply err) attempt stage)
  | .release c ticket reply =>
    if client.pool.length ≥ client.opts.maxIdleConns then
      (client.set c { client.conns c with closed := true }, .returned ticket reply)
    else ({ client with pool := client.pool ++ [c] }, .returned ticket reply)
  | .returned _ _ => (client, phase)
  | .failed _ => (client, phase)
  | .skipped => (client, phase)

def act (call : Call) (input : Input) : Redis × Call :=
  ((advance client call.request call.phase input).1,
    ⟨call.request, (advance client call.request call.phase input).2⟩)

inductive Change where
  | answer (c : Nat) (reply : { w : Wire // w.WellFormed })
  | giveUp (c : Nat)

def outside : Change → Redis
  | .answer c reply =>
    let conn := client.conns c
    if c ∈ client.broken then client
    else
      match conn.unanswered with
      | [] => client
      | ticket :: rest =>
        { client.set c { conn with
            unanswered := rest
            inbound := conn.inbound ++ reply.val.encode } with
          sent := client.sent.modify ticket (fun entry => { entry with answer := some reply.val }) }
  | .giveUp c => { client with broken := c :: client.broken }

def system : System Redis Call Request Input Change := ⟨fun _ => begin, act, outside⟩

inductive CallError where
  | trip (err : TripError)
  | unexpectedReply (command : String) (reply : Reply)

inductive Outcome where
  | got (value : Option (List UInt8))
  | finished (err : Option CallError)

def expectBytes (command : String) : Reply → Option CallError
  | .bytes _ => none
  | reply => some (.unexpectedReply command reply)

def Request.outcome : Request → Except TripError Reply → Outcome
  | .get _, .ok (.bytes value) => .got (some value)
  | .get _, _ => .got none
  | .ping, .ok reply => .finished (expectBytes "PING" reply)
  | .set _ _ _, .ok reply => .finished (expectBytes "SET" reply)
  | _, .ok _ => .finished none
  | _, .error err => .finished (some (.trip err))

def Call.outcome (call : Call) : Option Outcome :=
  match call.phase with
  | .returned _ reply => some (call.request.outcome (.ok reply))
  | .failed err => some (call.request.outcome (.error err))
  | .skipped => some (.finished none)
  | _ => none

def Phase.conn : Phase → Option Nat
  | .send _ _ c => some c
  | .receive _ _ c _ => some c
  | .release c _ _ => some c
  | _ => none

def Phase.ticket : Phase → Option Nat
  | .receive _ _ _ ticket => some ticket
  | .release _ ticket _ => some ticket
  | .returned ticket _ => some ticket
  | _ => none

def Call.conn (call : Call) : Option Nat := call.phase.conn

def Call.ticket (call : Call) : Option Nat := call.phase.ticket

inductive Advances (client : Redis) (request : Request) : Phase → Redis → Phase → Prop where
  | stays (phase : Phase) : Advances client request phase client phase
  | takes (rest : List Nat) (c : Nat) (idle : client.pool = rest ++ [c]) :
    Advances client request .acquire { client with pool := rest } (.send .first .command c)
  | misses : Advances client request .acquire client (.dial .first)
  | refused (attempt : Attempt) (err : TripError) :
    Advances client request (.dial attempt) client (.failed err)
  | dials (attempt : Attempt) :
    Advances client request (.dial attempt)
      { client.set client.dialed Conn.new with dialed := client.dialed + 1 }
      (.send attempt (.dialed client.opts) client.dialed)
  | sends (attempt : Attempt) (stage : Stage) (c : Nat) :
    Advances client request (.send attempt stage c)
      { client.set c { client.conns c with
          unanswered := (client.conns c).unanswered ++ [client.sent.length] } with
        sent := client.sent ++ [⟨c, stage.args client.opts request, none⟩] }
      (.receive attempt stage c client.sent.length)
  | fails (phase next : Phase) (c : Nat) (used : phase.conn = some c) (dropped : next.conn = none)
    (unsent : next.ticket = none) : Advances client request phase (client.fail c) next
  | receives (attempt : Attempt) (stage : Stage) (c ticket : Nat) (reply : Reply)
    (rest : List UInt8) (buffered : Nat)
    (read : readReply (client.conns c).inbound = .ok (reply, rest)) :
    Advances client request (.receive attempt stage c ticket)
      (client.set c { client.conns c with inbound := rest.drop buffered })
      (afterReply client.opts attempt c ticket reply stage)
  | keeps (c ticket : Nat) (reply : Reply)
    (room : client.pool.length < client.opts.maxIdleConns) :
    Advances client request (.release c ticket reply)
      { client with pool := client.pool ++ [c] } (.returned ticket reply)
  | closes (c ticket : Nat) (reply : Reply) :
    Advances client request (.release c ticket reply)
      (client.set c { client.conns c with closed := true }) (.returned ticket reply)

theorem giveUp_free :
    (attempt.giveUp err).conn = none ∧ (attempt.giveUp err).ticket = none ∧
      ∃ reported, attempt.giveUp err = .failed reported := by
  cases attempt with
  | first => exact ⟨rfl, rfl, err, rfl⟩
  | again before => exact ⟨rfl, rfl, before, rfl⟩

theorem afterError_free (stage : Stage) :
    (afterError err attempt stage).conn = none ∧ (afterError err attempt stage).ticket = none := by
  cases stage with
  | auth | select => exact ⟨(giveUp_free err attempt).1, (giveUp_free err attempt).2.1⟩
  | command =>
    cases attempt with
    | first | again => exact ⟨rfl, rfl⟩

theorem advance_advances (phase : Phase) (input : Input) :
    Advances client request phase (advance client request phase input).1
      (advance client request phase input).2 := by
  cases phase with
  | acquire =>
    cases top : client.pool.getLast? with
    | none =>
      simp only [advance, top]
      exact .misses
    | some c =>
      simp only [advance, top]
      exact .takes _ c (List.dropLast_append_getLast? c top).symm
  | dial attempt =>
    cases failed : input.fails with
    | true =>
      simp only [advance, failed, if_true]
      have ⟨_, _, reported, same⟩ := giveUp_free .io attempt
      rw [same]
      exact .refused attempt reported
    | false =>
      simp only [advance, failed, Bool.false_eq_true, if_false]
      exact .dials attempt
  | send attempt stage c =>
    cases failed : input.fails with
    | true =>
      simp only [advance, failed, if_true]
      have ⟨free, unsent⟩ := afterError_free .io attempt stage
      exact .fails _ _ c rfl free unsent
    | false =>
      simp only [advance, failed, Bool.false_eq_true, if_false]
      exact .sends attempt stage c
  | receive attempt stage c ticket =>
    cases failed : input.fails with
    | true =>
      simp only [advance, failed, if_true]
      have ⟨free, unsent⟩ := afterError_free .io attempt stage
      exact .fails _ _ c rfl free unsent
    | false =>
      simp only [advance, failed, Bool.false_eq_true, if_false]
      cases read : readReply (client.conns c).inbound with
      | ok answered => exact .receives attempt stage c ticket answered.1 answered.2 _ read
      | error err =>
        simp only
        split
        · exact .stays _
        · have ⟨free, unsent⟩ := afterError_free (.reply err) attempt stage
          exact .fails _ _ c rfl free unsent
  | release c ticket reply =>
    simp only [advance]
    split
    · exact .closes c ticket reply
    · rename_i room
      exact .keeps c ticket reply (Nat.lt_of_not_le room)
  | returned | failed | skipped => exact .stays _

variable {client after : Redis} {request : Request} {phase next : Phase} {c ticket : Nat}

structure Conn.Quiet (conn : Conn) : Prop where
  unanswered : conn.unanswered = []
  inbound : conn.inbound = []
  opened : conn.closed = false
  sound : conn.tripFailed = false

def Answered (client : Redis) (ticket : Nat) (command : List (List UInt8)) (reply : Reply) : Prop :=
  ∃ c w, client.sent[ticket]? = some ⟨c, command, some w⟩ ∧ w.value = .ok reply

structure Waiting (client : Redis) (c ticket : Nat) (command : List (List UInt8)) : Prop where
  opened : (client.conns c).closed = false
  sound : (client.conns c).tripFailed = false
  wire : (client.sent[ticket]? = some ⟨c, command, none⟩ ∧
      (client.conns c).unanswered = [ticket] ∧ (client.conns c).inbound = []) ∨
    ∃ w : Wire, w.WellFormed ∧ client.sent[ticket]? = some ⟨c, command, some w⟩ ∧
      (client.conns c).unanswered = [] ∧ (client.conns c).inbound = w.encode

def Own (client : Redis) (request : Request) : Phase → Prop
  | .send _ _ c => (client.conns c).Quiet
  | .receive _ stage c ticket => Waiting client c ticket (stage.args client.opts request)
  | .release c ticket reply => (client.conns c).Quiet ∧ Answered client ticket request.args reply
  | .returned ticket reply => Answered client ticket request.args reply
  | _ => True

structure Owned (client : Redis) (call : Call) : Prop where
  own : Own client call.request call.phase
  known : ∀ c, call.conn = some c → c < client.dialed

structure Ready (client : Redis) : Prop where
  bounded : client.pool.length ≤ client.opts.maxIdleConns
  idle : ∀ c ∈ client.pool, (client.conns c).Quiet ∧ c < client.dialed
  ledger : ∀ c, (client.conns c).unanswered = [] ∨
    ∃ ticket command, (client.conns c).unanswered = [ticket] ∧
      client.sent[ticket]? = some ⟨c, command, none⟩
  undialed : ∀ c, client.dialed ≤ c → (client.conns c).tripFailed = false

@[simp] theorem conns_set_self (client : Redis) (c : Nat) (conn : Conn) :
    (client.set c conn).conns c = conn := Function.update_self ..

variable {other : Nat}

theorem conns_set_of_ne (client : Redis) (conn : Conn) (apart : other ≠ c) :
    (client.set c conn).conns other = client.conns other := Function.update_of_ne apart ..

theorem Own.frame (own : Own client request phase) (opts : after.opts = client.opts)
    (conn : ∀ c, phase.conn = some c → after.conns c = client.conns c)
    (ticket : ∀ t entry, phase.ticket = some t → client.sent[t]? = some entry →
      after.sent[t]? = some entry) : Own after request phase := by
  cases phase with
  | acquire | dial | failed | skipped => trivial
  | send attempt stage c =>
    show (after.conns c).Quiet
    rw [conn c rfl]
    exact own
  | receive attempt stage c t =>
    have same := conn c rfl
    show Waiting after c t (stage.args after.opts request)
    rw [opts]
    refine ⟨by rw [same]; exact own.opened, by rw [same]; exact own.sound, ?_⟩
    rw [same]
    rcases own.wire with ⟨entry, wire⟩ | ⟨w, formed, entry, wire⟩
    · exact Or.inl ⟨ticket t _ rfl entry, wire⟩
    · exact Or.inr ⟨w, formed, ticket t _ rfl entry, wire⟩
  | release c t reply =>
    have ⟨quiet, other, w, entry, value⟩ := own
    refine ⟨?_, other, w, ticket t _ rfl entry, value⟩
    rw [conn c rfl]
    exact quiet
  | returned t reply =>
    have ⟨other, w, entry, value⟩ := own
    exact ⟨other, w, ticket t _ rfl entry, value⟩

variable {t : Nat}

theorem sent_append {sent : List Sent} {entry : Sent} (found : sent[t]? = some entry)
    (more : List Sent) : (sent ++ more)[t]? = some entry := by
  have ⟨bound, _⟩ := List.getElem?_eq_some_iff.mp found
  rw [List.getElem?_append_left bound]
  exact found

theorem Advances.frame (step : Advances client request phase after next) :
    after.opts = client.opts ∧
      (∀ c, phase.conn ≠ some c → c < client.dialed ∨ after.dialed ≤ c →
        after.conns c = client.conns c) ∧
      (∀ (t : Nat) (entry : Sent), client.sent[t]? = some entry → after.sent[t]? = some entry) ∧
      client.dialed ≤ after.dialed := by
  cases step with
  | stays | takes | misses | refused | keeps =>
    exact ⟨rfl, fun _ _ _ => rfl, fun _ _ found => found, Nat.le_refl _⟩
  | dials attempt =>
    refine ⟨rfl, ?_, fun _ _ found => found, Nat.le_succ _⟩
    intro c _ outside
    have other : c ≠ client.dialed := by
      rcases outside with below | beyond
      · omega
      · have above : client.dialed + 1 ≤ c := beyond
        omega
    exact conns_set_of_ne _ _ other
  | sends attempt stage c =>
    refine ⟨rfl, ?_, fun t entry found => sent_append found _, Nat.le_refl _⟩
    intro other apart _
    exact conns_set_of_ne _ _ (fun same => apart (congrArg some same.symm))
  | fails _ _ c used dropped unsent =>
    refine ⟨rfl, ?_, fun _ _ found => found, Nat.le_refl _⟩
    intro other apart _
    exact conns_set_of_ne _ _ (fun same => apart (used.trans (congrArg some same.symm)))
  | receives | closes =>
    refine ⟨rfl, ?_, fun _ _ found => found, Nat.le_refl _⟩
    intro other apart _
    exact conns_set_of_ne _ _ (fun same => apart (congrArg some same.symm))

theorem Owned.beside {other : Call} (owned : Owned client other)
    (step : Advances client request phase after next)
    (apart : ∀ c, other.conn = some c → phase.conn ≠ some c) : Owned after other := by
  have ⟨opts, conns, sent, dialed⟩ := step.frame
  constructor
  · apply owned.own.frame opts
    · intro c used
      have known := owned.known c used
      exact conns c (apart c used) (Or.inl known)
    · intro t entry _ found
      exact sent t entry found
  · intro c used
    have known := owned.known c used
    omega

theorem Own.of_free (unused : phase.conn = none) (unsent : phase.ticket = none) :
    Own client request phase := by
  cases phase with
  | acquire | dial | failed | skipped => trivial
  | send | receive | release => cases unused
  | returned t reply => cases unsent

theorem Waiting.read {command : List (List UInt8)} {reply : Reply} {rest : List UInt8}
    (waiting : Waiting client c ticket command)
    (read : readReply (client.conns c).inbound = .ok (reply, rest)) :
    rest = [] ∧ (client.conns c).unanswered = [] ∧ Answered client ticket command reply := by
  rcases waiting.wire with ⟨_, _, silent⟩ | ⟨w, formed, entry, answered, arrived⟩
  · rw [silent, readReply_nil] at read
    contradiction
  · have decoded := readReply_encode w formed []
    rw [List.append_nil, ← arrived, read] at decoded
    cases value : w.value with
    | error err =>
      rw [value] at decoded
      contradiction
    | ok v =>
      rw [value] at decoded
      have ⟨same, nothing⟩ := Prod.mk.inj (Except.ok.inj decoded)
      rw [← same] at value
      exact ⟨nothing, answered, c, w, entry, value⟩

theorem Owned.advances (owned : Owned client ⟨request, phase⟩) (ready : Ready client)
    (step : Advances client request phase after next) : Owned after ⟨request, next⟩ := by
  cases step with
  | stays => exact owned
  | takes rest c idle =>
    have member : c ∈ client.pool := by
      rw [idle]
      exact List.mem_append_right _ List.mem_cons_self
    have ⟨quiet, known⟩ := ready.idle c member
    refine ⟨quiet, ?_⟩
    intro other used
    rw [← Option.some.inj used]
    exact known
  | misses | refused => exact ⟨trivial, nofun⟩
  | dials attempt =>
    constructor
    · show Conn.Quiet _
      simp only [conns_set_self]
      exact ⟨rfl, rfl, rfl, rfl⟩
    · intro c used
      rw [← Option.some.inj used]
      exact Nat.lt_succ_self _
  | sends attempt stage c =>
    have quiet : (client.conns c).Quiet := owned.own
    refine ⟨⟨?_, ?_, Or.inl ⟨?_, ?_, ?_⟩⟩, ?_⟩
    · rw [conns_set_self]
      exact quiet.opened
    · rw [conns_set_self]
      exact quiet.sound
    · exact List.getElem?_concat_length
    · rw [conns_set_self, quiet.unanswered]
      rfl
    · rw [conns_set_self]
      exact quiet.inbound
    · intro other used
      exact owned.known other used
  | fails _ _ c used dropped unsent =>
    refine ⟨Own.of_free dropped unsent, ?_⟩
    intro other held
    rw [Call.conn, dropped] at held
    contradiction
  | receives attempt stage c ticket reply rest buffered read =>
    have waiting : Waiting client c ticket (stage.args client.opts request) := owned.own
    have ⟨nothing, answered, replied⟩ := waiting.read read
    have known := owned.known c rfl
    have quiet : ((client.set c { client.conns c with
        inbound := rest.drop buffered }).conns c).Quiet := by
      rw [conns_set_self, nothing]
      exact ⟨answered, List.drop_nil, waiting.opened, waiting.sound⟩
    have dialed : ∀ other, some c = some other → other < client.dialed := by
      intro other same
      rw [← Option.some.inj same]
      exact known
    cases stage with
    | auth | select => exact ⟨quiet, dialed⟩
    | command => exact ⟨⟨quiet, replied⟩, dialed⟩
  | keeps | closes => exact ⟨owned.own.2, nofun⟩

theorem Ready.idle_frame (ready : Ready client) (step : Advances client request phase after next)
    (apart : ∀ c, phase.conn = some c → c ∉ client.pool) :
    ∀ c ∈ client.pool, (after.conns c).Quiet ∧ c < after.dialed := by
  have ⟨_, conns, _, dialed⟩ := step.frame
  intro c member
  have ⟨quiet, known⟩ := ready.idle c member
  rw [conns c (fun used => apart c used member) (Or.inl known)]
  exact ⟨quiet, by omega⟩

theorem unanswered_set (client : Redis) {conn : Conn}
    (same : conn.unanswered = (client.conns c).unanswered) (other : Nat) :
    ((client.set c conn).conns other).unanswered = (client.conns other).unanswered := by
  by_cases here : other = c
  · rw [here, conns_set_self, same]
  · rw [conns_set_of_ne _ _ here]

theorem Ready.undialed_advances (ready : Ready client) (owned : Owned client ⟨request, phase⟩)
    (step : Advances client request phase after next) :
    ∀ c, after.dialed ≤ c → (after.conns c).tripFailed = false := by
  have ⟨_, conns, _, dialed⟩ := step.frame
  intro c beyond
  have fresh := ready.undialed c (by omega)
  have unused : phase.conn ≠ some c := by
    intro used
    have known := owned.known c used
    omega
  rw [conns c unused (Or.inr beyond)]
  exact fresh

theorem Ready.advances (ready : Ready client) (owned : Owned client ⟨request, phase⟩)
    (step : Advances client request phase after next)
    (apart : ∀ c, phase.conn = some c → c ∉ client.pool) : Ready after := by
  have stays := ready.idle_frame step apart
  have undialed := ready.undialed_advances owned step
  have ⟨_, _, sent, _⟩ := step.frame
  have ledger : ∀ c, (after.conns c).unanswered = (client.conns c).unanswered →
      (after.conns c).unanswered = [] ∨ ∃ ticket command,
        (after.conns c).unanswered = [ticket] ∧
          after.sent[ticket]? = some ⟨c, command, none⟩ := by
    intro c same
    rw [same]
    rcases ready.ledger c with none | ⟨ticket, command, one, entry⟩
    · exact Or.inl none
    · exact Or.inr ⟨ticket, command, one, sent ticket _ entry⟩
  cases step with
  | stays | misses | refused => exact ready
  | takes rest c idle =>
    have subset : ∀ other ∈ rest, other ∈ client.pool := by
      intro other member
      rw [idle]
      exact List.mem_append_left _ member
    refine ⟨?_, fun other member => stays other (subset other member),
      fun other => ledger other rfl, undialed⟩
    have bounded := ready.bounded
    rw [idle, List.length_append] at bounded
    exact Nat.le_of_succ_le bounded
  | dials attempt =>
    refine ⟨ready.bounded, stays, ?_, undialed⟩
    intro c
    by_cases here : c = client.dialed
    · left
      rw [here]
      simp only [conns_set_self]
      rfl
    · apply ledger
      simp only [conns_set_of_ne client _ here]
  | sends attempt stage c =>
    refine ⟨ready.bounded, stays, ?_, undialed⟩
    intro other
    by_cases here : other = c
    · right
      have quiet : (client.conns c).Quiet := owned.own
      refine ⟨client.sent.length, stage.args client.opts request, ?_, ?_⟩
      · rw [here, conns_set_self, quiet.unanswered]
        rfl
      · rw [here]
        exact List.getElem?_concat_length
    · apply ledger
      simp only [conns_set_of_ne client _ here]
  | fails | receives | closes =>
    refine ⟨ready.bounded, stays, ?_, undialed⟩
    intro other
    apply ledger
    apply unanswered_set
    rfl
  | keeps c ticket reply room =>
    refine ⟨?_, ?_, fun other => ledger other rfl, undialed⟩
    · rw [List.length_append]
      exact room
    · intro other member
      rcases List.mem_append.mp member with idle | new
      · exact stays other idle
      · rw [List.mem_singleton.mp new]
        exact ⟨owned.own.1, owned.known c rfl⟩

def Redis.answered (client : Redis) (c ticket : Nat) (reply : Wire) : Redis :=
  { client.set c { client.conns c with
      unanswered := []
      inbound := (client.conns c).inbound ++ reply.encode } with
    sent := client.sent.modify ticket (fun entry => { entry with answer := some reply }) }

theorem conns_answered_self (client : Redis) (c ticket : Nat) (reply : Wire) :
    (client.answered c ticket reply).conns c = { client.conns c with
      unanswered := []
      inbound := (client.conns c).inbound ++ reply.encode } := conns_set_self ..

theorem conns_answered_of_ne (client : Redis) (ticket : Nat) (reply : Wire) (apart : other ≠ c) :
    (client.answered c ticket reply).conns other = client.conns other :=
  conns_set_of_ne client _ apart

theorem answer_cases (ready : Ready client) (c : Nat) (reply : { w : Wire // w.WellFormed }) :
    outside client (.answer c reply) = client ∨
      ∃ ticket command, (client.conns c).unanswered = [ticket] ∧
        client.sent[ticket]? = some ⟨c, command, none⟩ ∧
        outside client (.answer c reply) = client.answered c ticket reply.val := by
  by_cases broken : c ∈ client.broken
  · left
    simp only [outside, broken, if_true]
  · rcases ready.ledger c with none | ⟨ticket, command, one, entry⟩
    · left
      simp only [outside, broken, if_false, none]
    · right
      refine ⟨ticket, command, one, entry, ?_⟩
      simp only [outside, broken, if_false, one, Redis.answered]

theorem tripFailed_answered (client : Redis) (c ticket : Nat) (reply : Wire) (other : Nat) :
    ((client.answered c ticket reply).conns other).tripFailed =
      (client.conns other).tripFailed := by
  by_cases here : other = c
  · rw [here, conns_answered_self]
  · rw [conns_answered_of_ne _ _ _ here]

theorem outside_frame (ready : Ready client) (change : Change) :
    (outside client change).pool = client.pool ∧
      (outside client change).sent.length = client.sent.length ∧
      ∀ c, ((outside client change).conns c).tripFailed = (client.conns c).tripFailed := by
  cases change with
  | giveUp other => exact ⟨rfl, rfl, fun _ => rfl⟩
  | answer other reply =>
    rcases answer_cases ready other reply with same | ⟨_, _, _, _, changed⟩
    · rw [same]
      exact ⟨rfl, rfl, fun _ => rfl⟩
    · rw [changed]
      exact ⟨rfl, List.length_modify .., tripFailed_answered _ _ _ _⟩

theorem sent_modify {sent : List Sent} {command : List (List UInt8)} {entry : Sent}
    (open_ : sent[ticket]? = some ⟨c, command, none⟩) (found : sent[t]? = some entry)
    (apart : entry.conn ≠ c ∨ entry.answer ≠ none) (answer : Sent → Sent) :
    (sent.modify ticket answer)[t]? = some entry := by
  have differ : ticket ≠ t := by
    intro same
    rw [same, found] at open_
    have equal := Option.some.inj open_
    rw [equal] at apart
    rcases apart with conn | answered
    · exact conn rfl
    · exact answered rfl
  rw [List.getElem?_modify_ne answer sent differ]
  exact found

section

variable {command : List (List UInt8)}
  (one : (client.conns c).unanswered = [ticket])
  (entry : client.sent[ticket]? = some ⟨c, command, none⟩)

include one in
theorem Conn.Quiet.answered (quiet : (client.conns other).Quiet) (reply : Wire) :
    ((client.answered c ticket reply).conns other).Quiet := by
  have apart : other ≠ c := by
    intro same
    rw [same] at quiet
    rw [quiet.unanswered] at one
    contradiction
  rw [conns_answered_of_ne _ _ _ apart]
  exact quiet

include entry in
theorem Answered.answered {sent : List (List UInt8)} {value : Reply}
    (replied : Answered client t sent value) (reply : Wire) :
    Answered (client.answered c ticket reply) t sent value := by
  have ⟨other, w, found, read⟩ := replied
  exact ⟨other, w, sent_modify entry found (Or.inr nofun) _, read⟩

include one entry

theorem Ready.answered (ready : Ready client) (reply : Wire) :
    Ready (client.answered c ticket reply) where
  bounded := ready.bounded
  idle := by
    intro other member
    have ⟨quiet, known⟩ := ready.idle other member
    exact ⟨quiet.answered one reply, known⟩
  ledger := by
    intro other
    by_cases here : other = c
    · left
      rw [here, conns_answered_self]
    · rw [conns_answered_of_ne _ _ _ here]
      rcases ready.ledger other with none | ⟨t, cmd, open_, found⟩
      · exact Or.inl none
      · exact Or.inr ⟨t, cmd, open_, sent_modify entry found (Or.inl here) _⟩
  undialed := by
    intro other beyond
    rw [tripFailed_answered]
    exact ready.undialed other beyond

theorem Waiting.answered {sent : List (List UInt8)} (waiting : Waiting client other t sent)
    {reply : Wire} (formed : reply.WellFormed) :
    Waiting (client.answered c ticket reply) other t sent := by
  by_cases here : other = c
  · subst here
    rcases waiting.wire with ⟨found, open_, silent⟩ | ⟨_, _, _, closed_, _⟩
    · have same : t = ticket := (List.cons.inj (open_.symm.trans one)).1
      refine ⟨?_, ?_, Or.inr ⟨reply, formed, ?_, ?_, ?_⟩⟩
      · rw [conns_answered_self]
        exact waiting.opened
      · rw [conns_answered_self]
        exact waiting.sound
      · rw [← same]
        show (client.sent.modify t _)[t]? = _
        rw [List.getElem?_modify_eq, found]
        rfl
      · rw [conns_answered_self]
      · rw [conns_answered_self, silent]
        rfl
    · rw [one] at closed_
      contradiction
  · refine ⟨?_, ?_, ?_⟩
    · rw [conns_answered_of_ne _ _ _ here]
      exact waiting.opened
    · rw [conns_answered_of_ne _ _ _ here]
      exact waiting.sound
    · rw [conns_answered_of_ne _ _ _ here]
      rcases waiting.wire with ⟨found, wire⟩ | ⟨w, shaped, found, wire⟩
      · exact Or.inl ⟨sent_modify entry found (Or.inl here) _, wire⟩
      · exact Or.inr ⟨w, shaped,
          sent_modify entry found (Or.inr nofun) _, wire⟩

theorem Own.answered (own : Own client request phase) {reply : Wire} (formed : reply.WellFormed) :
    Own (client.answered c ticket reply) request phase := by
  cases phase with
  | acquire | dial | failed | skipped => trivial
  | send attempt stage other => exact Conn.Quiet.answered one own reply
  | receive attempt stage other t => exact Waiting.answered one entry own formed
  | release other t v =>
    exact ⟨Conn.Quiet.answered one own.1 reply, Answered.answered entry own.2 reply⟩
  | returned t v => exact Answered.answered entry own reply

end

theorem Ready.outside (ready : Ready client) (change : Change) : Ready (outside client change) := by
  cases change with
  | giveUp c => exact ⟨ready.bounded, ready.idle, ready.ledger, ready.undialed⟩
  | answer c reply =>
    rcases answer_cases ready c reply with same | ⟨ticket, command, one, entry, changed⟩
    · rw [same]
      exact ready
    · rw [changed]
      exact ready.answered one entry reply.val

variable {call : Call}

theorem Owned.outside (owned : Owned client call) (ready : Ready client) (change : Change) :
    Owned (outside client change) call := by
  cases change with
  | giveUp c =>
    exact ⟨owned.own.frame rfl (fun _ _ => rfl) (fun _ _ _ found => found), owned.known⟩
  | answer c reply =>
    rcases answer_cases ready c reply with same | ⟨ticket, command, one, entry, changed⟩
    · rw [same]
      exact owned
    · rw [changed]
      exact ⟨owned.own.answered one entry reply.property, owned.known⟩

structure Invariant (p : Pool Redis Call) : Prop where
  known : System.Holds Ready Owned p
  conns : Exclusive Redis.pool Call.conn p
  tickets : Exclusive (fun _ => []) Call.ticket p

theorem begin_free (request : Request) :
    (begin request).conn = none ∧ (begin request).ticket = none := by
  unfold begin
  split
  · exact ⟨rfl, rfl⟩
  · exact ⟨rfl, rfl⟩

theorem Own.drawn (own : Own client request phase) (holds : phase.ticket = some ticket) :
    ticket < client.sent.length := by
  have found : ∃ entry, client.sent[ticket]? = some entry := by
    cases phase with
    | receive attempt stage c t =>
      obtain rfl := Option.some.inj holds
      have waiting : Waiting client c t (stage.args client.opts request) := own
      rcases waiting.wire with ⟨entry, _⟩ | ⟨_, _, entry, _⟩
      · exact ⟨_, entry⟩
      · exact ⟨_, entry⟩
    | release c t reply =>
      obtain rfl := Option.some.inj holds
      have ⟨_, _, _, entry, _⟩ := own
      exact ⟨_, entry⟩
    | returned t reply =>
      obtain rfl := Option.some.inj holds
      have ⟨_, _, entry, _⟩ := own
      exact ⟨_, entry⟩
    | acquire | dial | send | failed | skipped => contradiction
  have ⟨_, entry⟩ := found
  exact (List.getElem?_eq_some_iff.mp entry).1

variable (step : Advances client request phase after next)

include step

theorem Advances.conns {rest : List Nat}
    (idle : ∀ c ∈ client.pool, c < client.dialed) (known : ∀ c ∈ rest, c < client.dialed)
    (once : (client.pool ++ (phase.conn.toList ++ rest)).Nodup) :
    (after.pool ++ (next.conn.toList ++ rest)).Nodup := by
  have dropped : (client.pool ++ ([] ++ rest)).Nodup :=
    once.sublist (List.Sublist.append_left
      (List.Sublist.append_right (List.nil_sublist _) rest) client.pool)
  cases step with
  | stays | misses | refused | sends => exact once
  | takes left c top =>
    rw [top] at once
    simpa [Phase.conn] using once
  | dials attempt =>
    show (client.pool ++ client.dialed :: rest).Nodup
    rw [List.nodup_middle, List.nodup_cons]
    refine ⟨?_, dropped⟩
    intro member
    rcases List.mem_append.mp member with free | held
    · exact Nat.lt_irrefl _ (idle _ free)
    · exact Nat.lt_irrefl _ (known _ held)
  | fails _ _ c used free unsent =>
    rw [free]
    exact dropped
  | receives attempt stage c ticket reply left buffered read =>
    cases stage with
    | auth | select | command => exact once
  | keeps c ticket reply room => simpa [Phase.conn] using once
  | closes c ticket reply => exact dropped

theorem Advances.tickets {rest : List Nat}
    (drawn : ∀ t ∈ rest, t < client.sent.length) (once : (phase.ticket.toList ++ rest).Nodup) :
    (next.ticket.toList ++ rest).Nodup := by
  have dropped : ([] ++ rest).Nodup :=
    once.sublist (List.Sublist.append_right (List.nil_sublist _) rest)
  cases step with
  | stays | keeps | closes => exact once
  | takes | misses | refused | dials => exact dropped
  | sends attempt stage c =>
    show (client.sent.length :: rest).Nodup
    rw [List.nodup_cons]
    exact ⟨fun member => Nat.lt_irrefl _ (drawn _ member), dropped⟩
  | fails _ _ c used free unsent =>
    rw [unsent]
    exact dropped
  | receives attempt stage c ticket reply left buffered read =>
    cases stage with
    | auth | select => exact dropped
    | command => exact once

variable (p : Pool Redis Call) (event : Event Request Input Change)

omit step in
theorem invariant_step (inv : Invariant p) : Invariant (system.step p event) := by
  cases event with
  | begin request =>
    have ⟨unused, unsent⟩ := begin_free request
    refine ⟨inv.known.begin ⟨Own.of_free unused unsent, ?_⟩, inv.conns.begin unused,
      inv.tickets.begin unsent⟩
    intro c used
    have same : (begin request).conn = some c := used
    rw [unused] at same
    contradiction
  | outside change =>
    refine ⟨inv.known.outside (inv.known.shared.outside change)
      (fun call owned => owned.outside inv.known.shared change), ?_, inv.tickets⟩
    have once : (p.shared.pool ++ p.held Call.conn).Nodup := inv.conns
    rw [← (outside_frame inv.known.shared change).1] at once
    exact once
  | act index input =>
    cases present : p.calls[index]? with
    | none =>
      rw [System.step_act_of_none system present]
      exact inv
    | some call =>
      have step := advance_advances p.shared call.request call.phase input
      have owned := inv.known.calls index call present
      have member := List.mem_of_getElem? present
      have apart : ∀ c, call.conn = some c → c ∉ p.shared.pool := by
        intro c used free
        have held : c ∈ p.held Call.conn := Pool.mem_held.mpr ⟨call, member, used⟩
        exact (List.nodup_append.mp inv.conns).2.2 c free c held rfl
      constructor
      · apply inv.known.act
        intro other found
        obtain rfl := Option.some.inj (found.symm.trans present)
        refine ⟨inv.known.shared.advances owned step apart,
          owned.advances inv.known.shared step, ?_⟩
        intro i beside elsewhere there
        apply (inv.known.calls i beside there).beside step
        intro c used same
        exact elsewhere (inv.conns.index_eq there present used same)
      · apply inv.conns.act present
        intro rest others once
        refine step.conns (fun c free => (inv.known.shared.idle c free).2) ?_ once
        intro c held
        have ⟨other, among, holds⟩ := Pool.mem_held.mp (others c held)
        exact (inv.known.mem among).known c holds
      · apply inv.tickets.act present
        intro rest others once
        refine step.tickets ?_ once
        intro ticket held
        have ⟨other, among, holds⟩ := Pool.mem_held.mp (others ticket held)
        exact (inv.known.mem among).own.drawn holds

def start : Pool Redis Call := ⟨Redis.new opts, []⟩

omit step in
theorem invariant_start : Invariant (start opts) where
  known :=
    { shared :=
        { bounded := Nat.zero_le _
          idle := nofun
          ledger := fun _ => Or.inl rfl
          undialed := fun _ _ => rfl }
      calls := nofun }
  conns := List.nodup_nil
  tickets := List.nodup_nil

omit step in
theorem invariant_run (events : List (Event Request Input Change)) :
    Invariant (run system.step (start opts) events) :=
  run_preserved system.step Invariant (fun p event inv => invariant_step p event inv) _ events
    (invariant_start opts)

theorem Advances.tripFailed (ready : Ready client)
    (failed : (client.conns c).tripFailed = true) : (after.conns c).tripFailed = true := by
  have updated : ∀ (other : Nat) (conn : Conn),
      ((client.conns other).tripFailed = true → conn.tripFailed = true) →
      ((client.set other conn).conns c).tripFailed = true := by
    intro other conn kept
    by_cases here : c = other
    · rw [here] at failed
      rw [here, conns_set_self]
      exact kept failed
    · rw [conns_set_of_ne _ _ here]
      exact failed
  cases step with
  | stays | takes | misses | refused | keeps => exact failed
  | dials attempt =>
    apply updated
    intro fresh
    rw [ready.undialed client.dialed (Nat.le_refl _)] at fresh
    contradiction
  | sends attempt stage other => exact updated other _ id
  | fails _ _ other used dropped unsent => exact updated other _ (fun _ => rfl)
  | receives attempt stage other ticket reply rest buffered read => exact updated other _ id
  | closes other ticket reply => exact updated other _ id

theorem Advances.draws (holds : next.ticket = some ticket) :
    phase.ticket = some ticket ∨ ticket = client.sent.length := by
  cases step with
  | stays | keeps | closes => exact Or.inl holds
  | takes | misses | refused | dials => contradiction
  | sends attempt stage c => exact Or.inr (Option.some.inj holds).symm
  | fails _ _ c used dropped unsent =>
    rw [unsent] at holds
    contradiction
  | receives attempt stage c _ reply rest buffered read =>
    cases stage with
    | auth | select => contradiction
    | command => exact Or.inl holds

omit step

structure Marked (c : Nat) (p : Pool Redis Call) : Prop where
  inv : Invariant p
  failed : (p.shared.conns c).tripFailed = true

theorem marked_step (marked : Marked c p) : Marked c (system.step p event) := by
  refine ⟨invariant_step p _ marked.inv, ?_⟩
  have ready := marked.inv.known.shared
  cases event with
  | begin request => exact marked.failed
  | outside change => exact ((outside_frame ready change).2.2 c).trans marked.failed
  | act index input =>
    cases present : p.calls[index]? with
    | none =>
      rw [System.step_act_of_none _ present]
      exact marked.failed
    | some call =>
      rw [System.step_act_of_some _ present]
      exact (advance_advances _ _ _ input).tripFailed ready marked.failed

structure Drawn (ticket owner : Nat) (p : Pool Redis Call) : Prop where
  inv : Invariant p
  drawn : ticket < p.shared.sent.length
  owned : ∀ (index : Nat) (call : Call), p.calls[index]? = some call →
    call.ticket = some ticket → index = owner

theorem drawn_step {owner : Nat} (drawn : Drawn ticket owner p) :
    Drawn ticket owner (system.step p event) := by
  have inv := invariant_step p event drawn.inv
  cases event with
  | begin request =>
    refine ⟨inv, drawn.drawn, ?_⟩
    intro index call found holds
    have shape : (p.calls ++ [begin request])[index]? = some call := found
    rcases Nat.lt_or_ge index p.calls.length with old | new
    · rw [List.getElem?_append_left old] at shape
      exact drawn.owned index call shape holds
    · rw [List.getElem?_append_right new] at shape
      have same := List.mem_singleton.mp (List.mem_of_getElem? shape)
      rw [same, (begin_free request).2] at holds
      contradiction
  | outside change =>
    refine ⟨inv, ?_, drawn.owned⟩
    have same := (outside_frame drawn.inv.known.shared change).2.1
    have bound := drawn.drawn
    rw [← same] at bound
    exact bound
  | act index input =>
    cases present : p.calls[index]? with
    | none =>
      rw [System.step_act_of_none system present]
      exact drawn
    | some call =>
      have step := advance_advances p.shared call.request call.phase input
      refine ⟨inv, ?_, ?_⟩
      · have ⟨_, _, sent, _⟩ := step.frame
        have found := List.getElem?_eq_getElem drawn.drawn
        rw [System.step_act_of_some system present]
        exact (List.getElem?_eq_some_iff.mp (sent ticket _ found)).1
      · intro i other found holds
        by_cases here : i = index
        · rw [here, System.getElem?_step_act system present] at found
          rw [← Option.some.inj found] at holds
          rcases step.draws holds with before | fresh
          · rw [here]
            exact drawn.owned index call present before
          · have bound := drawn.drawn
            omega
        · rw [System.getElem?_step_act_of_ne _ p input here] at found
          exact drawn.owned i other found holds

def connections (p : Pool Redis Call) : List Nat := p.shared.pool ++ p.held Call.conn

structure Safe (p : Pool Redis Call) : Prop where
  replies : ∀ call ∈ p.calls, ∀ ticket reply, call.phase = .returned ticket reply →
    Answered p.shared ticket call.request.args reply
  values : ∀ call ∈ p.calls, ∀ value, call.outcome = some (.got (some value)) →
    ∃ ticket, call.ticket = some ticket ∧
      Answered p.shared ticket call.request.args (.bytes value)
  ends : ∀ call ∈ p.calls, call.outcome = some (.finished none) →
    call.phase = .skipped ∨ ∃ ticket reply, call.ticket = some ticket ∧
      Answered p.shared ticket call.request.args reply
  once : (connections p).Nodup
  bounded : p.shared.pool.length ≤ p.shared.opts.maxIdleConns
  sound : ∀ c ∈ connections p, (p.shared.conns c).tripFailed = false

theorem Own.sound (own : Own client request phase) (used : phase.conn = some c) :
    (client.conns c).tripFailed = false := by
  cases phase with
  | send attempt stage held =>
    obtain rfl := Option.some.inj used
    exact Conn.Quiet.sound own
  | receive attempt stage held ticket =>
    obtain rfl := Option.some.inj used
    exact Waiting.sound own
  | release held ticket reply =>
    obtain rfl := Option.some.inj used
    exact Conn.Quiet.sound own.1
  | acquire | dial | returned | failed | skipped => contradiction

theorem outcome_got {value : List UInt8} (got : call.outcome = some (.got (some value))) :
    ∃ ticket, call.phase = .returned ticket (.bytes value) := by
  unfold Call.outcome at got
  cases phase : call.phase with
  | returned ticket reply =>
    refine ⟨ticket, ?_⟩
    cases kind : call.request <;> cases reply <;> simp_all [Request.outcome]
  | failed err =>
    cases kind : call.request <;> simp_all [Request.outcome]
  | acquire | dial | send | receive | release | skipped => simp [phase] at got

theorem outcome_finished (finished : call.outcome = some (.finished none)) :
    call.phase = .skipped ∨ ∃ ticket reply, call.phase = .returned ticket reply := by
  unfold Call.outcome at finished
  cases phase : call.phase with
  | returned ticket reply => exact Or.inr ⟨ticket, reply, rfl⟩
  | failed err =>
    cases kind : call.request <;> simp_all [Request.outcome]
  | skipped => exact Or.inl rfl
  | acquire | dial | send | receive | release => simp [phase] at finished

theorem Invariant.safe {p : Pool Redis Call} (inv : Invariant p) : Safe p := by
  have replies : ∀ call ∈ p.calls, ∀ ticket reply, call.phase = .returned ticket reply →
      Answered p.shared ticket call.request.args reply := by
    intro call member ticket reply returned
    have own := (inv.known.mem member).own
    rw [returned] at own
    exact own
  refine ⟨replies, ?_, ?_, inv.conns, inv.known.shared.bounded, ?_⟩
  · intro call member value got
    have ⟨ticket, returned⟩ := outcome_got got
    exact ⟨ticket, by rw [Call.ticket, returned]; rfl, replies call member ticket _ returned⟩
  · intro call member finished
    rcases outcome_finished finished with skipped | ⟨ticket, reply, returned⟩
    · exact Or.inl skipped
    · exact Or.inr ⟨ticket, reply, by rw [Call.ticket, returned]; rfl,
        replies call member ticket reply returned⟩
  · intro c member
    rcases List.mem_append.mp member with idle | held
    · exact (inv.known.shared.idle c idle).1.sound
    · have ⟨call, among, used⟩ := Pool.mem_held.mp held
      exact (inv.known.mem among).own.sound used

/-- However the calls on a client and its server interleave, every moment is safe, a connection on
which a round trip failed is not used again, and a ticket is drawn by one call. -/
theorem calls_safe (opts : Options) (events : List (Event Request Input Change)) :
    Safe (run system.step (start opts) events) ∧
      ∀ before after, events = before ++ after →
        (∀ c, ((run system.step (start opts) before).shared.conns c).tripFailed = true →
          c ∉ connections (run system.step (start opts) events)) ∧
        ∀ (i j : Nat) (first second : Call) (ticket : Nat),
          (run system.step (start opts) before).calls[i]? = some first →
          first.ticket = some ticket →
          (run system.step (start opts) events).calls[j]? = some second →
          second.ticket = some ticket → i = j := by
  have safe := (invariant_run opts events).safe
  refine ⟨safe, ?_⟩
  intro before after split
  have inv := invariant_run opts before
  have later : run system.step (start opts) events =
      run system.step (run system.step (start opts) before) after := by
    rw [split, run_append]
  constructor
  · intro c failed used
    have marked : Marked c (run system.step (start opts) events) := by
      rw [later]
      exact run_preserved system.step (Marked c) (fun q event => marked_step q event) _ after
        ⟨inv, failed⟩
    have sound := safe.sound c used
    rw [marked.failed] at sound
    contradiction
  · intro i j first second ticket here one there other
    have now : Drawn ticket i (run system.step (start opts) before) := by
      refine ⟨inv, (inv.known.calls i first here).own.drawn one, ?_⟩
      intro index call found holds
      exact inv.tickets.index_eq found here holds one
    have drawn : Drawn ticket i (run system.step (start opts) events) := by
      rw [later]
      exact run_preserved system.step (Drawn ticket i) (fun q event => drawn_step q event) _ after
        now
    exact (drawn.owned j second there other).symm

end Porter.Cache
