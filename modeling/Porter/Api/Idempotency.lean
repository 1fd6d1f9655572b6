import Porter.Api.Http
import Porter.Run.Guarded
import Porter.Store.Idempotency

/-!
# Idempotent requests

The middleware `idempotent` of `internal/api/api.go` behind the checks of `auth`.
-/
namespace Porter.Api.Idempotency

open Run Store

/-- What `auth` reads of a request: the user of its token, empty for none, the answers of the rate
limiter and `granted`, and the permission that is asked for. -/
structure Incoming where
  user : String
  method : String
  path : String
  csrf : String
  key : String
  withinRate : Bool
  perm : String
  permGranted : Bool

structure Request where
  principal : String
  method : String
  path : String
  key : String
deriving DecidableEq

def auth (csrfToken : String) (r : Incoming) : Except (Nat × String) Request :=
  if r.user = "" then .error (401, "unauthorized")
  else if !r.withinRate then .error (429, "rate limit exceeded")
  else if r.method ≠ "GET" ∧ r.method ≠ "HEAD" ∧ r.path ≠ "/csrf" ∧
      (r.csrf = "" ∨ r.csrf ≠ csrfToken) then
    .error (statusForbidden, "invalid or missing CSRF token")
  else if r.perm ≠ "" ∧ !r.permGranted then
    .error (statusForbidden, "missing permission: " ++ r.perm)
  else .ok ⟨r.user, r.method, r.path, r.key⟩

def mutates (method : String) : Bool :=
  method = "POST" || method = "PUT" || method = "PATCH" || method = "DELETE"

def Request.keyed (r : Request) : Bool := r.key ≠ "" && mutates r.method

inductive Write where
  | header (status : Nat)
  | body (text : String)
deriving DecidableEq

structure Answer where
  status : Nat
  body : String
deriving DecidableEq

structure RecordingWriter where
  status : Nat
  body : String
  wrote : Bool
  passed : List Write

def RecordingWriter.writeHeader (w : RecordingWriter) (status : Nat) : RecordingWriter :=
  if w.wrote then w
  else { w with wrote := true, status := status, passed := w.passed ++ [.header status] }

def RecordingWriter.write (w : RecordingWriter) (text : String) : RecordingWriter :=
  let w := if w.wrote then w else w.writeHeader statusOK
  { w with body := w.body ++ text, passed := w.passed ++ [.body text] }

def record (writes : List Write) : RecordingWriter :=
  writes.foldl (fun w call =>
    match call with
    | .header status => w.writeHeader status
    | .body text => w.write text) ⟨statusOK, "", false, []⟩

/-- What `net/http` sends: the first status, 200 without one, and all bodies in order. -/
def sent (calls : List Write) : Answer where
  status := (calls.findSome? fun | .header status => some status | .body _ => none).getD statusOK
  body := calls.foldl (fun text call =>
    match call with
    | .header _ => text
    | .body more => text ++ more) ""

structure RecordingWriter.Faithful (w : RecordingWriter) : Prop where
  sent : Idempotency.sent w.passed = ⟨w.status, w.body⟩
  started : w.wrote = false → w.passed = []
  headed : w.wrote = true → ∃ rest, w.passed = .header w.status :: rest

theorem RecordingWriter.Faithful.writeHeader {w : RecordingWriter} (faithful : w.Faithful)
    (status : Nat) : (w.writeHeader status).Faithful := by
  unfold RecordingWriter.writeHeader
  split
  · exact faithful
  · rename_i fresh
    have empty : w.passed = [] := faithful.started (by simpa using fresh)
    have same := faithful.sent
    refine ⟨?_, by simp, fun _ => ⟨[], by simp [empty]⟩⟩
    simpa [empty, Idempotency.sent] using congrArg Answer.body same

theorem RecordingWriter.Faithful.write {w : RecordingWriter} (faithful : w.Faithful)
    (text : String) : (w.write text).Faithful := by
  have begun : (if w.wrote then w else w.writeHeader statusOK).Faithful ∧
      (if w.wrote then w else w.writeHeader statusOK).wrote = true := by
    split
    · exact ⟨faithful, by assumption⟩
    · rename_i fresh
      exact ⟨faithful.writeHeader statusOK, by simp [RecordingWriter.writeHeader, fresh]⟩
  obtain ⟨started, wrote⟩ := begun
  unfold RecordingWriter.write
  obtain ⟨rest, headed⟩ := started.headed wrote
  have same := started.sent
  refine ⟨?_, fun fresh => by simp [wrote] at fresh,
    fun _ => ⟨rest ++ [.body text], by simp [headed]⟩⟩
  simpa [headed, Idempotency.sent, List.foldl_append] using congrArg Answer.body same

theorem record_faithful (writes : List Write) : (record writes).Faithful := by
  suffices kept : ∀ w : RecordingWriter, w.Faithful → (writes.foldl (fun w call =>
      match call with
      | .header status => w.writeHeader status
      | .body text => w.write text) w).Faithful from
    kept _ ⟨rfl, fun _ => rfl, fun wrote => by simp at wrote⟩
  induction writes with
  | nil => exact fun _ faithful => faithful
  | cons call rest recurse =>
    intro w faithful
    cases call with
    | header status => exact recurse _ (faithful.writeHeader status)
    | body text => exact recurse _ (faithful.write text)

inductive Phase where
  | passing
  | running
  | executed (writes : List Write)
  | answered (answer : Answer)
  | replayed (row : IdempotencyRow Request)
deriving DecidableEq

structure Thread where
  request : Request
  phase : Phase
deriving DecidableEq

structure Server where
  table : IdempotencyTable Request
  threads : List Thread

def Server.empty : Server := ⟨Sql.Table.empty _, []⟩

/-- The CSRF token, the pattern the mux matches, and the column the answers are stored in. -/
structure Setup (V : Type) where
  csrfToken : String
  pattern : String → String → String
  column : JsonColumn V

variable {V : Type}

def scopedKey (setup : Setup V) (r : Request) : String :=
  r.method ++ " " ++ setup.pattern r.method r.path ++ " " ++ r.key

inductive Event where
  | arrive (r : Incoming) (fault : Bool)
  | handle (thread : Nat) (writes : List Write)
  | store (thread : Nat) (fault : Bool)

def lookup (setup : Setup V) (table : IdempotencyTable Request) (fault : Bool) (r : Request) :
    Phase :=
  if !r.keyed then .passing
  else
    match idempotencyRow table fault (scopedKey setup r) with
    | some row => .replayed row
    | none => .running

variable (setup : Setup V)

theorem lookup_cases (table : IdempotencyTable Request) (fault : Bool) (r : Request) :
    (r.keyed = false ∧ lookup setup table fault r = .passing) ∨
    (∃ row ∈ table.rows, r.keyed = true ∧ row.key = scopedKey setup r ∧
      lookup setup table fault r = .replayed row) ∨
    (r.keyed = true ∧ idempotencyRow table fault (scopedKey setup r) = none ∧
      lookup setup table fault r = .running) := by
  cases keyed : r.keyed with
  | false => simp [lookup, keyed]
  | true =>
    cases found : idempotencyRow table fault (scopedKey setup r) with
    | none => simp [lookup, keyed, found]
    | some row =>
      have stored := idempotencyRow_mem found
      exact Or.inr (Or.inl ⟨row, stored.1, rfl, stored.2, by simp [lookup, keyed, found]⟩)

theorem getIdempotency_of_replayed {setup : Setup V} {table : IdempotencyTable Request}
    {fault : Bool} {r : Request} {row : IdempotencyRow Request}
    (led : lookup setup table fault r = .replayed row) :
    getIdempotency table fault (scopedKey setup r) = some row.record := by
  unfold lookup at led
  split at led
  · cases led
  · split at led
    · next found =>
      cases led
      rw [getIdempotency, found, Option.map_some]
    · cases led

def step (setup : Setup V) (server : Server) : Event → Server
  | .arrive incoming fault =>
    match auth setup.csrfToken incoming with
    | .error _ => server
    | .ok r => { server with
        threads := server.threads ++ [⟨r, lookup setup server.table fault r⟩] }
  | .handle i writes =>
    match server.threads[i]? with
    | some ⟨r, .passing⟩ =>
      { server with threads := server.threads.set i ⟨r, .answered (sent writes)⟩ }
    | some ⟨r, .running⟩ => { server with threads := server.threads.set i ⟨r, .executed writes⟩ }
    | _ => server
  | .store i fault =>
    match server.threads[i]? with
    | some ⟨r, .executed writes⟩ =>
      { table := putIdempotency setup.column server.table fault r (scopedKey setup r)
          (record writes).status (record writes).body
        threads := server.threads.set i ⟨r, .answered (sent (record writes).passed)⟩ }
    | _ => server

def Phase.answer : Phase → Option Answer
  | .passing => none
  | .running => none
  | .executed writes => some (sent (record writes).passed)
  | .answered answer => some answer
  | .replayed row => some ⟨row.record.statusCode, row.record.response⟩

def Phase.executes : Phase → Bool
  | .replayed _ => false
  | _ => true

variable (server : Server) (event : Event)

theorem step_cases :
    step setup server event = server ∨
    (∃ incoming fault r, event = .arrive incoming fault ∧ auth setup.csrfToken incoming = .ok r ∧
      step setup server event =
        { server with threads := server.threads ++ [⟨r, lookup setup server.table fault r⟩] }) ∨
    (∃ i writes r phase next, event = .handle i writes ∧ server.threads[i]? = some ⟨r, phase⟩ ∧
      (phase = .passing ∧ next = .answered (sent writes) ∨
        phase = .running ∧ next = .executed writes) ∧
      step setup server event = { server with threads := server.threads.set i ⟨r, next⟩ }) ∨
    (∃ i fault r writes, event = .store i fault ∧
      server.threads[i]? = some ⟨r, .executed writes⟩ ∧
      step setup server event =
        { table := putIdempotency setup.column server.table fault r (scopedKey setup r)
            (record writes).status (record writes).body
          threads := server.threads.set i ⟨r, .answered (sent (record writes).passed)⟩ }) := by
  cases event with
  | arrive incoming fault =>
    cases admitted : auth setup.csrfToken incoming with
    | error refusal => exact Or.inl (by simp [step, admitted])
    | ok r =>
      exact Or.inr (Or.inl ⟨incoming, fault, r, rfl, admitted, by simp [step, admitted]⟩)
  | handle i writes =>
    cases found : server.threads[i]? with
    | none => exact Or.inl (by simp [step, found])
    | some thread =>
      obtain ⟨r, phase⟩ := thread
      cases phase with
      | passing =>
        exact Or.inr (Or.inr (Or.inl
          ⟨i, writes, r, .passing, _, rfl, found, Or.inl ⟨rfl, rfl⟩, by simp [step, found]⟩))
      | running =>
        exact Or.inr (Or.inr (Or.inl
          ⟨i, writes, r, .running, _, rfl, found, Or.inr ⟨rfl, rfl⟩, by simp [step, found]⟩))
      | executed | answered | replayed => exact Or.inl (by simp [step, found])
  | store i fault =>
    cases found : server.threads[i]? with
    | none => exact Or.inl (by simp [step, found])
    | some thread =>
      obtain ⟨r, phase⟩ := thread
      cases phase with
      | executed writes =>
        exact Or.inr (Or.inr (Or.inr ⟨i, fault, r, writes, rfl, found, by simp [step, found]⟩))
      | passing | running | answered | replayed => exact Or.inl (by simp [step, found])

/-- Every request answered from a record had the principal, method and path of the one recorded. -/
def ReplaysOwn (server : Server) : Prop :=
  ∀ thread ∈ server.threads, ∀ row, thread.phase = .replayed row →
    row.origin.principal = thread.request.principal ∧ row.origin.method = thread.request.method ∧
      row.origin.path = thread.request.path

/-- A keyed request does not share its key with an earlier one of another principal or path. -/
def ownsKey (setup : Setup V) (server : Server) : Event → Bool
  | .arrive incoming _ =>
    match auth setup.csrfToken incoming with
    | .error _ => true
    | .ok r => server.threads.all (fun thread =>
        !r.keyed || !thread.request.keyed ||
        scopedKey setup thread.request ≠ scopedKey setup r ||
        (thread.request.principal = r.principal && thread.request.path = r.path))
  | _ => true

theorem method_eq_of_append {left right : String} (first : mutates left = true)
    (second : mutates right = true) {x y : String}
    (same : left ++ " " ++ x = right ++ " " ++ y) : left = right := by
  have chars := congrArg String.toList same
  simp only [mutates, Bool.or_eq_true, decide_eq_true_eq] at first second
  rcases first with ((rfl | rfl) | rfl) | rfl <;> rcases second with ((rfl | rfl) | rfl) | rfl <;>
    first
    | rfl
    | simp at chars

theorem method_eq_of_scopedKey {left right : Request} (first : left.keyed = true)
    (second : right.keyed = true) (same : scopedKey setup left = scopedKey setup right) :
    left.method = right.method := by
  simp only [Request.keyed, Bool.and_eq_true] at first second
  simp only [scopedKey, String.append_assoc] at same
  exact method_eq_of_append first.2 second.2 (by simpa only [String.append_assoc] using same)

/-- Every record is stored under the key of a keyed request that has begun. -/
structure Attributed (setup : Setup V) (server : Server) : Prop where
  rows : ∀ row ∈ server.table.rows, row.key = scopedKey setup row.origin ∧
    row.origin.keyed = true ∧ ∃ thread ∈ server.threads, thread.request = row.origin
  keyed : ∀ thread ∈ server.threads, ∀ writes,
    thread.phase = .running ∨ thread.phase = .executed writes → thread.request.keyed = true

theorem attributed_empty : Attributed setup Server.empty :=
  ⟨by simp [Server.empty, Sql.Table.empty], by simp [Server.empty]⟩

theorem mem_set_thread {threads : List Thread} {i : Nat} {new thread : Thread}
    (member : thread ∈ threads.set i new) : thread = new ∨ thread ∈ threads :=
  (List.mem_or_eq_of_mem_set member).symm

theorem request_mem_set {threads : List Thread} {i : Nat} {r : Request} {old new : Phase}
    (found : threads[i]? = some ⟨r, old⟩) {q : Request}
    (begun : ∃ thread ∈ threads, thread.request = q) :
    ∃ thread ∈ threads.set i ⟨r, new⟩, thread.request = q := by
  obtain ⟨thread, member, rfl⟩ := begun
  obtain ⟨j, at_j⟩ := List.mem_iff_getElem?.mp member
  by_cases same : i = j
  · subst same
    obtain rfl : ⟨r, old⟩ = thread := Option.some.inj (found.symm.trans at_j)
    obtain ⟨inside, -⟩ := List.getElem?_eq_some_iff.mp found
    exact ⟨⟨r, new⟩, List.mem_iff_getElem?.mpr ⟨i, by simp [inside]⟩, rfl⟩
  · exact ⟨thread, List.mem_iff_getElem?.mpr ⟨j, by rw [List.getElem?_set_ne same, at_j]⟩, rfl⟩

theorem attributed_step (attributed : Attributed setup server) :
    Attributed setup (step setup server event) := by
  rcases step_cases setup server event with same | ⟨incoming, fault, r, -, -, next⟩ |
    ⟨i, writes, r, phase, after, -, found, change, next⟩ | ⟨i, fault, r, writes, -, found, next⟩
  · rw [same]
    exact attributed
  · rw [next]
    refine ⟨?_, ?_⟩
    · intro row stored
      obtain ⟨key, keyed, thread, begun, same⟩ := attributed.rows row stored
      exact ⟨key, keyed, thread, List.mem_append_left _ begun, same⟩
    · intro thread begun writes phase
      rcases List.mem_append.mp begun with old | new
      · exact attributed.keyed thread old writes phase
      · obtain rfl := List.mem_singleton.mp new
        rcases lookup_cases setup server.table fault r with ⟨-, led⟩ | ⟨row, -, keyed, -, led⟩ |
          ⟨keyed, -, led⟩
        · simp [led] at phase
        · exact keyed
        · exact keyed
  · rw [next]
    refine ⟨?_, ?_⟩
    · intro row stored
      obtain ⟨key, keyed, begun⟩ := attributed.rows row stored
      exact ⟨key, keyed, request_mem_set found begun⟩
    · intro thread begun text phase
      rcases mem_set_thread begun with rfl | old
      · rcases change with ⟨rfl, rfl⟩ | ⟨rfl, rfl⟩
        · simp at phase
        · exact attributed.keyed ⟨r, .running⟩ (List.mem_of_getElem? found) text (Or.inl rfl)
      · exact attributed.keyed thread old text phase
  · rw [next]
    refine ⟨?_, ?_⟩
    · intro row stored
      rcases mem_putIdempotency stored with old | ⟨key, origin, -, -⟩
      · obtain ⟨key, keyed, begun⟩ := attributed.rows row old
        exact ⟨key, keyed, request_mem_set found begun⟩
      · rw [key, origin]
        have begun := List.mem_of_getElem? found
        exact ⟨rfl, attributed.keyed _ begun writes (Or.inr rfl),
          request_mem_set found ⟨_, begun, rfl⟩⟩
    · intro thread begun text phase
      rcases mem_set_thread begun with rfl | old
      · simp at phase
      · exact attributed.keyed thread old text phase

theorem replaysOwn_step (attributed : Attributed setup server) (own : ReplaysOwn server)
    (allowed : ownsKey setup server event = true) : ReplaysOwn (step setup server event) := by
  rcases step_cases setup server event with same | ⟨incoming, fault, r, rfl, admitted, next⟩ |
    ⟨i, writes, r, phase, after, -, found, change, next⟩ | ⟨i, fault, r, writes, -, found, next⟩
  · rw [same]
    exact own
  · rw [next]
    intro thread begun row phase
    rcases List.mem_append.mp begun with old | new
    · exact own thread old row phase
    · obtain rfl := List.mem_singleton.mp new
      rcases lookup_cases setup server.table fault r with
        ⟨-, led⟩ | ⟨found, stored, keyed, key, led⟩ | ⟨-, -, led⟩
      · simp [led] at phase
      · obtain rfl : found = row := by simpa [led] using phase
        obtain ⟨origin, originKeyed, earlier, began, same⟩ := attributed.rows found stored
        have shared : scopedKey setup found.origin = scopedKey setup r := origin.symm.trans key
        have checked : found.origin.principal = r.principal ∧ found.origin.path = r.path := by
          simp only [ownsKey, admitted, List.all_eq_true] at allowed
          have one := allowed earlier began
          rw [same] at one
          simpa [keyed, originKeyed, shared] using one
        exact ⟨checked.1, method_eq_of_scopedKey _ originKeyed keyed shared, checked.2⟩
      · simp [led] at phase
  · rw [next]
    intro thread begun row replayed
    rcases mem_set_thread begun with rfl | old
    · rcases change with ⟨-, rfl⟩ | ⟨-, rfl⟩ <;> simp at replayed
    · exact own thread old row replayed
  · rw [next]
    intro thread begun row replayed
    rcases mem_set_thread begun with rfl | old
    · simp at replayed
    · exact own thread old row replayed

/-- Where no keyed request shares its scoped key with another principal or path, what is replayed
was answered to the same principal for the same method and path. -/
theorem replays_own (setup : Setup V) (events : List Event)
    (guarded : Guarded (step setup) (fun server event => ownsKey setup server event = true)
      Server.empty events) :
    ReplaysOwn (run (step setup) Server.empty events) := by
  refine (run_invariant (step setup) _
    (fun server => Attributed setup server ∧ ReplaysOwn server) ?_ Server.empty events
    ⟨attributed_empty setup, by simp [ReplaysOwn, Server.empty]⟩ guarded).2
  rintro server event ⟨attributed, own⟩ allowed
  exact ⟨attributed_step _ _ _ attributed,
    replaysOwn_step setup server event attributed own allowed⟩

def exampleSetup : Setup String where
  csrfToken := "csrf"
  pattern := fun _ _ => "DELETE /projects/\x7bprojectId\x7d"
  column := ⟨some, some, fun _ _ cast => cast ▸ rfl⟩

def deleteProject (user path : String) : Incoming where
  user := user
  method := "DELETE"
  path := path
  csrf := "csrf"
  key := "k"
  withinRate := true
  perm := "project.delete"
  permGranted := true

def deleted : List Write := [.header statusOK, .body "\x7b\"status\":\"deleted\"\x7d"]

def repeatedDelete : List Event :=
  [.arrive (deleteProject "alice" "/projects/a") false, .handle 0 deleted, .store 0 false,
    .arrive (deleteProject "alice" "/projects/a") false]

theorem replays_own_repeated :
    Guarded (step exampleSetup) (fun server event => ownsKey exampleSetup server event = true)
      Server.empty repeatedDelete ∧
    ReplaysOwn (run (step exampleSetup) Server.empty repeatedDelete) := by
  have guarded : Guarded (step exampleSetup)
      (fun server event => ownsKey exampleSetup server event = true) Server.empty
      repeatedDelete := by decide +kernel
  exact ⟨guarded, replays_own _ _ guarded⟩

theorem replay_crosses_users :
    ¬ ReplaysOwn (run (step exampleSetup) Server.empty
      [.arrive (deleteProject "alice" "/projects/a") false, .handle 0 deleted, .store 0 false,
        .arrive (deleteProject "bob" "/projects/b") false]) := by
  intro own
  have replayed : ⟨⟨"bob", "DELETE", "/projects/b", "k"⟩, .replayed
      ⟨"DELETE DELETE /projects/\x7bprojectId\x7d k", ⟨200, "\x7b\"status\":\"deleted\"\x7d"⟩,
        ⟨"alice", "DELETE", "/projects/a", "k"⟩⟩⟩ ∈
      (run (step exampleSetup) Server.empty
        [.arrive (deleteProject "alice" "/projects/a") false, .handle 0 deleted, .store 0 false,
          .arrive (deleteProject "bob" "/projects/b") false]).threads := by decide +kernel
  exact absurd (own _ replayed _ rfl).1 (by decide)

theorem row_kept (setup : Setup V) (server : Server) (event : Event) {row : IdempotencyRow Request}
    (stored : row ∈ server.table.rows) : row ∈ (step setup server event).table.rows := by
  rcases step_cases setup server event with same | ⟨_, _, _, -, -, next⟩ |
    ⟨_, _, _, _, _, -, -, -, next⟩ | ⟨_, _, _, _, -, -, next⟩
  · rwa [same]
  · rwa [next]
  · rwa [next]
  · rw [next]
    unfold putIdempotency
    split
    · exact stored
    · split
      · exact stored
      · exact (Sql.Table.mem_insertIgnore _ _ _).mpr (Or.inl stored)

/-- A recorded answer is final: whatever runs later, requests with its key are answered by it. -/
theorem record_final (setup : Setup V) (server : Server) (row : IdempotencyRow Request)
    (stored : row ∈ server.table.rows) (events : List Event) (r : Request) (keyed : r.keyed = true)
    (same : scopedKey setup r = row.key) :
    lookup setup (run (step setup) server events).table false r = .replayed row := by
  have kept := run_preserved (step setup) (fun server => row ∈ server.table.rows)
    (fun server event => row_kept setup server event) server events stored
  have found := (Sql.Table.find_eq_some _ _ _).mpr ⟨kept, same.symm⟩
  simp [lookup, keyed, idempotencyRow, found]

theorem record_final_deleted :
    let server := run (step exampleSetup) Server.empty repeatedDelete
    ∃ row, lookup exampleSetup (run (step exampleSetup) server [.handle 0 [], .store 1 false]).table
      false ⟨"bob", "DELETE", "/projects/b", "k"⟩ = .replayed row :=
  ⟨_, record_final exampleSetup _ ⟨"DELETE DELETE /projects/\x7bprojectId\x7d k",
    ⟨200, "\x7b\"status\":\"deleted\"\x7d"⟩, ⟨"alice", "DELETE", "/projects/a", "k"⟩⟩
    (by decide +kernel) _ _ (by decide) (by decide)⟩

end Porter.Api.Idempotency
