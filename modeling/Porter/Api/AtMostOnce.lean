import Porter.Api.Idempotency

/-!
# At most one execution

Requests of one principal with one key, method and path are meant to run their handler once and to
share its answer.
-/
namespace Porter.Api.Idempotency

open Run Store

variable {V : Type} {setup : Setup V} {server : Server} {r : Request} {event : Event}

/-- The answer is that of an execution of the handler: the same status and JSON value. -/
def Executed (setup : Setup V) (r : Request) (server : Server) (answer : Answer) : Prop :=
  ∃ thread ∈ server.threads, thread.request = r ∧ thread.phase.executes = true ∧
    ∃ original, thread.phase.answer = some original ∧ answer.status = original.status ∧
      setup.column.value answer.body = setup.column.value original.body

def EnteredOnce (r : Request) (server : Server) : Prop :=
  ∀ (i j : Nat) (first second : Thread), server.threads[i]? = some first →
    server.threads[j]? = some second → first.request = r → second.request = r →
    first.phase.executes = true → second.phase.executes = true → i = j

/-- The handler is entered at most once, and whoever made the request is answered with that
execution. -/
structure AtMostOnce (setup : Setup V) (r : Request) (server : Server) : Prop where
  once : EnteredOnce r server
  answers : ∀ thread ∈ server.threads, thread.request = r → ∀ answer,
    thread.phase.answer = some answer → Executed setup r server answer

/-- The request looks up only if its handler was not entered or its record is there to be found, and
the body that is recorded is not empty. -/
def inTurn (setup : Setup V) (r : Request) (server : Server) : Event → Bool
  | .arrive incoming fault =>
    match auth setup.csrfToken incoming with
    | .error _ => true
    | .ok q => q ≠ r ||
        server.threads.all (fun thread => thread.request ≠ r || !thread.phase.executes) ||
        (r.keyed && (idempotencyRow server.table fault (scopedKey setup r)).isSome)
  | .handle _ _ => true
  | .store i _ =>
    match server.threads[i]? with
    | some ⟨q, .executed writes⟩ => q ≠ r || (record writes).body ≠ ""
    | _ => true

def Sole (setup : Setup V) (r : Request) (events : List Event) : Prop :=
  ∀ event ∈ events, ∀ incoming fault q, event = .arrive incoming fault →
    auth setup.csrfToken incoming = .ok q → scopedKey setup q = scopedKey setup r → q = r

theorem step_thread {j : Nat} {thread : Thread}
    (found : (step setup server event).threads[j]? = some thread) :
    (∃ old, server.threads[j]? = some old ∧ old.request = thread.request ∧
      old.phase.executes = thread.phase.executes) ∨
    (∃ incoming fault q, event = .arrive incoming fault ∧
      auth setup.csrfToken incoming = .ok q ∧ j = server.threads.length ∧
      thread = ⟨q, lookup setup server.table fault q⟩) := by
  -- A step that moves a thread on keeps its request and does not leave the handler's phases.
  have moved : ∀ i r old new, server.threads[i]? = some ⟨r, old⟩ → old.executes = new.executes →
      (server.threads.set i ⟨r, new⟩)[j]? = some thread →
      ∃ old, server.threads[j]? = some old ∧ old.request = thread.request ∧
        old.phase.executes = thread.phase.executes := by
    intro i r old new before same after
    by_cases here : i = j
    · subst here
      obtain ⟨inside, -⟩ := List.getElem?_eq_some_iff.mp before
      obtain rfl : ⟨r, new⟩ = thread := by simpa [inside] using after
      exact ⟨_, before, rfl, same⟩
    · exact ⟨thread, by rwa [List.getElem?_set_ne here] at after, rfl, rfl⟩
  rcases step_cases setup server event with same | ⟨incoming, fault, r, rfl, admitted, next⟩ |
    ⟨i, writes, r, phase, after, -, before, change, next⟩ | ⟨i, fault, r, writes, -, before, next⟩
  · rw [same] at found
    exact Or.inl ⟨thread, found, rfl, rfl⟩
  · rw [next] at found
    by_cases inside : j < server.threads.length
    · rw [List.getElem?_append_left inside] at found
      exact Or.inl ⟨thread, found, rfl, rfl⟩
    · have last : j = server.threads.length := by
        have bound := (List.getElem?_eq_some_iff.mp found).1
        simp only [List.length_append, List.length_singleton] at bound
        omega
      subst last
      exact Or.inr ⟨incoming, fault, r, rfl, admitted, rfl, by simpa using found.symm⟩
  · rw [next] at found
    refine Or.inl (moved i r phase after before ?_ found)
    rcases change with ⟨rfl, rfl⟩ | ⟨rfl, rfl⟩ <;> rfl
  · rw [next] at found
    exact Or.inl (moved i r _ (.answered _) before rfl found)

theorem executed_step {answer : Answer} (event : Event)
    (executed : Executed setup r server answer) :
    Executed setup r (step setup server event) answer := by
  obtain ⟨thread, begun, same, executes, original, given, status, body⟩ := executed
  obtain ⟨j, at_j⟩ := List.mem_iff_getElem?.mp begun
  suffices kept : ∃ later : Thread, (step setup server event).threads[j]? = some later ∧
      later.request = thread.request ∧ later.phase.executes = true ∧
      later.phase.answer = some original by
    obtain ⟨later, found, request, entered, answered⟩ := kept
    exact ⟨later, List.mem_of_getElem? found, request.trans same, entered, original, answered,
      status, body⟩
  rcases step_cases _ _ _ with unchanged | ⟨incoming, fault, q, -, -, next⟩ |
    ⟨i, writes, q, phase, after, -, before, change, next⟩ | ⟨i, fault, q, writes, -, before, next⟩
  · exact ⟨thread, by rw [unchanged, at_j], rfl, executes, given⟩
  · have inside := (List.getElem?_eq_some_iff.mp at_j).1
    exact ⟨thread, by rw [next, List.getElem?_append_left inside, at_j], rfl, executes, given⟩
  · have other : i ≠ j := by
      rintro rfl
      obtain rfl : ⟨q, phase⟩ = thread := Option.some.inj (before.symm.trans at_j)
      rcases change with ⟨rfl, -⟩ | ⟨rfl, -⟩ <;> simp [Phase.answer] at given
    exact ⟨thread, by rw [next, List.getElem?_set_ne other, at_j], rfl, executes, given⟩
  · by_cases here : i = j
    · subst here
      obtain rfl : ⟨q, .executed writes⟩ = thread := Option.some.inj (before.symm.trans at_j)
      have inside := (List.getElem?_eq_some_iff.mp before).1
      exact ⟨⟨q, .answered (sent (record writes).passed)⟩, by rw [next]; simp [inside], rfl, rfl,
        given⟩
    · exact ⟨thread, by rw [next, List.getElem?_set_ne here, at_j], rfl, executes, given⟩

/-- What holds along a history: one execution at most, whose answers are recorded and replayed,
under a key of its own. -/
structure Kept (setup : Setup V) (r : Request) (server : Server) : Prop where
  once : EnteredOnce r server
  rows : ∀ row ∈ server.table.rows, row.key = scopedKey setup r →
    Executed setup r server ⟨row.record.statusCode, row.record.response⟩
  replays : ∀ thread ∈ server.threads, thread.request = r → ∀ row, thread.phase = .replayed row →
    Executed setup r server ⟨row.record.statusCode, row.record.response⟩
  sole : ∀ thread ∈ server.threads, scopedKey setup thread.request = scopedKey setup r →
    thread.request = r

theorem kept_empty (setup : Setup V) (r : Request) : Kept setup r Server.empty :=
  ⟨by simp [EnteredOnce, Server.empty], by simp [Server.empty, Sql.Table.empty],
    by simp [Server.empty], by simp [Server.empty]⟩

theorem not_executes_of_inTurn {incoming : Incoming} {fault : Bool}
    (admitted : auth setup.csrfToken incoming = .ok r)
    (allowed : inTurn setup r server (.arrive incoming fault) = true) {thread : Thread}
    (begun : thread ∈ server.threads) (same : thread.request = r)
    (executes : thread.phase.executes = true) :
    (lookup setup server.table fault r).executes = false := by
  simp only [inTurn, admitted, ne_eq, not_true_eq_false, decide_false, Bool.false_or,
    Bool.or_eq_true, List.all_eq_true, Bool.and_eq_true] at allowed
  rcases allowed with none | ⟨keyed, stored⟩
  · simpa [same, executes] using none thread begun
  · obtain ⟨row, found⟩ := Option.isSome_iff_exists.mp stored
    simp [lookup, keyed, found, Phase.executes]

variable (kept : Kept setup r server)

include kept

theorem kept_once (allowed : inTurn setup r server event = true) :
    EnteredOnce r (step setup server event) := by
  intro i j first second atI atJ mine yours enters entersToo
  rcases step_thread atI with ⟨old, before, request, phase⟩ |
    ⟨incoming, fault, q, rfl, admitted, rfl, rfl⟩ <;>
  rcases step_thread atJ with ⟨older, earlier, asked, place⟩ |
    ⟨incoming', fault', q', arrival, admitted', last, rfl⟩
  · exact kept.once i j old older before earlier (request.trans mine) (asked.trans yours)
      (phase.trans enters) (place.trans entersToo)
  · subst arrival
    obtain rfl : q' = r := yours
    have stays := not_executes_of_inTurn admitted' allowed (List.mem_of_getElem? before)
      (request.trans mine) (phase.trans enters)
    simp [stays] at entersToo
  · obtain rfl : q = r := mine
    have stays := not_executes_of_inTurn admitted allowed (List.mem_of_getElem? earlier)
      (asked.trans yours) (place.trans entersToo)
    simp [stays] at enters
  · exact last.symm

theorem kept_rows (allowed : inTurn setup r server event = true) :
    ∀ row ∈ (step setup server event).table.rows, row.key = scopedKey setup r →
      Executed setup r (step setup server event)
        ⟨row.record.statusCode, row.record.response⟩ := by
  intro row stored key
  by_cases old : row ∈ server.table.rows
  · exact executed_step event (kept.rows row old key)
  · rcases step_cases setup server event with same | ⟨incoming, fault, q, -, -, next⟩ |
      ⟨i, writes, q, phase, after, -, before, change, next⟩ |
      ⟨i, fault, q, writes, rfl, before, next⟩
    · exact absurd (same ▸ stored) old
    · exact absurd (by simpa [next] using stored) old
    · exact absurd (by simpa [next] using stored) old
    · rw [next] at stored ⊢
      rcases mem_putIdempotency stored with earlier | ⟨named, -, status, value⟩
      · exact absurd earlier old
      · obtain rfl : q = r := kept.sole _ (List.mem_of_getElem? before) (named.symm.trans key)
        have inside := (List.getElem?_eq_some_iff.mp before).1
        have written : (record writes).body ≠ "" := by
          simpa [inTurn, before] using allowed
        refine ⟨⟨q, .answered (sent (record writes).passed)⟩,
          List.mem_iff_getElem?.mpr ⟨i, by simp [inside]⟩, rfl, rfl, _, rfl, ?_, ?_⟩
        · rw [(record_faithful writes).sent, status]
        · rw [(record_faithful writes).sent, value, storedResponse, if_neg written]

theorem kept_replays :
    ∀ thread ∈ (step setup server event).threads, thread.request = r → ∀ row,
      thread.phase = .replayed row →
      Executed setup r (step setup server event)
        ⟨row.record.statusCode, row.record.response⟩ := by
  intro thread begun request row phase
  rcases step_cases setup server event with same | ⟨incoming, fault, q, -, -, next⟩ |
    ⟨i, writes, q, earlier, after, -, before, change, next⟩ | ⟨i, fault, q, writes, -, before, next⟩
  · exact executed_step event (kept.replays thread (same ▸ begun) request row phase)
  · refine executed_step event ?_
    rw [next] at begun
    rcases List.mem_append.mp begun with old | new
    · exact kept.replays thread old request row phase
    · obtain rfl := List.mem_singleton.mp new
      rcases lookup_cases setup server.table fault q with ⟨-, led⟩ | ⟨found, stored, -, key, led⟩ |
        ⟨-, -, led⟩
      · simp [led] at phase
      · obtain rfl : found = row := by simpa [led] using phase
        exact kept.rows found stored (key.trans (congrArg _ request))
      · simp [led] at phase
  · refine executed_step event ?_
    rw [next] at begun
    rcases mem_set_thread begun with rfl | old
    · rcases change with ⟨-, rfl⟩ | ⟨-, rfl⟩ <;> simp at phase
    · exact kept.replays thread old request row phase
  · refine executed_step event ?_
    rw [next] at begun
    rcases mem_set_thread begun with rfl | old
    · simp at phase
    · exact kept.replays thread old request row phase

theorem kept_sole
    (sole : ∀ incoming fault q, event = .arrive incoming fault →
      auth setup.csrfToken incoming = .ok q → scopedKey setup q = scopedKey setup r → q = r) :
    ∀ thread ∈ (step setup server event).threads,
      scopedKey setup thread.request = scopedKey setup r → thread.request = r := by
  intro thread begun key
  obtain ⟨j, found⟩ := List.mem_iff_getElem?.mp begun
  rcases step_thread found with ⟨old, before, request, -⟩ |
    ⟨incoming, fault, q, arrival, admitted, -, rfl⟩
  · rw [← request] at key ⊢
    exact kept.sole old (List.mem_of_getElem? before) key
  · exact sole incoming fault q arrival admitted key

theorem Kept.atMostOnce : AtMostOnce setup r server := by
  refine ⟨kept.once, ?_⟩
  intro thread begun request answer given
  cases phase : thread.phase with
  | replayed row =>
    obtain rfl : ⟨row.record.statusCode, row.record.response⟩ = answer := by
      simpa [phase, Phase.answer] using given
    exact kept.replays thread begun request row phase
  | passing | running | executed | answered =>
    exact ⟨thread, begun, request, by simp [phase, Phase.executes], answer, given, rfl, rfl⟩

omit kept

/-- If lookups and records of a request come in turn, its handler is entered at most once and
everybody who made it gets the answer of that execution. -/
theorem atMostOnce_of_inTurn (setup : Setup V) (r : Request) (events : List Event)
    (sole : Sole setup r events)
    (guarded : Guarded (step setup) (fun server event => inTurn setup r server event = true)
      Server.empty events) :
    AtMostOnce setup r (run (step setup) Server.empty events) := by
  refine Kept.atMostOnce ?_
  refine run_invariant (step setup)
    (fun server event => inTurn setup r server event = true ∧
      ∀ incoming fault q, event = .arrive incoming fault →
        auth setup.csrfToken incoming = .ok q → scopedKey setup q = scopedKey setup r → q = r)
    (Kept setup r) ?_ Server.empty events (kept_empty setup r) ?_
  · rintro server event kept ⟨allowed, alone⟩
    exact ⟨kept_once kept allowed, kept_rows kept allowed, kept_replays kept,
      kept_sole kept alone⟩
  · rw [guarded_iff] at guarded ⊢
    intro before event after split
    exact ⟨guarded before event after split, sole event (by simp [split])⟩

def deleteRequest : Request := ⟨"alice", "DELETE", "/projects/a", "k"⟩

theorem atMostOnce_of_inTurn_repeated :
    AtMostOnce exampleSetup deleteRequest
      (run (step exampleSetup) Server.empty repeatedDelete) := by
  refine atMostOnce_of_inTurn _ _ _ ?_ (by decide +kernel)
  intro event listed incoming fault q arrival admitted _
  simp only [repeatedDelete, List.mem_cons, List.not_mem_nil, or_false] at listed
  subst arrival
  have same : auth exampleSetup.csrfToken (deleteProject "alice" "/projects/a") =
      .ok deleteRequest := by decide +kernel
  rcases listed with listed | listed | listed | listed
  · obtain ⟨rfl, -⟩ := Event.arrive.inj listed
    exact Except.ok.inj (admitted.symm.trans same)
  · cases listed
  · cases listed
  · obtain ⟨rfl, -⟩ := Event.arrive.inj listed
    exact Except.ok.inj (admitted.symm.trans same)

theorem concurrent_requests_execute_twice :
    ¬ AtMostOnce exampleSetup deleteRequest (run (step exampleSetup) Server.empty
      [.arrive (deleteProject "alice" "/projects/a") false,
        .arrive (deleteProject "alice" "/projects/a") false,
        .handle 0 deleted, .handle 1 deleted, .store 0 false, .store 1 false]) := by
  intro property
  have threads : (run (step exampleSetup) Server.empty
      [.arrive (deleteProject "alice" "/projects/a") false,
        .arrive (deleteProject "alice" "/projects/a") false,
        .handle 0 deleted, .handle 1 deleted, .store 0 false, .store 1 false]).threads =
      [⟨deleteRequest, .answered (sent deleted)⟩, ⟨deleteRequest, .answered (sent deleted)⟩] := by
    decide +kernel
  have same := property.once 0 1 _ _ (by rw [threads]; rfl) (by rw [threads]; rfl) rfl rfl rfl rfl
  cases same

end Porter.Api.Idempotency
