import Porter.Api.ProjectEnv
import Porter.Store.ProjectCache

/-!
# Concurrent patches of a project

`PATCH /projects/{id}` reads the project, compares its tag with `If-Match` and writes it back.
-/
namespace Porter.Api.Projects.Patches

open Run Sql Store Store.Cached

structure Patch where
  id : String
  ifMatch : String
  body : Except String ProjectPatch
  run : ProjectRun

def patchRow (run : ProjectRun) (patch : ProjectPatch) (doc : Project EnvMap) : ProjectRow :=
  let (s, proj) := (Session.start ProjectDb.empty []).load doc
  let (s, proj) := mergeEnv run s (patch.apply proj) patch.env
  s.row proj

inductive Phase where
  | reading (call : Call (Project EnvMap))
  | writing (doc : Project EnvMap) (row : ProjectRow) (call : Call (Project EnvMap))
  | answered (response : Response ProjectReply)

structure PatchCall where
  patch : Patch
  phase : Phase

def settle (etagOf : Project EnvMap → String) (patch : Patch) (found : Option (Project EnvMap)) :
    Phase :=
  match found with
  | none => .answered projectNotFound
  | some doc =>
    if !checkIfMatch patch.ifMatch (etagOf doc) then
      .answered (.error statusPreconditionFailed
        "resource changed (ETag mismatch; refetch and retry)")
    else
      match patch.body with
      | .error err => .answered (badRequest err)
      | .ok changes =>
        .writing doc (patchRow patch.run changes doc)
          (.invalidate (patchRow patch.run changes doc).doc.id
            (patchRow patch.run changes doc).doc)

def afterRead (etagOf : Project EnvMap → String) (patch : Patch) (call : Call (Project EnvMap)) :
    Phase :=
  match call with
  | .got _ _ cell => settle etagOf patch (cell.bind Cell.doc)
  | next => .reading next

def afterWrite (doc : Project EnvMap) (row : ProjectRow) (call : Call (Project EnvMap)) : Phase :=
  match call with
  | .wrote => .answered (.json statusOK (.project row.doc))
  | next => .writing doc row next

def act (etagOf : Project EnvMap → String) (store : CachedStore (Project EnvMap))
    (request : PatchCall) (ok : Bool) : CachedStore (Project EnvMap) × PatchCall :=
  match request.phase with
  | .reading call =>
    ((Cached.act store call ok).1,
      { request with phase := afterRead etagOf request.patch (Cached.act store call ok).2 })
  | .writing doc row call =>
    ((Cached.act store call ok).1,
      { request with phase := afterWrite doc row (Cached.act store call ok).2 })
  | .answered _ => (store, request)

def begin (store : CachedStore (Project EnvMap)) (patch : Patch) : PatchCall :=
  ⟨patch, .reading (Cached.begin store (.get patch.id))⟩

def system (etagOf : Project EnvMap → String) :
    System (CachedStore (Project EnvMap)) PatchCall Patch Bool String :=
  ⟨begin, act etagOf, expire⟩

def viewOf (db : ProjectDb) : CachedStore (Project EnvMap) :=
  ⟨fun id => ⟨0, getProject db false id⟩, fun _ => none, 0⟩

def aloneEvents (patch : Patch) : List (Event Patch Bool String) :=
  .begin patch :: List.replicate 5 (.act 0 true)

theorem patchRow_eq (db : ProjectDb) (run : ProjectRun) (changes : ProjectPatch)
    (doc : Project EnvMap) :
    let loaded := (Session.start db []).load doc
    let merged := mergeEnv run loaded.1 (changes.apply loaded.2) changes.env
    merged.1.row merged.2 = patchRow run changes doc ∧
      (merged.1.put run merged.2).db =
        putProject db (run.write 0) (patchRow run changes doc) := by
  unfold patchRow Session.load
  cases doc.env with
  | none | some =>
    cases changes.env with
    | none | some => exact ⟨rfl, rfl⟩

theorem getProject_putProject (db : ProjectDb) (row : ProjectRow)
    (admitted : refusesProject db row = false) (id : String) :
    getProject (putProject db none row) false id =
      (Function.update (viewOf db).rows row.doc.id ⟨1, some row.doc⟩ id).doc := by
  have stored : (putProject db none row).projects =
      db.projects.upsert row row.overwrite row.overwrite_id := by
    unfold putProject
    rw [admitted]
    rfl
  unfold getProject
  rw [stored]
  by_cases same : id = row.doc.id
  · rw [same, Function.update_self]
    exact congrArg (Option.map ProjectRow.doc)
      (Table.find_upsert_assigned _ _ _ _ row.overwrite_eq)
  · rw [Function.update_of_ne same]
    exact congrArg (Option.map ProjectRow.doc) (Table.find_upsert_of_ne _ _ _ _ id same)

theorem alone (etagOf : Project EnvMap → String) (db : ProjectDb) (patch : Patch)
    (reads : patch.run.getFails = false) (reaches : patch.run.write 0 = none)
    (accepted : ∀ doc row call,
      settle etagOf patch (getProject db false patch.id) = .writing doc row call →
        refusesProject db row = false) :
    let ran := run (system etagOf).step ⟨viewOf db, []⟩ (aloneEvents patch)
    let handled := handlePatchProject etagOf patch.run (Session.start db []) patch.id
      patch.ifMatch patch.body
    ran.calls = [⟨patch, .answered handled.2⟩] ∧
      ∀ id, (ran.shared.rows id).doc = getProject handled.1.db false id := by
  have started : (Session.start db []).db = db := rfl
  have begun : (system etagOf).step ⟨viewOf db, []⟩ (.begin patch) =
      ⟨viewOf db, [⟨patch, .reading (.lookup patch.id 0)⟩]⟩ := rfl
  have step : ∀ store request, (system etagOf).step ⟨store, [request]⟩ (.act 0 true) =
      ⟨(act etagOf store request true).1, [(act etagOf store request true).2]⟩ := fun _ _ => rfl
  simp only [aloneEvents, run_cons, begun, List.replicate, step]
  unfold handlePatchProject
  rw [reads, started]
  cases found : getProject db false patch.id with
  | none => simp [act, Cached.act, viewOf, afterRead, found, settle, run, started]
  | some doc =>
    cases tagged : checkIfMatch patch.ifMatch (etagOf doc) with
    | false => simp [act, Cached.act, viewOf, afterRead, found, settle, run, tagged, started]
    | true =>
      cases body : patch.body with
      | error err =>
        simp [act, Cached.act, viewOf, afterRead, found, settle, run, tagged, body, started]
      | ok changes =>
        obtain ⟨row, put⟩ := patchRow_eq db patch.run changes doc
        have admitted := accepted doc (patchRow patch.run changes doc) _ (by
          simp only [found, settle, tagged, body]
          rfl)
        simp [act, Cached.act, viewOf, afterRead, afterWrite, found, settle, run, tagged, body, row]
        intro id
        rw [put, reaches]
        exact (getProject_putProject db _ admitted id).symm

def PatchCall.succeeded (request : PatchCall) : Bool :=
  match request.phase with
  | .answered response => response.succeeded
  | _ => false

variable (pool : Pool (CachedStore (Project EnvMap)) PatchCall)

def AtMostOne : Prop :=
  ∀ (i j : Nat) (first second : PatchCall), pool.calls[i]? = some first →
    pool.calls[j]? = some second → first.succeeded = true → second.succeeded = true → i = j

structure Changes (etagOf : Project EnvMap → String) (tag : String) (patch : Patch) : Prop where
  ifMatch : patch.ifMatch = tag
  changes : ∀ doc changes, etagOf doc = tag → patch.body = .ok changes →
    (patchRow patch.run changes doc).doc ≠ doc

def Unique (etagOf : Project EnvMap → String) (tag : String) : Prop :=
  ∀ doc other, etagOf doc = tag → etagOf other = tag → doc = other

variable (event : Event Patch Bool String)

/-- Every `PutProject` takes effect and finds the document that its request has read. -/
def Unchanged : Prop :=
  ∀ index ok patch doc row id written, event = .act index ok →
    pool.calls[index]? = some ⟨patch, .writing doc row (.write id written)⟩ →
      ok = true ∧ (pool.shared.rows id).doc = some doc

deriving instance DecidableEq for Project

def unchanged : Bool :=
  match event with
  | .act index ok =>
    match pool.calls[index]? with
    | some ⟨_, .writing doc _ (.write id _)⟩ => ok && decide ((pool.shared.rows id).doc = some doc)
    | _ => true
  | _ => true

theorem unchanged_eq_true : unchanged pool event = true ↔ Unchanged pool event := by
  unfold unchanged
  split
  · rename_i index ok
    split
    · rename_i patch doc row id written present
      simp only [Bool.and_eq_true, decide_eq_true_eq]
      constructor
      · intro holds _ _ _ _ _ _ _ same found
        cases same
        rw [present] at found
        cases found
        exact holds
      · intro holds
        exact holds index ok patch doc row id written rfl present
    · rename_i other
      refine ⟨fun _ => ?_, fun _ => rfl⟩
      intro _ _ patch doc row id written same found
      cases same
      exact absurd found (other patch doc row id written)
  · rename_i other
    refine ⟨fun _ => ?_, fun _ => rfl⟩
    intro index ok _ _ _ _ _ same
    exact absurd same (other index ok)

instance (pool : Pool (CachedStore (Project EnvMap)) PatchCall)
    (event : Event Patch Bool String) : Decidable (Unchanged pool event) :=
  decidable_of_iff (unchanged pool event = true) (unchanged_eq_true pool event)

theorem settle_cases (etagOf : Project EnvMap → String) (patch : Patch)
    (found : Option (Project EnvMap)) :
    (∃ response, settle etagOf patch found = .answered response ∧ response.succeeded = false) ∨
      ∃ doc changes, found = some doc ∧ checkIfMatch patch.ifMatch (etagOf doc) = true ∧
        patch.body = .ok changes ∧ settle etagOf patch found =
          .writing doc (patchRow patch.run changes doc)
            (.invalidate (patchRow patch.run changes doc).doc.id
              (patchRow patch.run changes doc).doc) := by
  unfold settle
  cases found with
  | none => exact Or.inl ⟨_, rfl, rfl⟩
  | some doc =>
    cases checked : checkIfMatch patch.ifMatch (etagOf doc) with
    | false =>
      exact Or.inl ⟨.error statusPreconditionFailed
        "resource changed (ETag mismatch; refetch and retry)", by simp [checked], rfl⟩
    | true =>
      simp only [checked, Bool.not_true, Bool.false_eq_true, if_false]
      cases body : patch.body with
      | error err => exact Or.inl ⟨_, rfl, rfl⟩
      | ok changes => exact Or.inr ⟨doc, changes, rfl, checked, rfl, rfl⟩

@[simp] theorem id_patchRow (run : ProjectRun) (changes : ProjectPatch) (doc : Project EnvMap) :
    (patchRow run changes doc).doc.id = doc.id := by
  unfold patchRow Session.load
  cases doc.env with
  | none | some =>
    cases changes.env with
    | none | some => rfl

variable {pool : Pool (CachedStore (Project EnvMap)) PatchCall}

section OneTag

variable (etagOf : Project EnvMap → String) (tag : String)

inductive Reached (store : CachedStore (Project EnvMap)) : Phase → Prop where
  | lookup (id : String) (floor : Nat) : Reached store (.reading (.lookup id floor))
  | load (id : String) (floor : Nat) : Reached store (.reading (.load id floor))
  | fill (id : String) (floor : Nat) (cell : Cell (Project EnvMap)) :
      Reached store (.reading (.fill id floor cell))
  | invalidate (doc : Project EnvMap) (row : ProjectRow) (tagged : etagOf doc = tag)
      (changed : row.doc ≠ doc) : Reached store (.writing doc row (.invalidate doc.id row.doc))
  | write (doc : Project EnvMap) (row : ProjectRow) (tagged : etagOf doc = tag)
      (changed : row.doc ≠ doc) : Reached store (.writing doc row (.write doc.id (some row.doc)))
  | failed (response : Response ProjectReply) (unsuccessful : response.succeeded = false) :
      Reached store (.answered response)
  | won (response : Response ProjectReply) (doc : Project EnvMap) (tagged : etagOf doc = tag)
      (gone : (store.rows doc.id).doc ≠ some doc) : Reached store (.answered response)

structure Known (store : CachedStore (Project EnvMap)) (request : PatchCall) : Prop where
  changes : Changes etagOf tag request.patch
  reached : Reached etagOf tag store request.phase

variable {etagOf tag}

theorem Reached.mono {before after : CachedStore (Project EnvMap)} {phase : Phase}
    (reached : Reached etagOf tag before phase)
    (stays : ∀ response doc, phase = .answered response → etagOf doc = tag →
      (before.rows doc.id).doc ≠ some doc → (after.rows doc.id).doc ≠ some doc) :
    Reached etagOf tag after phase := by
  cases reached with
  | lookup id floor => exact .lookup id floor
  | load id floor => exact .load id floor
  | fill id floor cell => exact .fill id floor cell
  | invalidate doc row tagged changed => exact .invalidate doc row tagged changed
  | write doc row tagged changed => exact .write doc row tagged changed
  | failed response unsuccessful => exact .failed response unsuccessful
  | won response doc tagged gone => exact .won response doc tagged (stays _ doc rfl tagged gone)

variable {request : PatchCall}

theorem Known.of_rows {before after : CachedStore (Project EnvMap)}
    (known : Known etagOf tag before request) (same : after.rows = before.rows) :
    Known etagOf tag after request := by
  refine ⟨known.changes, known.reached.mono ?_⟩
  intro _ doc _ _ gone
  rw [same]
  exact gone

theorem known_settle {patch : Patch} (store : CachedStore (Project EnvMap))
    (found : Option (Project EnvMap)) (tagged : tag ≠ "" ∧ tag ≠ "*")
    (changes : Changes etagOf tag patch) :
    Reached etagOf tag store (settle etagOf patch found) ∧
      PatchCall.succeeded ⟨patch, settle etagOf patch found⟩ = false := by
  rcases settle_cases etagOf patch found with ⟨response, same, unsuccessful⟩ |
    ⟨doc, edits, _, checked, body, same⟩
  · rw [same]
    exact ⟨.failed response unsuccessful, unsuccessful⟩
  · have matching : etagOf doc = tag := by
      simp only [checkIfMatch, changes.ifMatch, tagged.1, tagged.2, decide_false, Bool.false_or,
        decide_eq_true_eq] at checked
      exact checked
    rw [same, id_patchRow]
    exact ⟨.invalidate doc _ matching (changes.changes doc edits matching body), rfl⟩

variable {store : CachedStore (Project EnvMap)} {ok : Bool}

theorem known_afterRead {patch : Patch} {next : CachedStore (Project EnvMap)}
    {call after : Call (Project EnvMap)} (effect : Effect store call ok next after)
    (reads : Reached etagOf tag store (.reading call)) (tagged : tag ≠ "" ∧ tag ≠ "*")
    (changes : Changes etagOf tag patch) :
    next.rows = store.rows ∧ Reached etagOf tag next (afterRead etagOf patch after) ∧
      PatchCall.succeeded ⟨patch, afterRead etagOf patch after⟩ = false := by
  have settled := fun found => known_settle next found tagged changes
  cases effect with
  | hit | absent | filled | unfilled => exact ⟨rfl, settled _⟩
  | miss id floor ok => exact ⟨rfl, .load id floor, rfl⟩
  | error id floor => exact ⟨rfl, settled none⟩
  | loaded id floor => exact ⟨rfl, .fill id floor _, rfl⟩
  | returned | invalidated | valid | written | refused | done => cases reads

structure OneWinner (etagOf : Project EnvMap → String) (tag : String)
    (pool : Pool (CachedStore (Project EnvMap)) PatchCall) : Prop where
  known : System.Holds (fun _ => True) (Known etagOf tag) pool
  atMostOne : AtMostOne pool

theorem OneWinner.act (holds : OneWinner etagOf tag pool) {index : Nat}
    (kept : ∀ request, pool.calls[index]? = some request →
      Known etagOf tag (Patches.act etagOf pool.shared request ok).1
        (Patches.act etagOf pool.shared request ok).2 ∧
      (∀ (i : Nat) (other : PatchCall), i ≠ index → pool.calls[i]? = some other →
        Known etagOf tag (Patches.act etagOf pool.shared request ok).1 other) ∧
      ((Patches.act etagOf pool.shared request ok).2.succeeded = true →
        ∀ (i : Nat) (other : PatchCall), i ≠ index → pool.calls[i]? = some other →
          other.succeeded = false)) :
    OneWinner etagOf tag ((system etagOf).step pool (.act index ok)) := by
  constructor
  · apply holds.known.act
    intro request present
    have ⟨self, others, _⟩ := kept request present
    exact ⟨trivial, self, others⟩
  · cases present : pool.calls[index]? with
    | none =>
      rw [System.step_act_of_none _ present]
      exact holds.atMostOne
    | some request =>
      have ⟨_, _, alone⟩ := kept request present
      have here : ((system etagOf).step pool (.act index ok)).calls[index]? =
          some (Patches.act etagOf pool.shared request ok).2 :=
        System.getElem?_step_act (system etagOf) present
      -- A success elsewhere rules out one at the index.
      have only : ∀ (i : Nat) (first second : PatchCall), i ≠ index →
          ((system etagOf).step pool (.act index ok)).calls[i]? = some first →
          ((system etagOf).step pool (.act index ok)).calls[index]? = some second →
          first.succeeded = true → second.succeeded = true → False := by
        intro i first second apart firstAt secondAt firstWon secondWon
        rw [System.getElem?_step_act_of_ne _ pool ok apart] at firstAt
        rw [here] at secondAt
        rw [← Option.some.inj secondAt] at secondWon
        rw [alone secondWon i first apart firstAt] at firstWon
        cases firstWon
      intro i j first second firstAt secondAt firstWon secondWon
      by_cases atFirst : i = index
      · by_cases atSecond : j = index
        · rw [atFirst, atSecond]
        · rw [atFirst] at firstAt
          exact (only j second first atSecond secondAt firstAt secondWon firstWon).elim
      · by_cases atSecond : j = index
        · rw [atSecond] at secondAt
          exact (only i first second atFirst firstAt secondAt firstWon secondWon).elim
        · rw [System.getElem?_step_act_of_ne _ pool ok atFirst] at firstAt
          rw [System.getElem?_step_act_of_ne _ pool ok atSecond] at secondAt
          exact holds.atMostOne i j first second firstAt secondAt firstWon secondWon

variable (unique : Unique etagOf tag)

include unique

theorem unsuccessful_of_stored {doc : Project EnvMap} (tagged : etagOf doc = tag)
    (stored : (store.rows doc.id).doc = some doc) (known : Known etagOf tag store request) :
    request.succeeded = false := by
  have ⟨patch, phase⟩ := request
  have reached := known.reached
  cases reached with
  | lookup | load | fill | invalidate | write => rfl
  | failed response unsuccessful => exact unsuccessful
  | won response old same gone =>
    have equal : old = doc := unique old doc same tagged
    rw [equal] at gone
    exact absurd stored gone

theorem known_of_stored {doc : Project EnvMap} (tagged : etagOf doc = tag)
    (stored : (store.rows doc.id).doc = some doc) (next : CachedStore (Project EnvMap))
    (known : Known etagOf tag store request) : Known etagOf tag next request := by
  refine ⟨known.changes, known.reached.mono ?_⟩
  intro response old _ same gone
  have equal : old = doc := unique old doc same tagged
  rw [equal] at gone
  exact absurd stored gone

theorem oneWinner_act (tagged : tag ≠ "" ∧ tag ≠ "*") (holds : OneWinner etagOf tag pool)
    {index : Nat} (guard : Unchanged pool (.act index ok)) :
    OneWinner etagOf tag ((system etagOf).step pool (.act index ok)) := by
  apply holds.act
  intro request present
  have known := holds.known.calls index request present
  have others : ∀ next : CachedStore (Project EnvMap), next.rows = pool.shared.rows →
      ∀ (i : Nat) (other : PatchCall), i ≠ index → pool.calls[i]? = some other →
        Known etagOf tag next other :=
    fun next same i other _ found => (holds.known.calls i other found).of_rows same
  have ⟨patch, phase⟩ := request
  have changes : Changes etagOf tag patch := known.changes
  cases phase with
  | reading call =>
    have effect := act_effect pool.shared call ok
    have ⟨same, reached, unsuccessful⟩ := known_afterRead effect known.reached tagged changes
    refine ⟨⟨changes, reached⟩, others _ same, ?_⟩
    intro won
    cases won.symm.trans unsuccessful
  | writing doc row call =>
    cases known.reached with
    | invalidate _ _ same changed =>
      have rows : (Cached.act pool.shared (.invalidate doc.id row.doc) ok).1.rows =
          pool.shared.rows := by
        cases ok <;> rfl
      refine ⟨⟨changes, .write doc row same changed⟩, others _ rows, ?_⟩
      intro won
      cases won
    | write _ _ same changed =>
      have ⟨reaches, stored⟩ := guard index ok patch doc row _ _ rfl present
      rw [reaches]
      refine ⟨⟨changes, .won _ doc same ?_⟩, ?_, ?_⟩
      · show (Function.update pool.shared.rows doc.id _ doc.id).doc ≠ some doc
        rw [Function.update_self]
        intro equal
        exact changed (Option.some.inj equal)
      · intro i other _ found
        exact known_of_stored unique same stored _ (holds.known.calls i other found)
      · intro _ i other _ found
        exact unsuccessful_of_stored unique same stored (holds.known.calls i other found)
  | answered response =>
    refine ⟨known, others _ rfl, ?_⟩
    intro won i other apart found
    cases lost : other.succeeded with
    | false => rfl
    | true => exact absurd (holds.atMostOne i index other _ found present lost won) apart

theorem oneWinner_step (tagged : tag ≠ "" ∧ tag ≠ "*")
    (holds : OneWinner etagOf tag pool) {event : Event Patch Bool String}
    (concurrent : ∀ patch, event = .begin patch → Changes etagOf tag patch)
    (guard : Unchanged pool event) : OneWinner etagOf tag ((system etagOf).step pool event) := by
  cases event with
  | act index ok => exact oneWinner_act unique tagged holds guard
  | outside id =>
    constructor
    · exact holds.known.outside trivial (fun request known => known.of_rows rfl)
    · exact holds.atMostOne
  | begin patch =>
    have begun : Known etagOf tag pool.shared (Patches.begin pool.shared patch) :=
      ⟨concurrent patch rfl, .lookup patch.id _⟩
    constructor
    · exact holds.known.begin begun
    · -- The request that begins is not answered yet, so every winner was one before.
      have earlier : ∀ (i : Nat) (request : PatchCall),
          (pool.calls ++ [Patches.begin pool.shared patch])[i]? = some request →
          request.succeeded = true → pool.calls[i]? = some request := by
        intro i request found won
        by_cases before : i < pool.calls.length
        · rw [List.getElem?_append_left before] at found
          exact found
        · rw [List.getElem?_append_right (Nat.le_of_not_lt before)] at found
          have only := List.mem_singleton.mp (List.mem_of_getElem? found)
          rw [only] at won
          cases won
      intro i j first second firstAt secondAt firstWon secondWon
      exact holds.atMostOne i j first second (earlier i first firstAt firstWon)
        (earlier j second secondAt secondWon) firstWon secondWon

omit unique

/-- Of requests with one tag that all change the project at most one succeeds, if each statement
takes effect and finds the document its request has read. -/
theorem atMostOne_of_unchanged (unique : Unique etagOf tag) (tagged : tag ≠ "" ∧ tag ≠ "*")
    (store : CachedStore (Project EnvMap)) (events : List (Event Patch Bool String))
    (concurrent : ∀ patch, .begin patch ∈ events → Changes etagOf tag patch)
    (guarded : Guarded (system etagOf).step Unchanged ⟨store, []⟩ events) :
    AtMostOne (run (system etagOf).step ⟨store, []⟩ events) := by
  have start : OneWinner etagOf tag ⟨store, []⟩ := by
    constructor
    · refine ⟨trivial, ?_⟩
      intro index request found
      cases found
    · intro i j first second firstAt
      cases firstAt
  have each : Guarded (system etagOf).step
      (fun pool event => (∀ patch, event = .begin patch → Changes etagOf tag patch) ∧
        Unchanged pool event) ⟨store, []⟩ events := by
    rw [guarded_iff] at guarded ⊢
    intro before event after split
    refine ⟨?_, guarded before event after split⟩
    intro patch same
    apply concurrent patch
    rw [split, same]
    simp
  have holds := run_invariant (system etagOf).step _ (OneWinner etagOf tag)
    (fun pool event known guard => oneWinner_step unique tagged known guard.1 guard.2)
    ⟨store, []⟩ events start each
  exact holds.atMostOne

end OneTag

def shop : Project EnvMap where
  id := "p"
  orgID := "acme"
  name := "shop"
  source := "image"
  image := "nginx"
  network := "10.42.0.0/24"
  vmIDs := []
  hostMountPath := ""
  replicasDesired := 1
  restartPolicy := "always"
  healthcheck := none
  env := none
  tags := []
  sshEnabled := false
  replicas := 1
  createdBy := "u"

def scaled (replicas : Int) : ProjectPatch := ⟨none, "", replicas, "", none, none, none⟩

def scale (ifMatch : String) (replicas : Int) : Patch :=
  ⟨"p", ifMatch, .ok (scaled replicas), ProjectRun.plain "" ""⟩

def shopStore : CachedStore (Project EnvMap) :=
  ⟨fun id => ⟨0, if id = "p" then some shop else none⟩, fun _ => none, 0⟩

def orderedEvents : List (Event Patch Bool String) :=
  aloneEvents (scale "v1" 2) ++ .begin (scale "v1" 3) :: List.replicate 3 (.act 1 true)

def shopTag (doc : Project EnvMap) : String := if doc = shop then "v1" else "v2"

theorem atMostOne_of_unchanged_ordered :
    Unique shopTag "v1" ∧
      (∀ patch, .begin patch ∈ orderedEvents → Changes shopTag "v1" patch) ∧
      Guarded (system shopTag).step Unchanged ⟨shopStore, []⟩ orderedEvents ∧
      AtMostOne (run (system shopTag).step ⟨shopStore, []⟩ orderedEvents) ∧
      (run (system shopTag).step ⟨shopStore, []⟩ orderedEvents).calls.map PatchCall.succeeded =
        [true, false] := by
  have only : ∀ doc, shopTag doc = "v1" → doc = shop := by
    intro doc tagged
    unfold shopTag at tagged
    split at tagged
    · assumption
    · exact absurd tagged (by decide)
  have unique : Unique shopTag "v1" := by
    intro doc other tagged same
    rw [only doc tagged, only other same]
  have scales : ∀ replicas, (patchRow (ProjectRun.plain "" "") (scaled replicas) shop).doc ≠ shop →
      Changes shopTag "v1" (scale "v1" replicas) := by
    intro replicas differs
    refine ⟨rfl, ?_⟩
    intro doc changes tagged body
    cases body
    rw [only doc tagged]
    exact differs
  have concurrent : ∀ patch, .begin patch ∈ orderedEvents → Changes shopTag "v1" patch := by
    intro patch member
    have either : patch = scale "v1" 2 ∨ patch = scale "v1" 3 := by
      simpa [orderedEvents, aloneEvents] using member
    cases either with
    | inl first =>
      rw [first]
      exact scales 2 (by decide)
    | inr second =>
      rw [second]
      exact scales 3 (by decide)
  have guarded : Guarded (system shopTag).step Unchanged ⟨shopStore, []⟩ orderedEvents := by
    decide
  exact ⟨unique, concurrent, guarded,
    atMostOne_of_unchanged unique (by decide) shopStore orderedEvents concurrent guarded,
    by decide⟩

theorem not_atMostOne_of_two (two : pool.calls.map PatchCall.succeeded = [true, true]) :
    ¬ AtMostOne pool := by
  intro atMostOne
  have won : ∀ i : Nat, [true, true][i]? = some true →
      ∃ request : PatchCall, pool.calls[i]? = some request ∧ request.succeeded = true := by
    intro i found
    rw [← two, List.getElem?_map] at found
    exact Option.map_eq_some_iff.mp found
  have ⟨first, firstAt, firstWon⟩ := won 0 rfl
  have ⟨second, secondAt, secondWon⟩ := won 1 rfl
  exact absurd (atMostOne 0 1 first second firstAt secondAt firstWon secondWon) (by decide)

def racingEvents (ifMatch : String) : List (Event Patch Bool String) :=
  [.begin (scale ifMatch 2), .begin (scale ifMatch 3),
    .act 0 true, .act 0 true, .act 0 true, .act 1 true,
    .act 0 true, .act 0 true, .act 1 true, .act 1 true]

theorem racing_patches_succeed :
    (patchRow (ProjectRun.plain "" "") (scaled 2) shop).doc ≠ shop ∧
      (patchRow (ProjectRun.plain "" "") (scaled 3) shop).doc ≠ shop ∧
      ∀ etagOf : Project EnvMap → String,
        (run (system etagOf).step ⟨shopStore, []⟩ (racingEvents (etagOf shop))).calls.map
            PatchCall.succeeded = [true, true] ∧
          ¬ AtMostOne (run (system etagOf).step ⟨shopStore, []⟩ (racingEvents (etagOf shop))) ∧
          ((run (system etagOf).step ⟨shopStore, []⟩ (racingEvents (etagOf shop))).shared.rows
            "p").doc = some { shop with replicasDesired := 3 } := by
  refine ⟨by decide, by decide, ?_⟩
  intro etagOf
  have matching : checkIfMatch (etagOf shop) (etagOf shop) = true := by simp [checkIfMatch]
  have settled : ∀ replicas, settle etagOf (scale (etagOf shop) replicas) (some shop) =
      .writing shop (patchRow (ProjectRun.plain "" "") (scaled replicas) shop)
        (.invalidate "p" (patchRow (ProjectRun.plain "" "") (scaled replicas) shop).doc) := by
    intro replicas
    simp only [settle, scale, matching, Bool.not_true, Bool.false_eq_true, if_false, id_patchRow]
    rfl
  have addressed : ∀ replicas, (scale (etagOf shop) replicas).id = "p" := fun _ => rfl
  have two : (run (system etagOf).step ⟨shopStore, []⟩ (racingEvents (etagOf shop))).calls.map
      PatchCall.succeeded = [true, true] := by
    simp [racingEvents, run, System.step, system, act, Patches.begin, Cached.begin, Cached.act,
      shopStore, afterRead, afterWrite, settled, addressed, PatchCall.succeeded]
    decide
  refine ⟨two, not_atMostOne_of_two two, ?_⟩
  simp [racingEvents, run, System.step, system, act, Patches.begin, Cached.begin, Cached.act,
    shopStore, afterRead, afterWrite, settled, addressed]
  decide

end Porter.Api.Projects.Patches
