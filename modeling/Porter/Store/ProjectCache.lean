import Porter.Run.Interleaving

/-!
# Projects behind a cache

`GetProject`, `PutProject` and `DeleteProject` of `internal/store/store.go` with the read-through
cache of `cachedGet`.
-/
namespace Porter.Store.Cached

open Run

structure Cell (α : Type) where
  stamp : Nat
  doc : Option α
deriving DecidableEq

structure CachedStore (α : Type) where
  rows : String → Cell α
  cache : String → Option (Cell α)
  clock : Nat

inductive Request (α : Type) where
  | get (id : String)
  | put (id : String) (doc : α)
  | delete (id : String)

inductive Call (α : Type) where
  /-- `GetProject` before `cache.Get`. The last statement on the id that had returned when the call
  began has the number `floor`. -/
  | lookup (id : String) (floor : Nat)
  /-- `GetProject` after a miss, before its query. -/
  | load (id : String) (floor : Nat)
  /-- `GetProject` with the document it has read, before `cache.Set`. -/
  | fill (id : String) (floor : Nat) (cell : Cell α)
  /-- `GetProject` after its return; it answers from the cell, or with nothing after an error. -/
  | got (id : String) (floor : Nat) (cell : Option (Cell α))
  /-- `PutProject` before `cacheDel`. -/
  | invalidate (id : String) (doc : α)
  /-- `PutProject` or, without a document, `DeleteProject` before its statement. -/
  | write (id : String) (doc : Option α)
  | wrote
deriving DecidableEq

variable {α : Type}

variable (store : CachedStore α)

def begin : Request α → Call α
  | .get id => .lookup id (store.rows id).stamp
  | .put id doc => .invalidate id doc
  | .delete id => .write id none

def act (call : Call α) (ok : Bool) : CachedStore α × Call α :=
  match call with
  | .lookup id floor =>
    match if ok then store.cache id else none with
    | some cell => (store, .got id floor (some cell))
    | none => (store, .load id floor)
  | .load id floor =>
    if !ok then (store, .got id floor none)
    else
      match (store.rows id).doc with
      | none => (store, .got id floor (some (store.rows id)))
      | some _ => (store, .fill id floor (store.rows id))
  | .fill id floor cell =>
    (if ok then { store with cache := Function.update store.cache id (some cell) } else store,
      .got id floor (some cell))
  | .got id floor cell => (store, .got id floor cell)
  | .invalidate id doc =>
    (if ok then { store with cache := Function.update store.cache id none } else store,
      .write id (some doc))
  | .write id doc =>
    (if ok then
      { store with
        rows := Function.update store.rows id ⟨store.clock + 1, doc⟩
        clock := store.clock + 1 }
    else store, .wrote)
  | .wrote => (store, .wrote)

def expire (id : String) : CachedStore α :=
  { store with cache := Function.update store.cache id none }

def system (α : Type) : System (CachedStore α) (Call α) (Request α) Bool String :=
  ⟨begin, act, expire⟩

def opened (docs : String → Option α) : Pool (CachedStore α) (Call α) :=
  ⟨⟨fun id => ⟨0, docs id⟩, fun _ => none, 0⟩, []⟩

variable (pool : Pool (CachedStore α) (Call α))

/-- No `GetProject` answers from before the last write that had returned when it began. -/
def Coherent : Prop :=
  ∀ call ∈ pool.calls, ∀ id floor cell, call = .got id floor (some cell) → floor ≤ cell.stamp

def Call.fills (id : String) : Call α → Bool
  | .fill other _ _ => other = id
  | _ => false

/-- Statements take effect only on ids that are not cached and that no reader is about to cache. -/
def Uncached (event : Event (Request α) Bool String) : Prop :=
  ∀ index id doc, event = .act index true → pool.calls[index]? = some (.write id doc) →
    pool.shared.cache id = none ∧ ∀ call ∈ pool.calls, call.fills id = false

def uncached (event : Event (Request α) Bool String) : Bool :=
  match event with
  | .act index true =>
    match pool.calls[index]? with
    | some (.write id _) =>
      (pool.shared.cache id).isNone && pool.calls.all (fun call => !call.fills id)
    | _ => true
  | _ => true

variable (pool : Pool (CachedStore α) (Call α)) (event : Event (Request α) Bool String)

theorem uncached_eq_true : uncached pool event = true ↔ Uncached pool event := by
  unfold uncached
  split
  · rename_i index
    split
    · rename_i id doc present
      simp only [Bool.and_eq_true, Option.isNone_iff_eq_none, List.all_eq_true, Bool.not_eq_true']
      constructor
      · intro holds other name written same found
        cases same
        rw [present] at found
        cases found
        exact holds
      · intro holds
        exact holds index id doc rfl present
    · rename_i other
      refine ⟨fun _ => ?_, fun _ => rfl⟩
      intro index id doc same found
      cases same
      exact absurd found (other id doc)
  · rename_i other
    refine ⟨fun _ => ?_, fun _ => rfl⟩
    intro index id doc same
    exact absurd same (other index)

instance (pool : Pool (CachedStore α) (Call α)) (event : Event (Request α) Bool String) :
    Decidable (Uncached pool event) :=
  decidable_of_iff (uncached pool event = true) (uncached_eq_true pool event)

inductive Effect (store : CachedStore α) : Call α → Bool → CachedStore α → Call α → Prop where
  | hit (id : String) (floor : Nat) (cell : Cell α) (cached : store.cache id = some cell) :
      Effect store (.lookup id floor) true store (.got id floor (some cell))
  | miss (id : String) (floor : Nat) (ok : Bool) :
      Effect store (.lookup id floor) ok store (.load id floor)
  | error (id : String) (floor : Nat) :
      Effect store (.load id floor) false store (.got id floor none)
  | absent (id : String) (floor : Nat) :
      Effect store (.load id floor) true store (.got id floor (some (store.rows id)))
  | loaded (id : String) (floor : Nat) :
      Effect store (.load id floor) true store (.fill id floor (store.rows id))
  | filled (id : String) (floor : Nat) (cell : Cell α) :
      Effect store (.fill id floor cell) true
        { store with cache := Function.update store.cache id (some cell) }
        (.got id floor (some cell))
  | unfilled (id : String) (floor : Nat) (cell : Cell α) :
      Effect store (.fill id floor cell) false store (.got id floor (some cell))
  | returned (id : String) (floor : Nat) (cell : Option (Cell α)) (ok : Bool) :
      Effect store (.got id floor cell) ok store (.got id floor cell)
  | invalidated (id : String) (doc : α) :
      Effect store (.invalidate id doc) true (expire store id) (.write id (some doc))
  | valid (id : String) (doc : α) :
      Effect store (.invalidate id doc) false store (.write id (some doc))
  | written (id : String) (doc : Option α) :
      Effect store (.write id doc) true
        { store with
          rows := Function.update store.rows id ⟨store.clock + 1, doc⟩
          clock := store.clock + 1 } .wrote
  | refused (id : String) (doc : Option α) : Effect store (.write id doc) false store .wrote
  | done (ok : Bool) : Effect store .wrote ok store .wrote

theorem act_effect (call : Call α) (ok : Bool) :
    Effect store call ok (act store call ok).1 (act store call ok).2 := by
  cases call with
  | lookup id floor =>
    cases ok with
    | false => exact .miss id floor false
    | true =>
      cases cached : store.cache id with
      | none =>
        have step : act store (.lookup id floor) true = (store, .load id floor) := by
          simp [act, cached]
        rw [step]
        exact .miss id floor true
      | some cell =>
        have step : act store (.lookup id floor) true = (store, .got id floor (some cell)) := by
          simp [act, cached]
        rw [step]
        exact .hit id floor cell cached
  | load id floor =>
    cases ok with
    | false => exact .error id floor
    | true =>
      cases found : (store.rows id).doc with
      | none =>
        have step : act store (.load id floor) true =
            (store, .got id floor (some (store.rows id))) := by
          simp [act, found]
        rw [step]
        exact .absent id floor
      | some doc =>
        have step : act store (.load id floor) true = (store, .fill id floor (store.rows id)) := by
          simp [act, found]
        rw [step]
        exact .loaded id floor
  | fill id floor cell =>
    cases ok with
    | false => exact .unfilled id floor cell
    | true => exact .filled id floor cell
  | got id floor cell => exact .returned id floor cell ok
  | invalidate id doc =>
    cases ok with
    | false => exact .valid id doc
    | true => exact .invalidated id doc
  | write id doc =>
    cases ok with
    | false => exact .refused id doc
    | true => exact .written id doc
  | wrote => exact .done ok

structure Current (store : CachedStore α) : Prop where
  stamps : ∀ id, (store.rows id).stamp ≤ store.clock
  cache : ∀ id cell, store.cache id = some cell → cell = store.rows id

def Call.Fresh : Call α → Prop
  | .lookup id floor => floor ≤ (store.rows id).stamp
  | .load id floor => floor ≤ (store.rows id).stamp
  | .fill id floor cell => floor ≤ cell.stamp ∧ cell = store.rows id
  | .got _ floor (some cell) => floor ≤ cell.stamp
  | .got _ _ none => True
  | .invalidate _ _ => True
  | .write _ _ => True
  | .wrote => True

variable {store : CachedStore α} {id : String} {call : Call α}

theorem Call.Fresh.of_rows {before after : CachedStore α} (same : after.rows = before.rows)
    (fresh : call.Fresh before) : call.Fresh after := by
  cases call with
  | lookup | load | fill =>
    unfold Call.Fresh
    rw [same]
    exact fresh
  | got id floor cell => cases cell <;> exact fresh
  | invalidate | write | wrote => trivial

theorem Call.Fresh.write (doc : Option α) (current : Current store)
    (apart : call.fills id = false) (fresh : call.Fresh store) :
    call.Fresh { store with
      rows := Function.update store.rows id ⟨store.clock + 1, doc⟩
      clock := store.clock + 1 } := by
  have newer : ∀ other, (store.rows other).stamp ≤
      (Function.update store.rows id ⟨store.clock + 1, doc⟩ other).stamp := by
    intro other
    have bound := current.stamps other
    by_cases same : other = id
    · rw [same] at bound ⊢
      rw [Function.update_self]
      exact Nat.le_succ_of_le bound
    · exact Nat.le_of_eq (congrArg Cell.stamp (Function.update_of_ne same _ _).symm)
  cases call with
  | lookup | load => exact Nat.le_trans fresh (newer _)
  | fill other floor cell =>
    have different : other ≠ id := by simpa [Call.fills] using apart
    have ⟨recent, held⟩ := fresh
    refine ⟨recent, ?_⟩
    show cell = Function.update store.rows id ⟨store.clock + 1, doc⟩ other
    rw [Function.update_of_ne different]
    exact held
  | got other floor cell => cases cell <;> exact fresh
  | invalidate | write | wrote => trivial

theorem stamp_update_le (bound : ∀ id, (store.rows id).stamp ≤ store.clock) (id other : String)
    (doc : Option α) :
    (Function.update store.rows id ⟨store.clock + 1, doc⟩ other).stamp ≤ store.clock + 1 := by
  by_cases same : other = id
  · have here : Function.update store.rows id ⟨store.clock + 1, doc⟩ id =
        ⟨store.clock + 1, doc⟩ := Function.update_self id _ _
    rw [same]
    exact Nat.le_of_eq (congrArg Cell.stamp here)
  · rw [Function.update_of_ne same]
    exact Nat.le_succ_of_le (bound other)

theorem Current.setEntry (current : Current store) {entry : Option (Cell α)}
    (held : ∀ cell, entry = some cell → cell = store.rows id) :
    Current { store with cache := Function.update store.cache id entry } := by
  refine ⟨current.stamps, ?_⟩
  intro other cell cached
  simp only at cached
  by_cases same : other = id
  · rw [same, Function.update_self] at cached
    rw [same]
    exact held cell cached
  · rw [Function.update_of_ne same] at cached
    exact current.cache other cell cached

theorem Current.expire (current : Current store) (id : String) : Current (Cached.expire store id) :=
  current.setEntry nofun

theorem Current.write (current : Current store) (uncached : store.cache id = none)
    (doc : Option α) :
    Current { store with
      rows := Function.update store.rows id ⟨store.clock + 1, doc⟩
      clock := store.clock + 1 } := by
  constructor
  · exact fun other => stamp_update_le current.stamps id other doc
  · intro other entry cached
    have different : other ≠ id := by
      intro same
      rw [same] at cached
      simp only [uncached] at cached
      cases cached
    show entry = Function.update store.rows id _ other
    rw [Function.update_of_ne different]
    exact current.cache other entry cached

theorem holds_act {pool : Pool (CachedStore α) (Call α)}
    (holds : System.Holds Current (fun store call => call.Fresh store) pool) {index : Nat}
    {ok : Bool} (guard : Uncached pool (.act index ok)) :
    System.Holds Current (fun store call => call.Fresh store)
      ((system α).step pool (.act index ok)) := by
  apply holds.act
  intro call present
  have current := holds.shared
  have own := holds.calls index call present
  have effect := act_effect pool.shared call ok
  show Current (act pool.shared call ok).1 ∧
    (act pool.shared call ok).2.Fresh (act pool.shared call ok).1 ∧
    ∀ i other, i ≠ index → pool.calls[i]? = some other →
      other.Fresh (act pool.shared call ok).1
  generalize (act pool.shared call ok).1 = next at effect
  generalize (act pool.shared call ok).2 = after at effect
  have others : next.rows = pool.shared.rows → ∀ i other, i ≠ index →
      pool.calls[i]? = some other → other.Fresh next := by
    intro same i other _ found
    exact (holds.calls i other found).of_rows same
  cases effect with
  | hit id floor cell cached =>
    refine ⟨current, ?_, others rfl⟩
    rw [current.cache id cell cached]
    exact own
  | miss | absent | returned => exact ⟨current, own, others rfl⟩
  | error | valid | refused | done => exact ⟨current, trivial, others rfl⟩
  | loaded id floor => exact ⟨current, ⟨own, rfl⟩, others rfl⟩
  | filled id floor cell =>
    have ⟨recent, held⟩ := own
    refine ⟨current.setEntry ?_, recent, others rfl⟩
    intro other same
    rw [← Option.some.inj same]
    exact held
  | unfilled id floor cell => exact ⟨current, own.1, others rfl⟩
  | invalidated id doc => exact ⟨current.expire id, trivial, others rfl⟩
  | written id doc =>
    have ⟨uncached, unfilled⟩ := guard index id doc rfl present
    refine ⟨current.write uncached doc, trivial, ?_⟩
    intro i other _ found
    exact (holds.calls i other found).write doc current
      (unfilled other (List.mem_of_getElem? found))

theorem holds_step (holds : System.Holds Current (fun store call => call.Fresh store) pool)
    (guard : Uncached pool event) :
    System.Holds Current (fun store call => call.Fresh store) ((system α).step pool event) := by
  cases event with
  | begin request =>
    apply holds.begin
    cases request with
    | get id => exact Nat.le_refl _
    | put | delete => trivial
  | act index ok => exact holds_act holds guard
  | outside id =>
    apply holds.outside
    · exact holds.shared.expire id
    · intro call fresh
      exact fresh.of_rows rfl

/-- If statements take effect only on ids that are not cached and that no reader is about to cache,
every read is up to date. -/
theorem coherent_of_uncached (docs : String → Option α)
    (events : List (Event (Request α) Bool String))
    (guarded : Guarded (system α).step Uncached (opened docs) events) :
    Coherent (run (system α).step (opened docs) events) := by
  have start : System.Holds Current (fun store call => call.Fresh store) (opened docs) := by
    constructor
    · refine ⟨fun id => Nat.le_refl 0, ?_⟩
      intro id cell cached
      cases cached
    · intro index call found
      cases found
  have holds := start.run holds_step guarded
  intro call member id floor cell same
  have fresh := holds.mem member
  rw [same] at fresh
  exact fresh

def expiringEvents : List (Event (Request String) Bool String) :=
  [.begin (.put "p" "v1"), .act 0 true, .act 0 true,
    .begin (.get "p"), .act 1 true, .act 1 true, .act 1 true, .outside "p",
    .begin (.put "p" "v2"), .act 2 true, .act 2 true,
    .begin (.get "p"), .act 3 true, .act 3 true]

theorem coherent_of_uncached_expiring :
    Guarded (system String).step Uncached (opened fun _ => none) expiringEvents ∧
      Coherent (run (system String).step (opened fun _ => none) expiringEvents) ∧
      Call.fill "p" 2 ⟨2, some "v2"⟩ ∈
        (run (system String).step (opened fun _ => none) expiringEvents).calls := by
  have guarded : Guarded (system String).step Uncached (opened fun _ => none) expiringEvents := by
    decide
  exact ⟨guarded, coherent_of_uncached _ _ guarded, by decide⟩

def deletedEvents : List (Event (Request String) Bool String) :=
  [.begin (.put "p" "v1"), .act 0 true, .act 0 true,
    .begin (.get "p"), .act 1 true, .act 1 true, .act 1 true,
    .begin (.delete "p"), .act 2 true,
    .begin (.get "p"), .act 3 true]

theorem deleted_project_is_read :
    (run (system String).step (opened fun _ => none) deletedEvents).calls[2]? = some .wrote ∧
      Call.got "p" 2 (some ⟨1, some "v1"⟩) ∈
        (run (system String).step (opened fun _ => none) deletedEvents).calls ∧
      ¬ Coherent (run (system String).step (opened fun _ => none) deletedEvents) := by
  have answered : Call.got "p" 2 (some ⟨1, some "v1"⟩) ∈
      (run (system String).step (opened fun _ => none) deletedEvents).calls := by decide
  refine ⟨by decide, answered, ?_⟩
  intro coherent
  have recent := coherent _ answered "p" 2 ⟨1, some "v1"⟩ rfl
  exact absurd recent (by decide)

end Porter.Store.Cached
