import Porter.Cache.Redis

/-!
# Closing the Redis client

`Close` of `internal/cache/redis.go` closes the connections of the pool and empties it, all under
the lock.
-/
namespace Porter.Cache

open Go Run

variable {client after : Redis} {request : Request} {phase next : Phase} {p : Pool Redis Call}

def Redis.close (client : Redis) : Redis :=
  { client with
    conns := fun c =>
      if c ∈ client.pool then { client.conns c with closed := true } else client.conns c
    pool := [] }

def closing : System Redis Call Request Input (Option Change) where
  begin := fun _ => begin
  act := act
  outside := fun client change =>
    match change with
    | some change => outside client change
    | none => client.close

def Covered (client : Redis) (held : List Nat) : Prop :=
  ∀ c < client.dialed, (client.conns c).closed = false → c ∈ client.pool ++ held

theorem Covered.set {held : List Nat} (covered : Covered client held) {c : Nat} {conn : Conn}
    (kept : conn.closed = false → (client.conns c).closed = false) :
    Covered (client.set c conn) held := by
  intro other dialed opened
  refine covered other dialed ?_
  by_cases here : other = c
  · rw [here, conns_set_self] at opened
    rw [here]
    exact kept opened
  · rwa [conns_set_of_ne _ _ here] at opened

theorem Covered.drop {c : Nat} {rest : List Nat} (covered : Covered client (c :: rest))
    {conn : Conn} (shut : conn.closed = true) : Covered (client.set c conn) rest := by
  intro other dialed opened
  have apart : other ≠ c := by
    intro here
    rw [here, conns_set_self, shut] at opened
    contradiction
  rw [conns_set_of_ne _ _ apart] at opened
  rcases List.mem_append.mp (covered other dialed opened) with free | held
  · exact List.mem_append_left _ free
  · exact List.mem_append_right _ ((List.mem_cons.mp held).resolve_left apart)

theorem Advances.covered (step : Advances client request phase after next) {rest : List Nat}
    (covered : Covered client (phase.conn.toList ++ rest)) :
    Covered after (next.conn.toList ++ rest) := by
  cases step with
  | stays | misses | refused => exact covered
  | takes left c idle =>
    intro other dialed opened
    have member := covered other dialed opened
    rw [idle] at member
    simpa [Phase.conn] using member
  | dials attempt =>
    intro other dialed opened
    by_cases here : other = client.dialed
    · rw [here]
      exact List.mem_append_right _ List.mem_cons_self
    · have known : other < client.dialed := Nat.lt_of_le_of_ne (Nat.le_of_lt_succ dialed) here
      have same : (client.set client.dialed Conn.new).conns other = client.conns other :=
        conns_set_of_ne client _ here
      simp only [same] at opened
      rcases List.mem_append.mp (covered other known opened) with free | held
      · exact List.mem_append_left _ free
      · exact List.mem_append_right _ (List.mem_cons_of_mem _ held)
  | sends attempt stage c => exact covered.set id
  | fails _ _ c used dropped unsent =>
    rw [used] at covered
    rw [dropped]
    exact covered.drop rfl
  | receives attempt stage c ticket reply left buffered read =>
    cases stage with
    | auth | select | command => exact covered.set id
  | keeps c ticket reply room =>
    intro other dialed opened
    have member := covered other dialed opened
    simpa [Phase.conn] using member
  | closes c ticket reply => exact covered.drop rfl

theorem Covered.perm {held others : List Nat} (covered : Covered client held)
    (same : held.Perm others) : Covered client others := by
  intro c dialed opened
  exact ((same.append_left client.pool).mem_iff).mp (covered c dialed opened)

theorem outside_closed (client : Redis) (change : Change) :
    (outside client change).pool = client.pool ∧ (outside client change).dialed = client.dialed ∧
      ∀ c, ((outside client change).conns c).closed = (client.conns c).closed := by
  cases change with
  | giveUp c => exact ⟨rfl, rfl, fun _ => rfl⟩
  | answer c reply =>
    simp only [outside]
    split
    · exact ⟨rfl, rfl, fun _ => rfl⟩
    · split
      · exact ⟨rfl, rfl, fun _ => rfl⟩
      · refine ⟨rfl, rfl, ?_⟩
        intro other
        by_cases here : other = c
        · rw [here]
          simp only [conns_set_self]
        · simp only [conns_set_of_ne client _ here]

theorem covered_step (event : Event Request Input (Option Change))
    (covered : Covered p.shared (p.held Call.conn)) :
    Covered (closing.step p event).shared ((closing.step p event).held Call.conn) := by
  cases event with
  | begin request =>
    have nothing : (closing.begin p.shared request).conn = none := (begin_free request).1
    rw [System.held_begin, nothing, Option.toList_none, List.append_nil]
    exact covered
  | outside change =>
    cases change with
    | none =>
      intro c dialed opened
      have outside : c ∉ p.shared.pool := by
        intro idle
        have shut : (p.shared.close.conns c).closed = true := by
          simp only [Redis.close, if_pos idle]
        exact absurd (opened.symm.trans shut) Bool.false_ne_true
      have kept : (p.shared.close.conns c) = p.shared.conns c := if_neg outside
      exact (List.mem_append.mp (covered c dialed (kept ▸ opened))).resolve_left outside
    | some change =>
      have ⟨pool, known, closed⟩ := outside_closed p.shared change
      intro c dialed opened
      have member := covered c (known ▸ dialed) ((closed c).symm.trans opened)
      rw [← pool] at member
      exact member
  | act index input =>
    cases present : p.calls[index]? with
    | none =>
      rw [System.step_act_of_none _ present]
      exact covered
    | some call =>
      have step := advance_advances p.shared call.request call.phase input
      have shared : (closing.step p (.act index input)).shared =
          (advance p.shared call.request call.phase input).1 := by
        rw [System.step_act_of_some _ present]
        rfl
      rw [shared]
      have held : ((closing.step p (.act index input)).held Call.conn).Perm _ :=
        closing.held_act present
      exact (step.covered (covered.perm (Pool.held_perm present))).perm held.symm

theorem Advances.empty (step : Advances client request phase after next)
    (empty : client.pool = []) (unreleased : ∀ c ticket reply, phase ≠ .release c ticket reply) :
    after.pool = [] := by
  cases step with
  | takes rest c idle =>
    rw [idle] at empty
    simp at empty
  | keeps c ticket reply room => exact absurd rfl (unreleased c ticket reply)
  | stays | misses | refused | dials | sends | fails | receives | closes => exact empty

def Unreleased (p : Pool Redis Call) (event : Event Request Input (Option Change)) : Prop :=
  ∀ index input call, event = .act index input → p.calls[index]? = some call →
    ∀ c ticket reply, call.phase ≠ .release c ticket reply

theorem emptied_step (event : Event Request Input (Option Change)) (empty : p.shared.pool = [])
    (unreleased : Unreleased p event) : (closing.step p event).shared.pool = [] := by
  cases event with
  | begin request => exact empty
  | outside change =>
    cases change with
    | none => rfl
    | some change => exact (outside_closed p.shared change).1.trans empty
  | act index input =>
    cases present : p.calls[index]? with
    | none =>
      rw [System.step_act_of_none _ present]
      exact empty
    | some call =>
      have free := unreleased index input call rfl present
      have step := advance_advances p.shared call.request call.phase input
      rw [System.step_act_of_some _ present]
      exact step.empty empty free

/-- If no call puts its connection back after `Close`, then no connection is open once all calls
have finished. -/
theorem closed_of_unreleased (opts : Options)
    (before later : List (Event Request Input (Option Change)))
    (unreleased : Guarded closing.step Unreleased
      (closing.step (run closing.step (start opts) before) (.outside none)) later)
    (finished : ∀ call ∈ (run closing.step (start opts) (before ++ .outside none :: later)).calls,
      call.outcome.isSome = true) :
    ∀ c < (run closing.step (start opts) (before ++ .outside none :: later)).shared.dialed,
      ((run closing.step (start opts) (before ++ .outside none :: later)).shared.conns c).closed =
        true := by
  have covered := run_preserved _ (fun p => Covered p.shared (p.held Call.conn))
    (fun _ event known => covered_step event known) (start opts) (before ++ .outside none :: later)
    (fun _ dialed => absurd dialed (Nat.not_lt_zero _))
  have empty := run_invariant _ _ (fun p => p.shared.pool = [])
    (fun _ event known free => emptied_step event known free) _ later rfl unreleased
  rw [run_append, run_cons] at covered finished ⊢
  intro c dialed
  by_contra opened
  have member := covered c dialed (Bool.eq_false_iff.mpr opened)
  rw [empty] at member
  have ⟨call, among, used⟩ := Pool.mem_held.mp member
  have ended := finished call among
  cases phase : call.phase with
  | returned | failed | skipped =>
    rw [Call.conn, phase] at used
    contradiction
  | acquire | dial | send | receive | release =>
    rw [Call.outcome, phase] at ended
    contradiction

def pooling : Options := ⟨[], [], 0, 4⟩

def answered : List (Event Request Input (Option Change)) :=
  [.begin (.get (ascii "k")), .act 0 ⟨false, 0⟩, .act 0 ⟨false, 0⟩, .act 0 ⟨false, 0⟩,
    .outside (some (.answer 0 ⟨.nullBulk, trivial⟩))]

theorem run_answered :
    run closing.step (start pooling) (answered ++ [.act 0 ⟨false, 0⟩]) =
      ⟨(run closing.step (start pooling) answered).shared.set 0 Conn.new,
        [⟨.get (ascii "k"), .release 0 0 .nil⟩]⟩ := by
  have waits : (run closing.step (start pooling) answered).calls[0]? =
      some ⟨.get (ascii "k"), .receive .first .command 0 0⟩ := rfl
  have read : readReply ((run closing.step (start pooling) answered).shared.conns 0).inbound =
      .ok (.nil, []) := readReply_encode .nullBulk trivial []
  have acted : closing.act (run closing.step (start pooling) answered).shared
      ⟨.get (ascii "k"), .receive .first .command 0 0⟩ ⟨false, 0⟩ =
        ((run closing.step (start pooling) answered).shared.set 0 Conn.new,
          ⟨.get (ascii "k"), .release 0 0 .nil⟩) := by
    show act _ _ _ = _
    unfold act advance
    simp only [Bool.false_eq_true, if_false, read]
    rfl
  rw [run_append, run_cons, System.step_act_of_some _ waits, acted]
  rfl

theorem closed_of_unreleased_get :
    ((run closing.step (start pooling) ((answered ++ [.act 0 ⟨false, 0⟩]) ++ [.act 0 ⟨false, 0⟩] ++
      .outside none :: [])).shared.conns 0).closed = true := by
  refine closed_of_unreleased _ _ [] trivial ?_ 0 ?_
  · rw [run_append, run_append, run_answered]
    decide
  · rw [run_append, run_append, run_answered]
    decide

theorem open_after_close :
    let p := run closing.step (start pooling)
      ((answered ++ [.act 0 ⟨false, 0⟩]) ++ [.outside none, .act 0 ⟨false, 0⟩])
    (∀ call ∈ p.calls, call.outcome.isSome = true) ∧ p.shared.dialed = 1 ∧
      (p.shared.conns 0).closed = false := by
  rw [run_append, run_answered]
  exact ⟨by decide, rfl, rfl⟩

end Porter.Cache
