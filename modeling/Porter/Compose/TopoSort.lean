import Porter.Compose.Lines
import Porter.Graph.Topological

/-!
# The boot order of services

`topoSort` of `internal/compose/compose.go` visits the services depth first.
-/
namespace Porter.Compose

open Porter.Graph

inductive Mark where
  | unvisited | visiting | done

structure Visit where
  visited : Text → Mark
  out : List ComposeService

def Visit.mark (v : Visit) (name : Text) (mark : Mark) : Visit :=
  { v with visited := Function.update v.visited name mark }

def sortStrings (texts : List Text) : List Text := texts.mergeSort (fun a b => decide (a ≤ b))

def visit (services : Services) : Nat → Text → List Text → Visit → Except (Stop ParseError) Visit
  | 0, _, _, _ => .error .unfinished
  | depth + 1, name, path, v =>
    match v.visited name with
    | .done => .ok v
    | .visiting => .error (.error (.circular path name))
    | .unvisited =>
      match services.lookup name with
      | none => do
        let parent ← index path (path.length - 1)
        .error (.error (.unknownService parent name))
      | some s => do
        let v ← (sortStrings s.dependsOn).foldlM
          (fun v d => visit services depth d (path ++ [name]) v) (v.mark name .visiting)
        return { v.mark name .done with out := v.out ++ [s] }

def topoSort (services : Services) (declOrder : List Text) :
    Except (Stop ParseError) (List ComposeService) := do
  let v ← declOrder.foldlM (fun v name => visit services (services.keys.length + 1) name [] v)
    ⟨fun _ => .unvisited, []⟩
  return v.out

/-- `ParseCompose`. The last loop sets `Replicas` of copies only. -/
def parseCompose (yamlText : Text) : Except (Stop ParseError) (List ComposeService) := do
  let (services, order) ← declarations yamlText
  if services.keys.length = 0 then .error (.error .noServices)
  else
    let ordered ← topoSort services order
    match ordered.find? (fun s => s.image = []) with
    | some s => .error (.error (.missingImage s.name))
    | none => .ok ordered

def Depends (services : Services) (a b : Text) : Prop :=
  ∃ s, services.lookup a = some s ∧ b ∈ s.dependsOn

def Visit.names (v : Visit) : List Text := v.out.map ComposeService.name

structure Visited (services : Services) (path : List Text) (v : Visit) : Prop where
  visiting : ∀ name, v.visited name = .visiting ↔ name ∈ path
  done : ∀ name, v.visited name = .done ↔ name ∈ v.names
  once : v.names.Nodup
  found : ∀ s ∈ v.out, services.lookup s.name = some s
  sorted : Topological (Depends services) v.names

structure Path (services : Services) (path : List Text) : Prop where
  once : path.Nodup
  declared : ∀ name ∈ path, name ∈ services

variable {services : Services}

theorem Path.length_le {path : List Text} (known : Path services path) :
    path.length ≤ services.keys.length :=
  known.once.length_le_of_subset (fun name member => AList.mem_keys.mp (known.declared name member))

theorem Path.concat {path : List Text} {name : Text}
    (way : Path services path) (apart : name ∉ path) (declared : name ∈ services) :
    Path services (path ++ [name]) where
  once := by
    rw [← List.concat_eq_append]
    exact way.once.concat apart
  declared := by
    intro other member
    rcases List.mem_append.mp member with old | new
    · exact way.declared other old
    · rw [List.mem_singleton.mp new]
      exact declared

theorem Orderly.foldlM {ε σ α : Type} {step : σ → α → Except (Stop ε) σ} {inv : σ → Prop}
    {reached : σ → α → Prop} {items : List α}
    (each : ∀ state, ∀ item ∈ items, inv state → Orderly (step state item) (fun after =>
      inv after ∧ reached after item ∧ ∀ other, reached state other → reached after other))
    {state : σ} (holds : inv state) :
    Orderly (items.foldlM step state) (fun after =>
      inv after ∧ (∀ item ∈ items, reached after item) ∧
        ∀ other, reached state other → reached after other) := by
  induction items generalizing state with
  | nil => exact ⟨holds, fun _ member => (List.not_mem_nil member).elim, fun _ there => there⟩
  | cons item rest recurse =>
    refine (each state item List.mem_cons_self holds).bind ?_
    intro middle ⟨kept, here, grown⟩
    have tail := recurse (fun s i member => each s i (List.mem_cons_of_mem _ member)) kept
    refine tail.mono ?_
    intro after ⟨known, all, more⟩
    refine ⟨known, ?_, fun other there => more other (grown other there)⟩
    intro other member
    rcases List.mem_cons.mp member with rfl | later
    · exact more other here
    · exact all other later

namespace Visited

variable {services : Services} {path : List Text} {v : Visit} {name : Text}

theorem enter (known : Visited services path v) (fresh : v.visited name = .unvisited) :
    Visited services (path ++ [name]) (v.mark name .visiting) := by
  have unlisted : name ∉ v.names := by
    intro listed
    rw [← known.done, fresh] at listed
    contradiction
  refine ⟨?_, ?_, known.once, known.found, known.sorted⟩
  · intro other
    rw [List.mem_append, List.mem_singleton, ← known.visiting]
    by_cases same : other = name
    · simp [Visit.mark, same]
    · simp [Visit.mark, same]
  · intro other
    by_cases same : other = name
    · subst same
      simp only [Visit.mark, Function.update_self]
      exact ⟨fun equal => (nomatch equal), fun listed => (unlisted listed).elim⟩
    · simp only [Visit.mark, Function.update_of_ne same]
      exact known.done other

theorem leave (known : Visited services (path ++ [name]) v) (apart : name ∉ path)
    {s : ComposeService} (present : services.lookup name = some s) (named : s.name = name)
    (ready : ∀ d ∈ s.dependsOn, d ∈ v.names) :
    Visited services path { v.mark name .done with out := v.out ++ [s] } := by
  have open_ : v.visited name = .visiting :=
    (known.visiting name).mpr (List.mem_append_right _ (List.mem_singleton_self name))
  have unlisted : name ∉ v.names := by
    intro listed
    rw [← known.done, open_] at listed
    contradiction
  have names : (v.out ++ [s]).map ComposeService.name = v.names ++ [name] := by
    rw [List.map_append, List.map_singleton, named]
    rfl
  refine ⟨?_, ?_, ?_, ?_, ?_⟩
  · intro other
    by_cases same : other = name
    · subst same
      simp only [Visit.mark, Function.update_self]
      exact ⟨fun equal => (nomatch equal), fun member => (apart member).elim⟩
    · simp only [Visit.mark, Function.update_of_ne same]
      rw [known.visiting, List.mem_append, List.mem_singleton]
      exact ⟨fun member => member.resolve_right same, Or.inl⟩
  · intro other
    show _ ↔ other ∈ (v.out ++ [s]).map ComposeService.name
    rw [names, List.mem_append, List.mem_singleton]
    by_cases same : other = name
    · simp [Visit.mark, same]
    · simp only [Visit.mark, Function.update_of_ne same]
      rw [known.done]
      exact ⟨Or.inl, fun member => member.resolve_right same⟩
  · show ((v.out ++ [s]).map ComposeService.name).Nodup
    rw [names, ← List.concat_eq_append]
    exact known.once.concat unlisted
  · intro other member
    rcases List.mem_append.mp member with old | new
    · exact known.found other old
    · rw [List.mem_singleton.mp new, named]
      exact present
  · show Topological (Depends services) ((v.out ++ [s]).map ComposeService.name)
    rw [names]
    apply known.sorted.concat
    intro b ⟨t, at_, needs⟩
    obtain rfl := Option.some.inj (at_.symm.trans present)
    exact ready b needs

end Visited

theorem orderly_visit (named : ∀ name svc, services.lookup name = some svc → svc.name = name)
    (depth : Nat) (name : Text) (path : List Text) (v : Visit) (known : Visited services path v)
    (way : Path services path) (enough : services.keys.length < depth + path.length)
    (rooted : path = [] → name ∈ services) :
    Orderly (visit services depth name path v) (fun after =>
      Visited services path after ∧ name ∈ after.names ∧
        ∀ other, other ∈ v.names → other ∈ after.names) := by
  induction depth generalizing name path v with
  | zero =>
    have bound := way.length_le
    omega
  | succ depth recurse =>
    unfold visit
    cases mark : v.visited name with
    | done => exact ⟨known, (known.done name).mp mark, fun _ there => there⟩
    | visiting => trivial
    | unvisited =>
      have apart : name ∉ path := by
        intro member
        rw [← known.visiting, mark] at member
        contradiction
      cases present : services.lookup name with
      | none =>
        -- The name was not declared, so a service of the path depends on it.
        have absent : name ∉ services := AList.lookup_eq_none.mp present
        have filled : path ≠ [] := fun empty => absent (rooted empty)
        have bound : path.length - 1 < path.length :=
          Nat.sub_lt (List.length_pos_of_ne_nil filled) Nat.one_pos
        exact (orderly_index path bound).bind (fun _ _ => trivial)
      | some s =>
        have declared : name ∈ services := by
          rw [← AList.lookup_isSome, present]
          rfl
        have longer := way.concat apart declared
        have loop : Orderly ((sortStrings s.dependsOn).foldlM
            (fun v d => visit services depth d (path ++ [name]) v) (v.mark name .visiting))
            (fun after => Visited services (path ++ [name]) after ∧
              (∀ d ∈ sortStrings s.dependsOn, d ∈ after.names) ∧
              ∀ other, other ∈ (v.mark name .visiting).names → other ∈ after.names) := by
          refine Orderly.foldlM ?_ (known.enter mark)
          intro state d _ kept
          apply recurse d (path ++ [name]) state kept longer
          · rw [List.length_append, List.length_singleton]
            omega
          · intro empty
            simp at empty
        refine loop.bind ?_
        intro after ⟨kept, all, more⟩
        have ready : ∀ d ∈ s.dependsOn, d ∈ after.names :=
          fun d needs => all d (List.mem_mergeSort.mpr needs)
        refine ⟨kept.leave apart present (named name s present) ready, ?_, ?_⟩
        · show name ∈ (after.out ++ [s]).map ComposeService.name
          rw [List.map_append, List.mem_append]
          exact Or.inr (List.mem_singleton.mpr (named name s present).symm)
        · intro other there
          show other ∈ (after.out ++ [s]).map ComposeService.name
          rw [List.map_append, List.mem_append]
          exact Or.inl (more other there)

structure Sorted (services : Services) (ordered : List ComposeService) : Prop where
  once : (ordered.map ComposeService.name).Nodup
  found : ∀ s ∈ ordered, services.lookup s.name = some s
  sorted : Topological (Depends services) (ordered.map ComposeService.name)
  all : ∀ name ∈ services, name ∈ ordered.map ComposeService.name

theorem orderly_topoSort {order : List Text}
    (declared : Declared services order) : Orderly (topoSort services order) (Sorted services) := by
  have start : Visited services [] ⟨fun _ => .unvisited, []⟩ := by
    refine ⟨?_, ?_, List.nodup_nil, fun _ member => (List.not_mem_nil member).elim, .nil⟩
    · intro name
      exact ⟨fun equal => (nomatch equal), fun member => (List.not_mem_nil member).elim⟩
    · intro name
      exact ⟨fun equal => (nomatch equal), fun member => (List.not_mem_nil member).elim⟩
  have loop : Orderly (order.foldlM (fun v name =>
      visit services (services.keys.length + 1) name [] v) ⟨fun _ => .unvisited, []⟩)
      (fun after => Visited services [] after ∧ (∀ name ∈ order, name ∈ after.names) ∧
        ∀ other, other ∈ Visit.names ⟨fun _ => .unvisited, []⟩ → other ∈ after.names) := by
    refine Orderly.foldlM ?_ start
    intro state name member kept
    apply orderly_visit declared.named _ name [] state kept
    · exact ⟨List.nodup_nil, fun _ inside => (List.not_mem_nil inside).elim⟩
    · simp
    · intro _
      exact (declared.all name).mp member
  refine loop.bind ?_
  intro after ⟨known, all, _⟩
  exact ⟨known.once, known.found, known.sorted,
    fun name present => all name ((declared.all name).mpr present)⟩

theorem Sorted.before {ordered : List ComposeService}
    (sorted : Sorted services ordered) {before after : List ComposeService} {s : ComposeService}
    (split : ordered = before ++ s :: after) {d : Text} (needs : d ∈ s.dependsOn) :
    d ∈ before.map ComposeService.name := by
  have member : s ∈ ordered := by
    rw [split]
    exact List.mem_append_right _ List.mem_cons_self
  have names : ordered.map ComposeService.name =
      before.map ComposeService.name ++ s.name :: after.map ComposeService.name := by
    rw [split, List.map_append, List.map_cons]
  exact sorted.sorted _ _ _ names d ⟨s, sorted.found s member, needs⟩

theorem Sorted.sound {ordered : List ComposeService} (sorted : Sorted services ordered) :
    (∀ name, ¬ Relation.TransGen (Depends services) name name) ∧
      ∀ a b, Depends services a b → b ∈ services := by
  have declared : ∀ a b, Depends services a b → a ∈ services := by
    intro a b ⟨s, present, _⟩
    rw [← AList.lookup_isSome, present]
    rfl
  constructor
  · intro name cycle
    have ⟨next, first, _⟩ := Relation.TransGen.head'_iff.mp cycle
    exact sorted.sorted.acyclic (sorted.all name (declared name next first)) cycle
  · intro a b needs
    have ⟨there, _⟩ := sorted.sorted.idxOf_lt (sorted.all a (declared a b needs)) needs
    have ⟨t, member, same⟩ := List.mem_map.mp there
    rw [← same, ← AList.lookup_isSome, sorted.found t member]
    rfl

/-- For every text `ParseCompose` ends without a panic. -/
theorem parseCompose_ordered (yamlText : Text) :
    Orderly (parseCompose yamlText) (fun ordered =>
      (ordered.map ComposeService.name).Nodup ∧
      (∀ s ∈ ordered, s.image ≠ []) ∧
      ∀ before s after, ordered = before ++ s :: after →
        ∀ d ∈ s.dependsOn, d ∈ before.map ComposeService.name) ∧
    ∀ services order, declarations yamlText = .ok (services, order) →
      ((∃ name, Relation.TransGen (Depends services) name name) ∨
        ∃ a b, Depends services a b ∧ b ∉ services) →
      ∃ err, parseCompose yamlText = .error (.error err) := by
  have scanned := orderly_declarations yamlText
  unfold parseCompose
  cases read : declarations yamlText with
  | error stop =>
    rw [read] at scanned
    refine ⟨by cases stop <;> exact scanned, nofun⟩
  | ok found =>
    rw [read] at scanned
    have sort := orderly_topoSort scanned
    simp only [bind, Except.bind]
    split
    · exact ⟨trivial, fun _ _ _ _ => ⟨_, rfl⟩⟩
    · cases result : topoSort found.1 found.2 with
      | error stop =>
        rw [result] at sort
        cases stop with
        | error err => exact ⟨trivial, fun _ _ _ _ => ⟨_, rfl⟩⟩
        | panicked | unfinished => exact sort.elim
      | ok ordered =>
        rw [result] at sort
        have sorted : Sorted found.1 ordered := sort
        have bad : ∀ services order,
            (.ok found : Except (Stop ParseError) (Services × List Text)) = .ok (services, order) →
            ¬ ((∃ name, Relation.TransGen (Depends services) name name) ∨
              ∃ a b, Depends services a b ∧ b ∉ services) := by
          intro services order same wrong
          have here : found = (services, order) := Except.ok.inj same
          rw [here] at sorted
          rcases wrong with ⟨name, cycle⟩ | ⟨a, b, needs, missing⟩
          · exact sorted.sound.1 name cycle
          · exact missing (sorted.sound.2 a b needs)
        simp only
        cases imageless : ordered.find? (fun s => s.image = []) with
        | some s => exact ⟨trivial, fun _ _ _ _ => ⟨_, rfl⟩⟩
        | none =>
          refine ⟨⟨sorted.once, ?_, fun before s after split d needs => sorted.before split needs⟩,
            fun services order same wrong => (bad services order same wrong).elim⟩
          intro s member empty
          have none := List.find?_eq_none.mp imageless s member
          exact none (decide_eq_true empty)

end Porter.Compose
