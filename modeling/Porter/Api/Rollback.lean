import Porter.Api.Deployments

/-!
# What a deployment rolls back to

`handleCreateDeployment` records in every new deployment what it rolls back to, and `rollbackOf`
prefers the record to the deployment before.
-/
namespace Porter.Api.Projects

open Go Sql Store Run

variable (db : ProjectDb)

def createStep (server : Server) (id : String) (db : ProjectDb)
    (call : ProjectRun × Except String DeploymentReq) : ProjectDb :=
  (handleCreateDeployment server call.1 (.start db []) id call.2).1.db

structure Creates (server : Server) (id : String) (db : ProjectDb)
    (call : ProjectRun × Except String DeploymentReq) : Prop where
  succeeded : (handleCreateDeployment server call.1 (.start db []) id call.2).2.succeeded = true
  named : call.1.deploymentID ≠ ""
  fresh : db.deployments.find call.1.deploymentID = none

def newLink (id : String) (run : ProjectRun) : Link :=
  ⟨run.deploymentID, id, currentRollout (listDeployments db (run.deploymentRows 0) id)⟩

theorem SameVersion.link {d x : Deployment} (same : SameVersion d x) : x.link = d.link := by
  obtain ⟨_, _, _, eq⟩ := same
  rw [eq]
  rfl

theorem links_launchDeployment (server : Server) (run : ProjectRun) {s : Session}
    (proj : Project Ref) {d : Deployment} (req : DeploymentReq) (stored : d.link ∈ s.db.links) :
    (launchDeployment server run s proj d req).1.db.links = s.db.links := by
  have rewritten : ∀ x : Deployment, x.link = d.link →
      ∃ link ∈ s.db.links, link.id = x.id ∧ link.rollbackTo = x.rollbackTo := fun x same =>
    ⟨d.link, stored, congrArg Link.id same.symm, congrArg Link.rollbackTo same.symm⟩
  unfold launchDeployment
  split
  · exact links_createDeployment_of_linked _ (rewritten _ rfl)
  · simp only
    unfold bootDeployment
    generalize (fun _ => replicaReq _ _ _ _ _) = spec
    generalize List.range _ = indices
    obtain ⟨written, -⟩ := bootReplicas_statements _ _ _
      ⟨(s.decode req.env).1, proj, some d⟩ indices
    obtain ⟨x, booted, same⟩ := bootReplicas_version _ _ _
      ⟨(s.decode req.env).1, proj, some d⟩ indices d rfl
    have kept : (bootReplicas server run spec ⟨(s.decode req.env).1, proj, some d⟩
        indices).session.db.links = s.db.links := by
      simp only [db_decode] at written
      refine written.links ?_
      rintro y ⟨first, shared, version⟩
      obtain rfl := Option.some.inj shared
      exact rewritten y version.link
    rw [booted, Option.getD_some]
    refine (links_createDeployment_of_linked _ ?_).trans kept
    rw [kept]
    exact rewritten _ same.link

variable {call : ProjectRun × Except String DeploymentReq}

theorem links_createStep {server : Server} {id : String} {db : ProjectDb}
    (creates : Creates server id db call) :
    id ≠ "" ∧ (createStep server id db call).links = db.links ++ [newLink db id call.1] := by
  obtain ⟨req, doc, base, d, -, found, new, accepted, left⟩ :=
    (handleCreateDeployment_cases server call.1 (.start db []) id call.2).resolve_left
      (by simp [creates.succeeded])
  obtain ⟨row, -, keyed, rfl⟩ := getProject_eq_some found
  obtain rfl : row.doc.id = id := keyed
  have link : d.link = newLink db row.doc.id call.1 := by
    rw [← new]
    unfold newLink newDeployment Deployment.link
    simp only [db_load, id_load]
    rfl
  have drawn : d.id = call.1.deploymentID := congrArg Link.id link
  have owner : d.withWeights.projectID = row.doc.id :=
    congrArg Link.projectID ((link_withWeights d).trans link)
  have given : row.doc.id ≠ "" := by
    have admitted : refusesDeployment db d.withWeights = none := by
      unfold createDeploymentError at accepted
      split at accepted
      · cases accepted
      · exact accepted
    rw [← owner]
    exact ((refusesDeployment_eq_none _ _).mp admitted).projectID
  have free : db.deployments.find d.id = none := by
    rw [drawn]
    exact creates.fresh
  have first : (((Session.start db []).load row.doc).1.createDeployment call.1 d).1.db.links =
      db.links ++ [d.link] := by
    unfold Session.createDeployment
    simp only [db_load]
    rw [createDeployment_accepted accepted]
    exact links_storeDeployment_of_free free
  have launched : d.withWeights.link ∈
      (((Session.start db []).load row.doc).1.createDeployment call.1 d).1.db.links := by
    rw [first, link_withWeights]
    exact List.mem_append_right _ List.mem_cons_self
  refine ⟨given, ?_⟩
  unfold createStep
  rw [left, ← link, ← first]
  exact links_launchDeployment _ _ _ _ launched

/-- Rolling back goes to the greatest smaller revision of the project, or nowhere. -/
def RollsToPrevious (projectID id : String) : Prop :=
  match rollbackOf (listDeployments db .clean projectID) id with
  | some target => IsGreatest (db.deployments.serialsBelow (·.projectID = projectID) id)
      (db.deployments.serial target.id)
  | none => db.deployments.serialsBelow (·.projectID = projectID) id = ∅

theorem rollbackFrom_append {deps later rest : List Deployment} {id : String}
    (others : ∀ d ∈ later, d.id ≠ id) :
    rollbackFrom deps id (later ++ rest) = rollbackFrom deps id rest := by
  induction later with
  | nil => rfl
  | cons d behind recurse =>
    rw [List.cons_append, rollbackFrom, if_pos (others d List.mem_cons_self)]
    exact recurse (fun other member => others other (List.mem_cons_of_mem d member))

theorem link_readBack (d : Deployment) : d.readBack.link = d.link := by
  obtain ⟨route, same⟩ := readBack_eq d
  rw [same]
  rfl

theorem listDeployments_clean {projectID : String} (given : projectID ≠ "") :
    listDeployments db .clean projectID =
      ((db.deployments.rows.filter (·.projectID = projectID)).map Deployment.readBack).reverse := by
  unfold listDeployments
  rw [if_neg given, RowsFault.delivered_clean, List.map_reverse]
  rfl

section Split

variable {db : ProjectDb} {projectID : String} {pre post : List Deployment} {d : Deployment}

variable (given : projectID ≠ "")
  (split : db.deployments.rows.filter (·.projectID = projectID) = pre ++ d :: post)
  (recorded : d.rollbackTo = "" ∨ ∃ other ∈ pre, other.id = d.rollbackTo)

include given split recorded

theorem id_rollbackOf :
    (rollbackOf (listDeployments db .clean projectID) d.id).map (·.id) =
      if d.rollbackTo = "" then pre.getLast?.map (·.id) else some d.rollbackTo := by
  have listed : listDeployments db .clean projectID =
      (post.map Deployment.readBack).reverse ++
        d.readBack :: (pre.map Deployment.readBack).reverse := by
    rw [listDeployments_clean _ given, split]
    simp
  have others : ∀ other ∈ (post.map Deployment.readBack).reverse, other.id ≠ d.readBack.id := by
    have distinct := nodup_listDeployments db projectID
    rw [listed, List.map_append, List.map_cons, List.nodup_append] at distinct
    intro other member
    exact distinct.2.2 other.id (List.mem_map_of_mem member) d.readBack.id List.mem_cons_self
  have record : d.readBack.rollbackTo = d.rollbackTo := congrArg Link.rollbackTo (link_readBack d)
  rw [listed, ← id_readBack d, rollbackOf, rollbackFrom_append others, rollbackFrom,
    if_neg (not_not.mpr rfl), ← listed, record]
  by_cases blank : d.rollbackTo = ""
  · rw [if_neg (not_not.mpr blank), if_pos blank, List.head?_reverse, List.getLast?_map,
      Option.map_map]
    congr 1
    funext earlier
    exact id_readBack earlier
  · obtain ⟨other, member, same⟩ := recorded.resolve_left blank
    have stored : other.readBack ∈ listDeployments db .clean projectID := by
      rw [listed, List.mem_append, List.mem_cons, List.mem_reverse]
      exact Or.inr (Or.inr (List.mem_reverse.mpr (List.mem_map_of_mem member)))
    have some : ((listDeployments db .clean projectID).find? (·.id = d.rollbackTo)).isSome = true :=
      List.find?_isSome.mpr ⟨_, stored, by simp [same]⟩
    obtain ⟨target, found⟩ := Option.isSome_iff_exists.mp some
    rw [if_pos blank, if_neg blank, found, Option.some_or, Option.map_some]
    simpa using List.find?_some found

theorem rollsToPrevious_iff :
    RollsToPrevious db projectID d.id ↔
      d.rollbackTo = "" ∨ pre.getLast?.map (·.id) = some d.rollbackTo := by
  have found := id_rollbackOf given split recorded
  have stated : RollsToPrevious db projectID d.id ↔
      ((rollbackOf (listDeployments db .clean projectID) d.id).map (·.id)).elim
        (db.deployments.serialsBelow (·.projectID = projectID) d.id = ∅)
        (fun id => IsGreatest (db.deployments.serialsBelow (·.projectID = projectID) d.id)
          (db.deployments.serial id)) := by
    unfold RollsToPrevious
    cases rollbackOf (listDeployments db .clean projectID) d.id <;> rfl
  rw [stated, found]
  rcases List.eq_nil_or_concat' pre with rfl | ⟨front, last, rfl⟩
  · have blank : d.rollbackTo = "" := recorded.resolve_right (by simp)
    rw [if_pos blank]
    exact iff_of_true (Table.serialsBelow_first split) (Or.inl blank)
  · have greatest := Table.isGreatest_serialsBelow split
    rw [List.getLast?_concat, Option.map_some]
    by_cases blank : d.rollbackTo = ""
    · rw [if_pos blank]
      exact iff_of_true greatest (Or.inl blank)
    · obtain ⟨other, member, same⟩ := recorded.resolve_left blank
      have stored : ∀ x ∈ front ++ [last], x ∈ db.deployments.rows := by
        intro x listed
        have kept : x ∈ db.deployments.rows.filter (·.projectID = projectID) := by
          rw [split]
          exact List.mem_append_left _ listed
        exact (List.mem_filter.mp kept).1
      rw [if_neg blank, ← same]
      constructor
      · intro reached
        have number := reached.unique greatest
        rw [Table.serial_inj (stored other member) (stored last (by simp)) number]
        exact Or.inr rfl
      · rintro (impossible | before)
        · exact absurd (same ▸ impossible) blank
        · rw [← Option.some.inj before]
          exact greatest

end Split

def lineage (links : List Link) (projectID : String) : List String :=
  (links.filter (·.projectID = projectID)).map (·.id)

theorem lineage_append (first second : List Link) (projectID : String) :
    lineage (first ++ second) projectID = lineage first projectID ++ lineage second projectID := by
  simp [lineage]

theorem lineage_map_link (rows : List Deployment) (projectID : String) :
    lineage (rows.map Deployment.link) projectID =
      (rows.filter (·.projectID = projectID)).map (·.id) := by
  unfold lineage
  rw [List.filter_map, List.map_map]
  rfl

theorem ids_listDeployments {projectID : String} (given : projectID ≠ "") :
    (listDeployments db .clean projectID).map (·.id) = (lineage db.links projectID).reverse := by
  rw [listDeployments_clean _ given, List.map_reverse, List.map_map, ProjectDb.links,
    lineage_map_link]
  congr 2
  funext d
  exact id_readBack d

def ReadsNewest (projectID : String) (run : ProjectRun) : Prop :=
  ∀ last, (listDeployments db (run.deploymentRows 0) projectID).getLast? = some last →
    ∃ newest, (listDeployments db .clean projectID).head? = some newest ∧ newest.id = last.id

def Named : Prop := ∀ link ∈ db.links, link.id ≠ ""

variable {calls : List (ProjectRun × Except String DeploymentReq)}

section Creation

variable {server : Server} {id : String}

variable {db : ProjectDb}

theorem readsNewest_iff (named : Named db) (given : id ≠ "") (run : ProjectRun) :
    ReadsNewest db id run ↔
      (newLink db id run).rollbackTo = "" ∨
        (lineage db.links id).getLast? = some (newLink db id run).rollbackTo := by
  have newest :
      (listDeployments db .clean id).head?.map (·.id) = (lineage db.links id).getLast? := by
    rw [← List.head?_map, ids_listDeployments _ given, List.head?_reverse]
  rw [← newest]
  unfold ReadsNewest newLink currentRollout
  cases read : (listDeployments db (run.deploymentRows 0) id).getLast? with
  | none => simp
  | some last =>
    obtain ⟨row, stored, same⟩ := exists_of_listDeployments (List.mem_of_getLast? read)
    have filled : last.id ≠ "" := by
      rw [same, id_readBack]
      exact named row.link (List.mem_map_of_mem stored)
    simp [filled]

theorem rollbackTo_newLink (db : ProjectDb) (run : ProjectRun) :
    (newLink db id run).rollbackTo = "" ∨ (newLink db id run).rollbackTo ∈ lineage db.links id := by
  unfold newLink currentRollout
  cases read : (listDeployments db (run.deploymentRows 0) id).getLast? with
  | none => exact Or.inl rfl
  | some last =>
    obtain ⟨row, stored, owner, rfl⟩ := owner_of_listed (List.mem_of_getLast? read)
    refine Or.inr (List.mem_map.mpr ⟨row.link, List.mem_filter.mpr ⟨?_, decide_eq_true owner⟩, ?_⟩)
    · exact List.mem_map_of_mem ((Table.find_eq_some _ _ _).mp stored).1
    · exact (id_readBack _).symm

theorem links_run (created : Guarded (createStep server id) (Creates server id) db calls) :
    ∃ new, (run (createStep server id) db calls).links = db.links ++ new ∧
      new.map (·.projectID) = List.replicate calls.length id := by
  induction calls generalizing db with
  | nil => exact ⟨[], by simp [run], rfl⟩
  | cons call rest recurse =>
    obtain ⟨creates, later⟩ := created
    obtain ⟨new, links, owners⟩ := recurse later
    refine ⟨newLink db id call.1 :: new, ?_, ?_⟩
    · rw [run_cons, links, (links_createStep creates).2, List.append_assoc, List.singleton_append]
    · rw [List.map_cons, owners]
      rfl

theorem Named.createStep (named : Named db) (creates : Creates server id db call) :
    Named (createStep server id db call) := by
  intro link member
  rw [(links_createStep creates).2] at member
  rcases List.mem_append.mp member with old | new
  · exact named link old
  · rw [List.mem_singleton.mp new]
    exact creates.named

theorem created_rolls_iff {before after : List (ProjectRun × Except String DeploymentReq)}
    (named : Named db)
    (created : Guarded (createStep server id) (Creates server id) db (before ++ call :: after)) :
    RollsToPrevious (run (createStep server id) db (before ++ call :: after)) id
        call.1.deploymentID ↔
      ReadsNewest (run (createStep server id) db before) id call.1 := by
  obtain ⟨earlier, creates, later⟩ := (guarded_append _ _ _ _ _).mp created
  have known : Named (run (createStep server id) db before) :=
    run_invariant _ _ Named (fun _ _ => Named.createStep) db before named earlier
  rw [run_append, run_cons]
  generalize run (createStep server id) db before = state at creates later known ⊢
  obtain ⟨given, step⟩ := links_createStep creates
  obtain ⟨new, links, -⟩ := links_run later
  -- The row of the deployment stands behind the rows that were there when it was created.
  rw [step, List.append_assoc, List.singleton_append] at links
  obtain ⟨front, rest, rows, first, second⟩ := List.map_eq_append_iff.mp links
  obtain ⟨d, back, rfl, link, -⟩ := List.map_eq_cons_iff.mp second
  have drawn : d.id = call.1.deploymentID := congrArg Link.id link
  have owner : d.projectID = id := congrArg Link.projectID link
  have record : (newLink state id call.1).rollbackTo = d.rollbackTo :=
    congrArg Link.rollbackTo link.symm
  have ids : (front.filter (·.projectID = id)).map (·.id) = lineage state.links id := by
    rw [← lineage_map_link, first]
  have split : (run (createStep server id) (createStep server id state call)
      after).deployments.rows.filter (·.projectID = id) =
        front.filter (·.projectID = id) ++ d :: back.filter (·.projectID = id) := by
    rw [rows, List.filter_append, List.filter_cons_of_pos (by simpa using owner)]
  have recorded : d.rollbackTo = "" ∨
      ∃ other ∈ front.filter (·.projectID = id), other.id = d.rollbackTo := by
    rw [← record, ← List.mem_map, ids]
    exact rollbackTo_newLink state call.1
  rw [← drawn, rollsToPrevious_iff given split recorded, readsNewest_iff known given, record,
    ← ids, List.getLast?_map]

theorem readsNewest_clean_iff {run : ProjectRun} (clean : run.deploymentRows 0 = .clean) :
    ReadsNewest db id run ↔ (listDeployments db .clean id).length ≤ 1 := by
  have distinct := nodup_listDeployments db id
  unfold ReadsNewest
  rw [clean]
  generalize listDeployments db .clean id = listed at distinct ⊢
  rcases listed with _ | ⟨newest, _ | ⟨second, rest⟩⟩
  · simp
  · simp
  · simp only [List.length_cons, List.head?_cons, Option.some.injEq, exists_eq_left']
    constructor
    · intro ends
      obtain ⟨last, read⟩ : ∃ last, (newest :: second :: rest).getLast? = some last :=
        ⟨_, List.getLast?_eq_some_getLast (List.cons_ne_nil _ _)⟩
      have behind : last ∈ second :: rest := by
        exact List.mem_of_getLast? read
      have again : newest.id ∈ (second :: rest).map Deployment.id := by
        rw [ends last read]
        exact List.mem_map_of_mem behind
      exact absurd again (List.nodup_cons.mp distinct).1
    · omega

theorem length_listDeployments_run (given : id ≠ "")
    (created : Guarded (createStep server id) (Creates server id) db calls) :
    (listDeployments (run (createStep server id) db calls) .clean id).length =
      (listDeployments db .clean id).length + calls.length := by
  have count : ∀ state : ProjectDb,
      (listDeployments state .clean id).length = (lineage state.links id).length := by
    intro state
    have ids := congrArg List.length (ids_listDeployments state given)
    rwa [List.length_map, List.length_reverse] at ids
  obtain ⟨new, links, owners⟩ := links_run created
  have own : ∀ link ∈ new, link.projectID = id := by
    intro link member
    have listed : link.projectID ∈ new.map (·.projectID) := List.mem_map_of_mem member
    rw [owners] at listed
    exact List.eq_of_mem_replicate listed
  have added : (lineage new id).length = calls.length := by
    have lengths := congrArg List.length owners
    rw [List.length_map, List.length_replicate] at lengths
    unfold lineage
    rw [List.filter_eq_self.mpr (fun link member => decide_eq_true (own link member)),
      List.length_map, lengths]
  rw [count, count, links, lineage_append, List.length_append, added]

theorem all_roll_iff (named : Named db)
    (created : Guarded (createStep server id) (Creates server id) db calls) :
    (∀ call ∈ calls,
        RollsToPrevious (run (createStep server id) db calls) id call.1.deploymentID) ↔
      Guarded (createStep server id) (fun db call => ReadsNewest db id call.1) db calls := by
  rw [guarded_iff]
  constructor
  · rintro rolls before call after rfl
    exact (created_rolls_iff named created).mp (rolls call (by simp))
  · intro reads call member
    obtain ⟨before, after, rfl⟩ := List.append_of_mem member
    exact (created_rolls_iff named created).mpr (reads before call after rfl)

theorem all_readNewest_iff (clean : ∀ call ∈ calls, call.1.deploymentRows 0 = .clean)
    (created : Guarded (createStep server id) (Creates server id) db calls) :
    Guarded (createStep server id) (fun db call => ReadsNewest db id call.1) db calls ↔
      calls = [] ∨ (listDeployments db .clean id).length + calls.length ≤ 2 := by
  rw [guarded_iff]
  have count : ∀ before call after, calls = before ++ call :: after →
      (ReadsNewest (run (createStep server id) db before) id call.1 ↔
        (listDeployments db .clean id).length + before.length ≤ 1) := by
    intro before call after split
    rw [split] at created clean
    obtain ⟨earlier, creates, -⟩ := (guarded_append _ _ _ _ _).mp created
    rw [readsNewest_clean_iff (clean call (by simp)),
      length_listDeployments_run (links_createStep creates).1 earlier]
  constructor
  · intro reads
    rcases List.eq_nil_or_concat' calls with none | ⟨front, last, split⟩
    · exact Or.inl none
    · have short := (count front last [] split).mp (reads front last [] split)
      refine Or.inr ?_
      rw [split, List.length_append, List.length_singleton]
      omega
  · rintro (none | short) before call after split
    · simp [none] at split
    · rw [count before call after split]
      rw [split, List.length_append, List.length_cons] at short
      omega

end Creation

/-- After requests that create deployments, each rolls back to the previous revision exactly when
every request read the newest deployment of the project last, or none. -/
theorem rolls_to_previous_iff (server : Server) (db : ProjectDb) (id : String)
    (calls : List (ProjectRun × Except String DeploymentReq))
    (named : ∀ row ∈ db.deployments.rows, row.id ≠ "")
    (created : Guarded (createStep server id) (Creates server id) db calls) :
    ((∀ call ∈ calls,
        RollsToPrevious (run (createStep server id) db calls) id call.1.deploymentID) ↔
      Guarded (createStep server id) (fun db call => ReadsNewest db id call.1) db calls) ∧
    ((∀ call ∈ calls, call.1.deploymentRows 0 = .clean) →
      ((∀ call ∈ calls,
          RollsToPrevious (run (createStep server id) db calls) id call.1.deploymentID) ↔
        calls = [] ∨ (listDeployments db .clean id).length + calls.length ≤ 2)) := by
  have known : Named db := by
    intro link member
    obtain ⟨row, stored, rfl⟩ := List.mem_map.mp member
    exact named row stored
  have each := all_roll_iff known created
  exact ⟨each, fun clean => each.trans (all_readNewest_iff clean created)⟩

def bareDb : ProjectDb where
  projects := Table.single _ shopRow
  secrets := Table.empty _
  replicas := Table.empty _
  deployments := Table.empty _
  owned := nofun

def shopCreation (deploymentID : String) : ProjectRun × Except String DeploymentReq :=
  ({ shopRun with deploymentID := deploymentID },
    .ok ⟨"base://alpine", none, deploymentID, "", "", 0, 1, ""⟩)

theorem rolls_to_previous_iff_pair :
    Guarded (createStep shopServer shopID) (Creates shopServer shopID) bareDb
        [shopCreation "d1", shopCreation "d2"] ∧
      ∀ call ∈ [shopCreation "d1", shopCreation "d2"],
        RollsToPrevious (run (createStep shopServer shopID) bareDb
          [shopCreation "d1", shopCreation "d2"]) shopID call.1.deploymentID := by
  have created : Guarded (createStep shopServer shopID) (Creates shopServer shopID) bareDb
      [shopCreation "d1", shopCreation "d2"] :=
    ⟨⟨by decide, by decide, by decide⟩, ⟨by decide, by decide, by decide⟩, trivial⟩
  refine ⟨created, ((rolls_to_previous_iff _ _ _ _ ?_ created).2 ?_).mpr
    (Or.inr (by decide))⟩
  · intro row impossible
    cases impossible
  · intro call member
    rcases List.mem_pair.mp member with rfl | rfl <;> rfl

theorem third_rolls_to_first :
    ∃ db, run (createStep shopServer shopID) bareDb
        [shopCreation "d1", shopCreation "d2", shopCreation "d3"] = db ∧
      Guarded (createStep shopServer shopID) (Creates shopServer shopID) bareDb
        [shopCreation "d1", shopCreation "d2", shopCreation "d3"] ∧
      (rollbackOf (listDeployments db .clean shopID) "d3").map (·.id) = some "d1" ∧
      ["d1", "d2", "d3"].map db.deployments.serial = [0, 1, 2] ∧
      ¬ RollsToPrevious db shopID "d3" := by
  have created : Guarded (createStep shopServer shopID) (Creates shopServer shopID) bareDb
      [shopCreation "d1", shopCreation "d2", shopCreation "d3"] :=
    ⟨⟨by decide, by decide, by decide⟩, ⟨by decide, by decide, by decide⟩,
      ⟨by decide, by decide, by decide⟩, trivial⟩
  refine ⟨_, rfl, created, by decide, by decide, ?_⟩
  have named : Named bareDb := by
    intro link impossible
    cases impossible
  have split : Guarded (createStep shopServer shopID) (Creates shopServer shopID) bareDb
      ([shopCreation "d1", shopCreation "d2"] ++ shopCreation "d3" :: []) := created
  intro rolls
  have reads := (created_rolls_iff named split).mp rolls
  rw [readsNewest_clean_iff rfl] at reads
  exact absurd reads (by decide)

end Porter.Api.Projects
