import Porter.Sql.Sequence
import Porter.Store.Pools

/-!
# Statements on deployments

A request reaches the tables through single statements.
-/
namespace Porter.Store

open Sql

variable {db before after : ProjectDb} {d : Deployment} {writes : Deployment → Prop}

/-- A statement of a request that writes only deployments that `writes` allows. -/
inductive Statement (writes : Deployment → Prop) : ProjectDb → ProjectDb → Prop where
  | putProject (db : ProjectDb) (fault : Option String) (row : ProjectRow) :
      Statement writes db (putProject db fault row)
  | putVM (db : ProjectDb) (fault : Option String) (vm : VM) :
      Statement writes db (putVM db fault vm)
  | deleteReplicas (db : ProjectDb) (fault : Option String) (p : VM → Bool) :
      Statement writes db (deleteReplicas db fault p)
  | createDeployment (db : ProjectDb) (fault : Option String) (d : Deployment)
      (allowed : writes d) : Statement writes db (createDeployment db fault d)

abbrev Statements (writes : Deployment → Prop) : ProjectDb → ProjectDb → Prop :=
  Relation.ReflTransGen (Statement writes)

theorem Statement.mono {few many : Deployment → Prop} (wider : ∀ d, few d → many d)
    (made : Statement few before after) : Statement many before after := by
  cases made with
  | putProject fault row => exact .putProject before fault row
  | putVM fault vm => exact .putVM before fault vm
  | deleteReplicas fault p => exact .deleteReplicas before fault p
  | createDeployment fault d allowed => exact .createDeployment before fault d (wider d allowed)

theorem Statements.mono {few many : Deployment → Prop} (wider : ∀ d, few d → many d)
    (made : Statements few before after) : Statements many before after :=
  Relation.ReflTransGen.mono (fun _ _ => Statement.mono wider) before after made

theorem Statements.invariant {inv : ProjectDb → Prop}
    (preserved : ∀ {before after}, Statement writes before after → inv before → inv after)
    (made : Statements writes before after) (holds : inv before) : inv after := by
  induction made with
  | refl => exact holds
  | tail _ last recurse => exact preserved last recurse

@[simp] theorem id_withWeights (d : Deployment) : d.withWeights.id = d.id := by
  unfold Deployment.withWeights
  simp only
  split <;> split <;> rfl

theorem withWeights_eq (d : Deployment) : ∃ route rollout,
    d.withWeights = { d with routeWeight := route, rolloutPercent := rollout } := by
  unfold Deployment.withWeights
  simp only
  split
  · split
    · exact ⟨_, _, rfl⟩
    · exact ⟨_, _, rfl⟩
  · split
    · exact ⟨_, _, rfl⟩
    · exact ⟨_, _, rfl⟩

variable {fault : Option String}

theorem createDeployment_refused {err : String}
    (refused : createDeploymentError db fault d = some err) : createDeployment db fault d = db := by
  unfold createDeployment
  rw [refused]

theorem createDeployment_accepted (accepted : createDeploymentError db fault d = none) :
    createDeployment db fault d = storeDeployment db d := by
  unfold createDeployment
  rw [accepted]
  rfl

theorem find_storeDeployment_self (db : ProjectDb) (d : Deployment) :
    (storeDeployment db d).deployments.find d.id =
      some (((db.deployments.find d.id).map d.withWeights.overwrite).getD d.withWeights) := by
  have found := Table.find_upsert_self db.deployments d.withWeights d.withWeights.overwrite
    d.withWeights.overwrite_id
  rw [id_withWeights] at found
  exact found

variable {id : String}

theorem find_storeDeployment_of_ne (db : ProjectDb) (d : Deployment)
    (other : id ≠ d.id) : (storeDeployment db d).deployments.find id = db.deployments.find id :=
  Table.find_upsert_of_ne _ _ _ _ id (by rwa [id_withWeights])

theorem find_createDeployment_of_ne (db : ProjectDb) (fault : Option String) (d : Deployment)
    (id : String) (other : id ≠ d.id) :
    (createDeployment db fault d).deployments.find id = db.deployments.find id := by
  cases result : createDeploymentError db fault d with
  | some err => rw [createDeployment_refused result]
  | none =>
    rw [createDeployment_accepted result]
    exact find_storeDeployment_of_ne db d other

theorem find_createDeployment_self (accepted : createDeploymentError db fault d = none) :
    (createDeployment db fault d).deployments.find d.id =
      some (((db.deployments.find d.id).map d.withWeights.overwrite).getD d.withWeights) := by
  rw [createDeployment_accepted accepted]
  exact find_storeDeployment_self db d

theorem find_createDeployment_cases (db : ProjectDb) (fault : Option String) (d : Deployment) :
    (createDeployment db fault d).deployments.find d.id = db.deployments.find d.id ∨
      createDeploymentError db fault d = none ∧
        (createDeployment db fault d).deployments.find d.id =
          some (((db.deployments.find d.id).map d.withWeights.overwrite).getD d.withWeights) := by
  cases result : createDeploymentError db fault d with
  | some err =>
    rw [createDeployment_refused result]
    exact Or.inl rfl
  | none => exact Or.inr ⟨rfl, find_createDeployment_self result⟩

structure Grows (before after : ProjectDb) : Prop where
  projects : ∀ id, before.hasProject id = true → after.hasProject id = true
  deployments : ∀ id, (before.deployments.find id).isSome → (after.deployments.find id).isSome

theorem Grows.refl (db : ProjectDb) : Grows db db := ⟨fun _ h => h, fun _ h => h⟩

theorem Grows.trans {first second third : ProjectDb} (left : Grows first second)
    (right : Grows second third) : Grows first third :=
  ⟨fun id h => right.projects id (left.projects id h),
    fun id h => right.deployments id (left.deployments id h)⟩

theorem Grows.of_same (projects : after.projects = before.projects)
    (deployments : after.deployments = before.deployments) : Grows before after := by
  constructor
  · intro id stored
    rw [hasProject_of_projects projects]
    exact stored
  · intro id stored
    rw [deployments]
    exact stored

theorem grows_createDeployment (db : ProjectDb) (fault : Option String) (d : Deployment) :
    Grows db (createDeployment db fault d) := by
  constructor
  · intro id stored
    rw [hasProject_of_projects (sameProjects_createDeployment _ _ d).1]
    exact stored
  · intro id stored
    by_cases same : id = d.id
    · subst same
      rcases find_createDeployment_cases _ _ d with kept | ⟨-, new⟩
      · rw [kept]
        exact stored
      · rw [new]
        rfl
    · rw [find_createDeployment_of_ne _ _ d id same]
      exact stored

theorem Statement.grows (made : Statement writes before after) : Grows before after := by
  cases made with
  | putProject fault row =>
    constructor
    · intro id
      exact hasProject_putProject _ _ _ id
    · intro id stored
      rw [deployments_putProject]
      exact stored
  | putVM fault vm =>
    exact .of_same (sameProjects_putVM _ _ _).1 (deployments_putVM _ _ _)
  | deleteReplicas fault p =>
    exact .of_same (sameProjects_deleteReplicas _ _ p).1
      (deployments_deleteReplicas before fault p)
  | createDeployment fault d _ => exact grows_createDeployment before fault d

theorem Statements.grows (made : Statements writes before after) : Grows before after := by
  induction made with
  | refl => exact Grows.refl before
  | tail _ last recurse => exact recurse.trans last.grows

theorem Statements.find_of_ne (other : ∀ d, writes d → id ≠ d.id)
    (made : Statements writes before after) :
    after.deployments.find id = before.deployments.find id := by
  induction made with
  | refl => rfl
  | tail _ last recurse =>
    rw [← recurse]
    cases last with
    | putProject fault row => rw [deployments_putProject]
    | putVM fault vm => rw [deployments_putVM]
    | deleteReplicas fault p => rw [deployments_deleteReplicas]
    | createDeployment fault d allowed =>
      exact find_createDeployment_of_ne _ _ d id (other d allowed)

theorem Statements.projectID (made : Statements writes before after)
    {row : Deployment} (stored : before.deployments.find id = some row) :
    ∃ later, after.deployments.find id = some later ∧ later.projectID = row.projectID := by
  induction made with
  | refl => exact ⟨row, stored, rfl⟩
  | @tail middle next _ last recurse =>
    have ⟨later, found, owner⟩ := recurse
    cases last with
    | putProject fault row => exact ⟨later, by rwa [deployments_putProject], owner⟩
    | putVM fault vm => exact ⟨later, by rwa [deployments_putVM], owner⟩
    | deleteReplicas fault p => exact ⟨later, by rwa [deployments_deleteReplicas], owner⟩
    | createDeployment fault d _ =>
      by_cases same : id = d.id
      · subst same
        rcases find_createDeployment_cases _ _ d with kept | ⟨-, written⟩
        · exact ⟨later, kept.trans found, owner⟩
        · rw [found] at written
          exact ⟨_, written, owner⟩
      · exact ⟨later, (find_createDeployment_of_ne _ _ d id same).trans found, owner⟩

theorem Statements.vmIDs {holds : List String → Prop}
    (written : ∀ d, writes d → d.id = id → holds d.vmIDs) (made : Statements writes before after)
    (stored : ∀ row, before.deployments.find id = some row → holds row.vmIDs) :
    ∀ row, after.deployments.find id = some row → holds row.vmIDs := by
  induction made with
  | refl => exact stored
  | @tail middle _ _ last known =>
    intro row found
    cases last with
    | putProject fault new => exact known row (by rwa [deployments_putProject] at found)
    | putVM fault vm => exact known row (by rwa [deployments_putVM] at found)
    | deleteReplicas fault p => exact known row (by rwa [deployments_deleteReplicas] at found)
    | createDeployment fault d allowed =>
      by_cases same : d.id = id
      · have own := written d allowed same
        rw [← vmIDs_withWeights] at own
        rw [← same] at found known
        rcases find_createDeployment_cases _ _ d with kept | ⟨-, new⟩
        · exact known row (kept ▸ found)
        · rw [new] at found
          rw [← Option.some.inj found]
          cases middle.deployments.find d.id with
          | none | some => exact own
      · rw [find_createDeployment_of_ne _ _ d id (Ne.symm same)] at found
        exact known row found

structure Link where
  id : String
  projectID : String
  rollbackTo : String

def Deployment.link (d : Deployment) : Link := ⟨d.id, d.projectID, d.rollbackTo⟩

@[simp] theorem link_withWeights (d : Deployment) : d.withWeights.link = d.link := by
  obtain ⟨route, rollout, same⟩ := withWeights_eq d
  rw [same]
  rfl

def ProjectDb.links (db : ProjectDb) : List Link := db.deployments.rows.map Deployment.link

theorem links_storeDeployment_of_free (free : db.deployments.find d.id = none) :
    (storeDeployment db d).links = db.links ++ [d.link] := by
  unfold ProjectDb.links storeDeployment
  rw [Table.rows_upsert_of_free _ _ (by rwa [id_withWeights]), List.map_append, List.map_singleton,
    link_withWeights]

theorem links_createDeployment_of_linked (fault : Option String)
    (linked : ∃ link ∈ db.links, link.id = d.id ∧ link.rollbackTo = d.rollbackTo) :
    (createDeployment db fault d).links = db.links := by
  cases result : createDeploymentError db fault d with
  | some err => rw [createDeployment_refused result]
  | none =>
    rw [createDeployment_accepted result]
    obtain ⟨_, member, keyed, same⟩ := linked
    obtain ⟨old, stored, rfl⟩ := List.mem_map.mp member
    have taken : db.deployments.find d.withWeights.id = some old :=
      (Table.find_eq_some _ _ _).mpr ⟨stored, keyed.trans (id_withWeights d).symm⟩
    have rollback : d.withWeights.rollbackTo = d.rollbackTo :=
      congrArg Link.rollbackTo (link_withWeights d)
    refine Table.map_rows_upsert_of_taken _ taken Deployment.link ?_
    unfold Deployment.link Deployment.overwrite
    rw [rollback, ← same]
    rfl

theorem Statements.links
    (written : ∀ d, writes d →
      ∃ link ∈ before.links, link.id = d.id ∧ link.rollbackTo = d.rollbackTo)
    (made : Statements writes before after) : after.links = before.links := by
  induction made with
  | refl => rfl
  | tail _ last known =>
    rw [← known]
    cases last with
    | putProject fault row =>
      exact congrArg (List.map _ ∘ Table.rows) (deployments_putProject _ _ _)
    | putVM fault vm => exact congrArg (List.map _ ∘ Table.rows) (deployments_putVM _ _ _)
    | deleteReplicas fault p =>
      exact congrArg (List.map _ ∘ Table.rows) (deployments_deleteReplicas _ _ _)
    | createDeployment fault d allowed =>
      apply links_createDeployment_of_linked
      rw [known]
      exact written d allowed

structure Fits (db : ProjectDb) (d : Deployment) : Prop where
  projectID : d.projectID ≠ ""
  versionLabel : d.versionLabel ≠ ""
  guestBase : d.guestBase ≠ ""
  environment : d.environment ≠ ""
  buildStatus : d.buildStatus ∈ buildStatuses
  project : db.hasProject d.projectID = true
  rollbackTo : d.rollbackTo ≠ "" → (db.deployments.find d.rollbackTo).isSome

theorem nullColumn_eq_none (d : Deployment) :
    d.nullColumn = none ↔ d.projectID ≠ "" ∧ d.versionLabel ≠ "" ∧ d.guestBase ≠ "" ∧
      d.environment ≠ "" := by
  unfold Deployment.nullColumn
  by_cases project : d.projectID = ""
  · simp [project]
  · by_cases label : d.versionLabel = ""
    · simp [project, label]
    · by_cases base : d.guestBase = ""
      · simp [project, label, base]
      · simp [project, label, base]

theorem refusesDeployment_eq_none (db : ProjectDb) (d : Deployment) :
    refusesDeployment db d = none ↔ Fits db d := by
  unfold refusesDeployment
  cases column : d.nullColumn with
  | some name =>
    constructor
    · intro impossible
      cases impossible
    · intro fits
      have none := (nullColumn_eq_none d).mpr
        ⟨fits.projectID, fits.versionLabel, fits.guestBase, fits.environment⟩
      rw [none] at column
      cases column
  | none =>
    have ⟨projectID, versionLabel, guestBase, environment⟩ := (nullColumn_eq_none d).mp column
    by_cases status : d.buildStatus ∈ buildStatuses
    · rw [if_neg (not_not.mpr status)]
      cases project : db.hasProject d.projectID with
      | false =>
        constructor
        · intro impossible
          cases impossible
        · intro fits
          rw [fits.project] at project
          cases project
      | true =>
        constructor
        · intro admitted
          have linked : d.rollbackTo ≠ "" → (db.deployments.find d.rollbackTo).isSome := by
            intro given
            cases found : db.deployments.find d.rollbackTo with
            | some _ => rfl
            | none => simp [given, found] at admitted
          exact ⟨projectID, versionLabel, guestBase, environment, status, project, linked⟩
        · intro fits
          by_cases given : d.rollbackTo = ""
          · simp [given]
          · have linked := fits.rollbackTo given
            rw [Option.isSome_iff_ne_none] at linked
            simp [given, linked]
    · constructor
      · intro impossible
        rw [if_pos status] at impossible
        cases impossible
      · intro fits
        exact absurd fits.buildStatus status

theorem Fits.grows (fits : Fits before d) (grown : Grows before after) : Fits after d :=
  { fits with
    project := grown.projects _ fits.project
    rollbackTo := fun given => grown.deployments _ (fits.rollbackTo given) }

theorem Fits.withWeights (fits : Fits db d) : Fits db d.withWeights := by
  have ⟨route, rollout, same⟩ := withWeights_eq d
  rw [same]
  exact { fits with }

theorem Fits.accepted (fits : Fits db d) : createDeploymentError db none d = none :=
  (refusesDeployment_eq_none db d.withWeights).mpr fits.withWeights

theorem fits_of_accepted
    (accepted : createDeploymentError db fault d = none) : Fits db d.withWeights := by
  cases fault with
  | some err => cases accepted
  | none => exact (refusesDeployment_eq_none db d.withWeights).mp accepted

theorem createDeployment_of_status (unknown : d.buildStatus ∉ buildStatuses) (db : ProjectDb)
    (fault : Option String) : createDeployment db fault d = db := by
  cases result : createDeploymentError db fault d with
  | some err => exact createDeployment_refused result
  | none =>
    have fits := fits_of_accepted result
    have ⟨route, rollout, same⟩ := withWeights_eq d
    rw [same] at fits
    exact absurd fits.buildStatus unknown

def Sound (db : ProjectDb) : Prop :=
  ∀ id d, db.deployments.find id = some d → Fits db d

theorem Statement.sound (made : Statement writes before after) (sound : Sound before) :
    Sound after := by
  have grown := made.grows
  cases made with
  | putProject fault row =>
    intro id d found
    rw [deployments_putProject] at found
    exact (sound id d found).grows grown
  | putVM fault vm =>
    intro id d found
    rw [deployments_putVM] at found
    exact (sound id d found).grows grown
  | deleteReplicas fault p =>
    intro id d found
    rw [deployments_deleteReplicas] at found
    exact (sound id d found).grows grown
  | createDeployment fault new _ =>
    intro id d found
    by_cases same : id = new.id
    · subst same
      rcases find_createDeployment_cases _ _ _ with kept | ⟨accepted, written⟩
      · rw [kept] at found
        exact (sound _ d found).grows grown
      · have fits := fits_of_accepted accepted
        rw [written] at found
        cases old : before.deployments.find new.id with
        | none =>
          rw [old] at found
          cases found
          exact fits.grows grown
        | some row =>
          rw [old] at found
          cases found
          have stored := sound _ row old
          exact Fits.grows
            { fits with
              projectID := stored.projectID
              guestBase := stored.guestBase
              project := stored.project } grown
    · rw [find_createDeployment_of_ne _ _ _ id same] at found
      exact (sound id d found).grows grown

theorem Statements.sound (made : Statements writes before after) (sound : Sound before) :
    Sound after :=
  made.invariant Statement.sound sound

def Deployment.readBack (d : Deployment) : Deployment :=
  if d.routeWeight = 0 then { d with routeWeight := d.rolloutPercent } else d

theorem readBack_eq (d : Deployment) : ∃ route, d.readBack = { d with routeWeight := route } := by
  unfold Deployment.readBack
  split
  · exact ⟨_, rfl⟩
  · exact ⟨d.routeWeight, rfl⟩

@[simp] theorem id_readBack (d : Deployment) : d.readBack.id = d.id := by
  have ⟨route, same⟩ := readBack_eq d
  rw [same]

@[simp] theorem projectID_readBack (d : Deployment) : d.readBack.projectID = d.projectID := by
  have ⟨route, same⟩ := readBack_eq d
  rw [same]

theorem mem_listDeployments_clean (db : ProjectDb) (projectID : String) (given : projectID ≠ "")
    (d : Deployment) : d ∈ listDeployments db .clean projectID ↔
      ∃ row, db.deployments.find row.id = some row ∧ row.projectID = projectID ∧
        d = row.readBack := by
  unfold listDeployments
  rw [if_neg given, RowsFault.delivered_clean, List.mem_map]
  constructor
  · intro ⟨row, listed, same⟩
    have stored := List.mem_filter.mp (List.mem_reverse.mp listed)
    exact ⟨row, (Table.find_eq_some _ _ _).mpr ⟨stored.1, rfl⟩, by simpa using stored.2, same.symm⟩
  · intro ⟨row, found, owner, same⟩
    have stored := ((Table.find_eq_some _ _ _).mp found).1
    exact ⟨row, List.mem_reverse.mpr (List.mem_filter.mpr ⟨stored, by simpa using owner⟩),
      same.symm⟩

theorem nodup_listed (db : ProjectDb) (fault : RowsFault) (projectID : String) :
    ((listDeployments db fault projectID).map Deployment.id).Nodup := by
  unfold listDeployments
  split
  · exact List.nodup_nil
  · rw [List.map_map]
    have ids : Deployment.id ∘ Deployment.readBack = Deployment.id := by
      funext d
      exact id_readBack d
    change (List.map (Deployment.id ∘ Deployment.readBack) _).Nodup
    rw [ids]
    refine List.Nodup.sublist ((fault.delivered_sublist _).map Deployment.id) ?_
    rw [List.map_reverse, List.nodup_reverse]
    exact db.deployments.unique.sublist (List.filter_sublist.map Deployment.id)

theorem nodup_listDeployments (db : ProjectDb) (projectID : String) :
    ((listDeployments db .clean projectID).map Deployment.id).Nodup :=
  nodup_listed db .clean projectID

variable {projectID : String}

theorem owner_of_listed {fault : RowsFault} (listed : d ∈ listDeployments db fault projectID) :
    ∃ row, db.deployments.find row.id = some row ∧ row.projectID = projectID ∧
      d = row.readBack := by
  unfold listDeployments at listed
  split at listed
  · contradiction
  · have ⟨row, delivered, same⟩ := List.mem_map.mp listed
    have stored := List.mem_filter.mp (List.mem_reverse.mp (fault.delivered_subset _ delivered))
    have owner : row.projectID = projectID := of_decide_eq_true stored.2
    exact ⟨row, (Table.find_eq_some _ _ _).mpr ⟨stored.1, rfl⟩, owner, same.symm⟩

theorem exists_of_listDeployments {fault : RowsFault}
    (member : d ∈ listDeployments db fault projectID) :
    ∃ row ∈ db.deployments.rows, d = row.readBack := by
  have ⟨row, found, _, same⟩ := owner_of_listed member
  exact ⟨row, ((Table.find_eq_some _ _ _).mp found).1, same⟩

def getDeployment (db : ProjectDb) (fault : RowsFault) (projectID id : String) :
    Option Deployment :=
  (listDeployments db fault projectID).find? (·.id = id)

theorem mem_of_getDeployment {fault : RowsFault}
    (found : getDeployment db fault projectID id = some d) :
    d ∈ listDeployments db fault projectID :=
  List.mem_of_find?_eq_some found

/-- The other deployments; `rollback_to` becomes `NULL` where it names one that is dropped. -/
def dropDeployments (db : ProjectDb) (p : Deployment → Bool) : Table Deployment.id :=
  (db.deployments.deleteWhere p).updateWhere
    (fun d => db.deployments.rows.any (fun gone => p gone && gone.id = d.rollbackTo))
    (fun d => { d with rollbackTo := "" }) (fun _ => rfl)

def deleteDeployment (db : ProjectDb) (fault : Option String) (projectID id : String) :
    ProjectDb :=
  if fault.isSome then db
  else { db with
    deployments := dropDeployments db (fun d => d.projectID = projectID && d.id = id) }

def deleteProject (db : ProjectDb) (fault : Option String) (id : String) : ProjectDb :=
  if fault.isSome then db
  else
    { projects := db.projects.deleteWhere (·.id = id)
      secrets := db.secrets.deleteWhere (·.projectID = id)
      replicas := db.replicas.deleteWhere (·.projectID = id)
      deployments := dropDeployments db (·.projectID = id)
      owned := by
        intro secret member
        have ⟨stored, spared⟩ := (Table.mem_deleteWhere _ _ _).mp member
        have ⟨row, owner, same⟩ := db.owned secret stored
        refine ⟨row, (Table.mem_deleteWhere _ _ _).mpr ⟨owner, ?_⟩, same⟩
        rw [same]
        exact spared }

def Deployment.Deploys (id image : String) (d : Deployment) : Prop :=
  d.id = id → d.imageDigest = image

def Deploys (id image : String) (db : ProjectDb) : Prop :=
  ∀ row ∈ db.deployments.rows, row.Deploys id image

section Images

variable {id image : String}

theorem Deploys.of_deployments (deploys : Deploys id image before)
    (same : after.deployments = before.deployments) : Deploys id image after := by
  intro row stored
  rw [same] at stored
  exact deploys row stored

theorem deploys_withWeights (deploys : d.Deploys id image) : d.withWeights.Deploys id image := by
  have ⟨route, rollout, same⟩ := withWeights_eq d
  rw [same]
  exact deploys

theorem deploys_readBack (deploys : d.Deploys id image) : d.readBack.Deploys id image := by
  have ⟨route, same⟩ := readBack_eq d
  rw [same]
  exact deploys

theorem Deploys.listed (deploys : Deploys id image db) (fault : RowsFault) (projectID : String) :
    ∀ d ∈ listDeployments db fault projectID, d.Deploys id image := by
  intro d member
  have ⟨row, stored, same⟩ := exists_of_listDeployments member
  rw [same]
  exact deploys_readBack (deploys row stored)

theorem Deploys.createDeployment (deploys : Deploys id image db) (fault : Option String)
    (new : d.Deploys id image) : Deploys id image (createDeployment db fault d) := by
  intro row stored own
  have found := (Table.find_eq_some _ _ _).mpr ⟨stored, own⟩
  by_cases same : id = d.id
  · rw [same] at found
    rcases find_createDeployment_cases _ _ d with kept | ⟨_, written⟩
    · rw [kept] at found
      exact deploys row ((Table.find_eq_some _ _ _).mp found).1 own
    · have weighted : d.withWeights.imageDigest = image :=
        deploys_withWeights new (by rw [id_withWeights]; exact same.symm)
      rw [written] at found
      cases old : db.deployments.find d.id with
      | none | some =>
        rw [old] at found
        rw [← Option.some.inj found]
        exact weighted
  · rw [find_createDeployment_of_ne _ _ d id same] at found
    exact deploys row ((Table.find_eq_some _ _ _).mp found).1 own

theorem Statements.deploys (made : Statements (Deployment.Deploys id image) before after)
    (deploys : Deploys id image before) : Deploys id image after := by
  apply made.invariant _ deploys
  intro before after one holds
  cases one with
  | putProject fault row => exact holds.of_deployments (deployments_putProject before fault row)
  | putVM fault vm => exact holds.of_deployments (deployments_putVM before fault vm)
  | deleteReplicas fault p =>
    exact holds.of_deployments (deployments_deleteReplicas _ _ p)
  | createDeployment fault d allowed => exact holds.createDeployment fault allowed

theorem Deploys.dropDeployments (deploys : Deploys id image db) (p : Deployment → Bool) :
    ∀ row ∈ (dropDeployments db p).rows, row.Deploys id image := by
  intro row stored
  have ⟨old, kept, same⟩ := (Table.mem_updateWhere _ _ _ _ _).mp stored
  have before := deploys old ((Table.mem_deleteWhere _ _ _).mp kept).1
  rw [same]
  split
  · exact before
  · exact before

theorem Deploys.deleteDeployment (deploys : Deploys id image db) (fault : Option String)
    (projectID gone : String) : Deploys id image (deleteDeployment db fault projectID gone) := by
  unfold Store.deleteDeployment
  split
  · exact deploys
  · exact deploys.dropDeployments _

theorem Deploys.deleteProject (deploys : Deploys id image db) (fault : Option String)
    (gone : String) : Deploys id image (deleteProject db fault gone) := by
  unfold Store.deleteProject
  split
  · exact deploys
  · exact deploys.dropDeployments _

end Images

end Porter.Store
