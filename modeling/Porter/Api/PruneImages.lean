import Porter.Api.Deploy

/-!
# Pruning images

`handlePruneImages` of `internal/api/handlers.go` deletes the golden images it finds unused.
-/
namespace Porter.Api.Projects

open Sql Go Store

structure GoldenRow extends GoldenImage where
  id : String

def GoldenImage.Matches (gi : GoldenImage) (ref : String) : Prop :=
  gi.image = ref ∨ gi.name = ref ∨ gi.image = "custom://" ++ trimPrefix ref "custom://"

instance (gi : GoldenImage) (ref : String) : Decidable (gi.Matches ref) :=
  inferInstanceAs (Decidable (_ ∨ _ ∨ _))

variable (db : ProjectDb) (images : Table GoldenRow.id)

def listedVMs : List VM :=
  db.projects.rows.flatMap fun row => row.doc.vmIDs.filterMap db.replicas.find

def inUse : List String :=
  (listedVMs db).flatMap fun vm =>
    vm.image :: (images.rows.filter fun gi => gi.image = vm.image).map GoldenRow.id

/-- `handlePruneImages`, given which deletions fail, with the number of rows removed. -/
def handlePruneImages (fails : String → Bool) : Nat × Table GoldenRow.id :=
  images.rows.foldl (fun state gi =>
    if gi.id ∈ inUse db images then state
    else if fails gi.id then state
    else (state.1 + 1, state.2.deleteWhere fun row => row.id = gi.id)) (0, images)

def references : List String :=
  db.projects.rows.map (fun row => row.doc.image) ++ (listedVMs db).map VM.image ++
    db.deployments.rows.map Deployment.imageDigest

def Resolves (ref : String) : Prop := ∃ gi ∈ images.rows, gi.Matches ref

variable {db images}

theorem mem_inUse {gi : GoldenRow} (stored : gi ∈ images.rows) :
    gi.id ∈ inUse db images ↔ ∃ vm ∈ listedVMs db, vm.image = gi.image ∨ vm.image = gi.id := by
  unfold inUse
  rw [List.mem_flatMap]
  refine exists_congr fun vm => and_congr_right fun _ => ?_
  rw [List.mem_cons, List.mem_map, or_comm, eq_comm]
  refine or_congr_left ⟨?_, fun same => ⟨gi, by simp [stored, same], rfl⟩⟩
  rintro ⟨other, member, same⟩
  have ⟨listed, image⟩ := List.mem_filter.mp member
  rw [images.row_eq_of_key listed stored same] at image
  exact (of_decide_eq_true image).symm

theorem mem_handlePruneImages {fails : String → Bool} {row : GoldenRow} :
    row ∈ (handlePruneImages db images fails).2.rows ↔
      row ∈ images.rows ∧ (row.id ∈ inUse db images ∨ fails row.id = true) := by
  have loop : ∀ (rest : List GoldenRow) (state : Nat × Table GoldenRow.id),
      row ∈ (rest.foldl (fun state gi =>
        if gi.id ∈ inUse db images then state
        else if fails gi.id then state
        else (state.1 + 1, state.2.deleteWhere fun row => row.id = gi.id)) state).2.rows ↔
      row ∈ state.2.rows ∧
        ((∃ gi ∈ rest, gi.id = row.id) → row.id ∈ inUse db images ∨ fails row.id = true) := by
    intro rest
    induction rest with
    | nil => simp
    | cons gi rest recurse =>
      intro state
      rw [List.foldl_cons, recurse]
      grind [Table.mem_deleteWhere]
  unfold handlePruneImages
  rw [loop]
  exact and_congr_right fun stored => ⟨fun kept => kept ⟨row, stored, rfl⟩, fun kept _ => kept⟩

/-- Pruning keeps the references in use exactly if each that resolves does so to a row with the
image or ID of a virtual machine, or to one whose deletion fails. -/
theorem pruned_resolves_iff (db : ProjectDb) (images : Table GoldenRow.id) (fails : String → Bool) :
    (∀ ref ∈ references db, Resolves images ref →
      Resolves (handlePruneImages db images fails).2 ref) ↔
    ∀ ref ∈ references db, Resolves images ref → ∃ gi ∈ images.rows, gi.Matches ref ∧
      ((∃ vm ∈ listedVMs db, vm.image = gi.image ∨ vm.image = gi.id) ∨ fails gi.id = true) := by
  refine forall₃_congr fun ref _ _ => exists_congr fun gi => ?_
  rw [mem_handlePruneImages, and_assoc]
  refine and_congr_right fun stored => ?_
  rw [mem_inUse stored, and_comm]

def usingImage (image : String) : ProjectDb where
  projects := Table.single ProjectRow.id
    ⟨⟨"p", "", "web", "", image, "", ["vm"], "", 1, "", none, none, [], false, 1, ""⟩, none⟩
  secrets := Table.empty Secret.slot
  replicas := Table.single VM.id ⟨"vm", "", "p", "", .running, .healthy, image, 0, 1, 128, [],
    GoMap.nil, "", "", "", "", "", "", "", ""⟩
  deployments := Table.empty Deployment.id
  owned := nofun

theorem pruned_by_name :
    let images := Table.single GoldenRow.id ⟨⟨"base", "registry/base:1", "", "", 1, 128⟩, "g"⟩
    "base" ∈ references (usingImage "base") ∧ Resolves images "base" ∧
      ¬Resolves (handlePruneImages (usingImage "base") images fun _ => false).2 "base" := by
  refine ⟨by decide, ⟨_, List.mem_cons_self, by decide⟩, ?_⟩
  rintro ⟨gi, member, _⟩
  exact List.not_mem_nil (show gi ∈ [] from member)

end Porter.Api.Projects
