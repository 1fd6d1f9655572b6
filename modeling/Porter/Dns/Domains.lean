import Mathlib.Data.List.DropRight
import Mathlib.Data.List.Infix
import Porter.Run.Guarded
import Porter.Store.Domains

/-!
# Domain assignment

`internal/dns/domains.go`: the host names a project gets from its name, and the calls that attach
and detach domains.
-/
namespace Porter.Dns

open Run Store

variable (c : Char)

/-- `strings.ToLower` on the runes whose lower case is an ASCII letter. -/
def toLower : Char :=
  if 'A' ≤ c ∧ c ≤ 'Z' then Char.ofNat (c.toNat + 32)
  else if c.toNat = 0x130 then 'i'
  else if c.toNat = 0x212A then 'k'
  else c

def hyphenated : Char := if c = ' ' ∨ c = '_' then '-' else c

def keptInSlug : Bool :=
  ('a' ≤ c && c ≤ 'z') || ('0' ≤ c && c ≤ '9') || c = '-'

def hasDoubleHyphen : List Char → Bool
  | '-' :: '-' :: _ => true
  | _ :: rest => hasDoubleHyphen rest
  | [] => false

def replaceDoubleHyphens : List Char → List Char
  | '-' :: '-' :: rest => '-' :: replaceDoubleHyphens rest
  | c :: rest => c :: replaceDoubleHyphens rest
  | [] => []

def collapseHyphens : Nat → List Char → List Char
  | 0, slug => slug
  | rounds + 1, slug =>
    if hasDoubleHyphen slug then collapseHyphens rounds (replaceDoubleHyphens slug) else slug

def trimHyphens (slug : List Char) : List Char :=
  ((slug.dropWhile (· = '-')).reverse.dropWhile (· = '-')).reverse

def projectSlug (name : String) : String :=
  let slug := ((name.toList.map toLower).map hyphenated).filter keptInSlug
  let slug := trimHyphens (collapseHyphens slug.length slug)
  if slug = [] then "app" else String.ofList slug

section

structure IsLabel (label : List Char) : Prop where
  filled : label ≠ []
  kept : ∀ c ∈ label, keptInSlug c = true
  single : ¬['-', '-'] <:+: label
  front : label.head? ≠ some '-'
  back : label.getLast? ≠ some '-'

variable (slug : List Char)

theorem hasDoubleHyphen_iff : hasDoubleHyphen slug = true ↔ ['-', '-'] <:+: slug := by
  fun_induction hasDoubleHyphen slug with
  | case1 rest => exact iff_of_true rfl ⟨[], rest, rfl⟩
  | case2 c rest other recurse =>
    rw [recurse, List.infix_cons_iff]
    refine (or_iff_right ?_).symm
    rintro ⟨tail, same⟩
    obtain ⟨rfl, rfl⟩ := List.cons.inj same.symm
    exact other tail rfl rfl
  | case3 => simp

theorem length_replaceDoubleHyphens_le : (replaceDoubleHyphens slug).length ≤ slug.length := by
  fun_induction replaceDoubleHyphens slug <;> simp <;> omega

theorem length_replaceDoubleHyphens_lt (double : hasDoubleHyphen slug = true) :
    (replaceDoubleHyphens slug).length < slug.length := by
  fun_induction replaceDoubleHyphens slug with
  | case1 rest =>
    have shorter := length_replaceDoubleHyphens_le rest
    simp only [List.length_cons]
    omega
  | case2 c rest other recurse =>
    rw [hasDoubleHyphen] at double
    · exact Nat.succ_lt_succ (recurse double)
    · exact other
  | case3 => exact absurd double (by decide)

theorem replaceDoubleHyphens_subset : replaceDoubleHyphens slug ⊆ slug := by
  fun_induction replaceDoubleHyphens slug with
  | case1 rest recurse =>
    exact List.cons_subset_cons _ (List.Subset.trans recurse (List.subset_cons_self ..))
  | case2 c rest other recurse => exact List.cons_subset_cons _ recurse
  | case3 => exact List.Subset.refl _

variable {slug}

theorem collapseHyphens_ends {rounds : Nat} (enough : slug.length ≤ rounds) :
    hasDoubleHyphen (collapseHyphens rounds slug) = false := by
  induction rounds generalizing slug with
  | zero =>
    rw [List.length_eq_zero_iff.mp (Nat.le_zero.mp enough)]
    rfl
  | succ rounds recurse =>
    rw [collapseHyphens]
    split
    · next double =>
      have shorter := length_replaceDoubleHyphens_lt _ double
      exact recurse (by omega)
    · next single => exact Bool.not_eq_true _ ▸ single

theorem collapseHyphens_subset (rounds : Nat) : collapseHyphens rounds slug ⊆ slug := by
  induction rounds generalizing slug with
  | zero => exact List.Subset.refl _
  | succ rounds recurse =>
    rw [collapseHyphens]
    split
    · exact List.Subset.trans recurse (replaceDoubleHyphens_subset _)
    · exact List.Subset.refl _

theorem trimHyphens_within : trimHyphens slug <:+: slug :=
  (List.rdropWhile_prefix ..).isInfix.trans (List.dropWhile_suffix _).isInfix

theorem isLabel_trimHyphens (filled : trimHyphens slug ≠ [])
    (kept : ∀ c ∈ slug, keptInSlug c = true) (single : hasDoubleHyphen slug = false) :
    IsLabel (trimHyphens slug) where
  filled := filled
  kept := fun c member => kept c (trimHyphens_within.subset member)
  single := by
    intro double
    have absent := (hasDoubleHyphen_iff _).not.mp (Bool.eq_false_iff.mp single)
    exact absent (double.trans trimHyphens_within)
  front := by
    intro hyphen
    have first : (slug.dropWhile (· = '-')).head? = some '-' := by
      obtain ⟨tail, whole⟩ := List.rdropWhile_prefix (· = '-') (slug.dropWhile (· = '-'))
      rw [← whole]
      exact (List.head?_append_of_ne_nil _ filled).trans hyphen
    have other := List.head?_dropWhile_not (· = '-') slug
    rw [first] at other
    exact absurd other (by decide)
  back := by
    rw [List.getLast?_eq_some_getLast filled]
    intro hyphen
    exact List.rdropWhile_last_not (· = '-') _ filled (decide_eq_true (Option.some.inj hyphen))

theorem hyphenated_toLower {c : Char} (kept : keptInSlug c = true) :
    hyphenated (toLower c) = c := by
  have range : 97 ≤ c.toNat ∧ c.toNat ≤ 122 ∨ 48 ≤ c.toNat ∧ c.toNat ≤ 57 ∨ c.toNat = 45 := by
    simp only [keptInSlug, Bool.or_eq_true, Bool.and_eq_true, decide_eq_true_eq, or_assoc] at kept
    exact kept.imp_right (Or.imp_right (congrArg Char.toNat))
  unfold toLower
  rw [if_neg, if_neg (by omega), if_neg (by omega)]
  · refine if_neg ?_
    rintro (rfl | rfl) <;> exact absurd range (by decide)
  · rintro ⟨above, below⟩
    have lower : 65 ≤ c.toNat := above
    have upper : c.toNat ≤ 90 := below
    omega

variable {label : List Char}

theorem trimHyphens_of_isLabel (isLabel : IsLabel label) : trimHyphens label = label := by
  have front : label.dropWhile (· = '-') = label := by
    obtain ⟨c, rest, rfl⟩ := List.exists_cons_of_ne_nil isLabel.filled
    exact List.dropWhile_cons_of_neg fun hyphen =>
      isLabel.front (congrArg some (of_decide_eq_true hyphen))
  show (label.dropWhile (· = '-')).rdropWhile (· = '-') = label
  rw [front, List.rdropWhile_eq_self_iff]
  intro filled hyphen
  refine isLabel.back ?_
  rw [List.getLast?_eq_some_getLast filled, of_decide_eq_true hyphen]

theorem projectSlug_of_isLabel (isLabel : IsLabel label) :
    projectSlug (String.ofList label) = String.ofList label := by
  have same : ((label.map toLower).map hyphenated).filter keptInSlug = label := by
    have lowered : (label.map toLower).map hyphenated = label := by
      rw [List.map_map]
      exact (List.map_congr_left fun c member =>
        hyphenated_toLower (isLabel.kept c member)).trans (List.map_id _)
    rw [lowered]
    exact List.filter_eq_self.mpr isLabel.kept
  have single : hasDoubleHyphen label = false :=
    Bool.eq_false_iff.mpr ((hasDoubleHyphen_iff label).not.mpr isLabel.single)
  have collapsed : ∀ rounds, collapseHyphens rounds label = label := by
    intro rounds
    cases rounds with
    | zero => rfl
    | succ rounds => rw [collapseHyphens, single, if_neg Bool.false_ne_true]
  unfold projectSlug
  simp only [String.toList_ofList]
  rw [same, collapsed, trimHyphens_of_isLabel isLabel, if_neg isLabel.filled]

/-- The host label of every project is well formed and is its own label, and the loop that
collapses hyphens ends. -/
theorem isLabel_projectSlug (name : String) :
    IsLabel (projectSlug name).toList ∧ projectSlug (projectSlug name) = projectSlug name ∧
      ∀ slug, hasDoubleHyphen (collapseHyphens slug.length slug) = false := by
  have isLabel : IsLabel (projectSlug name).toList := by
    unfold projectSlug
    simp only
    split
    · exact ⟨by decide, List.all_eq_true.mp (by decide), by decide, by decide, by decide⟩
    · next filled =>
      rw [String.toList_ofList]
      refine isLabel_trimHyphens filled ?_ (collapseHyphens_ends (Nat.le_refl _))
      intro c member
      exact List.of_mem_filter (collapseHyphens_subset _ member)
  refine ⟨isLabel, ?_, fun slug => collapseHyphens_ends (Nat.le_refl _)⟩
  have again := projectSlug_of_isLabel isLabel
  rwa [String.ofList_toList] at again

end

structure DomainManager where
  baseDomain : String
  gatewayIP : String
  lookupHost : String → Except String (List String)

variable (dm : DomainManager)

def getPreviewDomain (name : String) : String :=
  projectSlug name ++ ".preview." ++ dm.baseDomain

def getProductionDomain (name : String) : String :=
  projectSlug name ++ "." ++ dm.baseDomain

def verifyDomain (domain : Domain) : Bool × String :=
  match dm.lookupHost domain.domain with
  | .error err => (false, "DNS lookup failed: " ++ err)
  | .ok [] => (false, "no A/AAAA records")
  | .ok ips =>
    match ips.find? (· = dm.gatewayIP) with
    | some ip => (true, "resolves to " ++ ip ++ " (verified)")
    | none =>
      (false, "resolves to " ++ ", ".intercalate ips ++ " (not gateway " ++ dm.gatewayIP ++ ")")

/-- The unexported `verifyDomain`, which sets the status of the value in memory only. -/
def withVerifiedStatus (domain : Domain) : Domain :=
  { domain with status := if (verifyDomain dm domain).1 then "verified" else "unverified" }

def previewOf (id name : String) : Domain where
  projectID := id
  domain := getPreviewDomain dm name
  type := "preview"
  status := "pending"

def productionOf (id name : String) : Domain where
  projectID := id
  domain := getProductionDomain dm name
  type := "production"
  status := "pending"

variable (db : DomainDb)

def assignDomains (previewFault prodFault : Option String) (id name : String) :
    DomainDb × Except String (List Domain) :=
  if dm.baseDomain = "" then (db, .error "dns: base_domain not configured")
  else
    let db := addDomain db previewFault id (previewOf dm id name)
    let db := addDomain db prodFault id (productionOf dm id name)
    (db, .ok [withVerifiedStatus dm (previewOf dm id name),
      withVerifiedStatus dm (productionOf dm id name)])

inductive Call where
  | addDomain (fault : Option String) (projectID : String) (d : Domain)
  | assignDomains (previewFault prodFault : Option String) (projectID name : String)
  | removeDomain (fault : Option String) (projectID domain : String)

def Call.project : Call → String
  | .addDomain _ projectID _ => projectID
  | .assignDomains _ _ projectID _ => projectID
  | .removeDomain _ projectID _ => projectID

variable (projectID : String)

def Call.Removes (domain : String) : Call → Prop
  | .removeDomain _ project name => project = projectID ∧ name = domain
  | _ => False

def step : Call → DomainDb
  | .addDomain fault projectID d => addDomain db fault projectID d
  | .assignDomains previewFault prodFault projectID name =>
    (assignDomains dm db previewFault prodFault projectID name).1
  | .removeDomain fault projectID domain => (removeDomain db fault projectID domain).1

def Call.inserts : Call → List (Option String × Domain)
  | .addDomain fault _ d => [(fault, d)]
  | .assignDomains previewFault prodFault projectID name =>
    if dm.baseDomain = "" then []
    else [(previewFault, previewOf dm projectID name), (prodFault, productionOf dm projectID name)]
  | .removeDomain _ _ _ => []

def takesNot (insert : Option String × Domain) : Bool :=
  addDomainFails db insert.1 projectID ||
    ownOrFree db insert.2.domain (nullableStr projectID)

variable (call : Call)

/-- Every name the call inserts with success is free or belongs to its own project. -/
def takesNoName : Bool :=
  (call.inserts dm).all (takesNot db call.project)

variable (inserts : List (Option String × Domain))

def addDomains : DomainDb :=
  inserts.foldl (fun db insert => addDomain db insert.1 projectID insert.2) db

theorem step_inserts
    (inserts : ∀ fault projectID domain, call ≠ .removeDomain fault projectID domain) :
    step dm db call = addDomains db call.project (call.inserts dm) := by
  cases call with
  | addDomain fault projectID d => rfl
  | assignDomains previewFault prodFault projectID name =>
    by_cases unset : dm.baseDomain = "" <;>
      simp [step, assignDomains, Call.inserts, Call.project, addDomains, unset]
  | removeDomain fault projectID domain => exact absurd rfl (inserts fault projectID domain)

theorem takesNot_iff (insert : Option String × Domain) :
    takesNot db projectID insert = true ↔
      (addDomainFails db insert.1 projectID = true ∨
        ∀ owner, Attached db insert.2.domain owner → nullableStr projectID = some owner) := by
  simp only [takesNot, ownOrFree, Attached, Bool.or_eq_true, List.all_eq_true, decide_eq_true_eq,
    ne_eq, decide_not, Bool.not_eq_true', decide_eq_false_iff_not]
  refine or_congr Iff.rfl ⟨?_, ?_⟩
  · rintro own owner ⟨row, stored, named, belongs⟩
    rcases own row stored with (other | free) | same
    · exact absurd named other
    · simp [free] at belongs
    · rw [← same, belongs]
  · intro own row stored
    by_cases named : row.domain = insert.2.domain
    · cases belongs : row.projectID with
      | none => simp
      | some owner => simp [own owner ⟨row, stored, named, belongs⟩]
    · exact Or.inl (Or.inl named)

theorem attached_addDomain (fault : Option String) (projectID : String) (d : Domain)
    (name owner : String) :
    Attached (addDomain db fault projectID d) name owner ↔
      if addDomainFails db fault projectID = false ∧ d.domain = name then
        nullableStr projectID = some owner
      else Attached db name owner := by
  simp only [Attached, mem_addDomain]
  by_cases fails : addDomainFails db fault projectID = true
  · simp [fails]
  · by_cases named : d.domain = name
    · subst named
      simp only [fails, newDomainRow]
      aesop
    · simp only [fails, newDomainRow]
      aesop

theorem own_addDomain {db : DomainDb} {projectID name : String}
    (own : ∀ owner, Attached db name owner → nullableStr projectID = some owner)
    (fault : Option String) (d : Domain) (owner : String)
    (attached : Attached (addDomain db fault projectID d) name owner) :
    nullableStr projectID = some owner := by
  rw [attached_addDomain] at attached
  split at attached
  · exact attached
  · exact own owner attached

theorem takesNot_addDomain (fault : Option String) (projectID : String) (d : Domain)
    (insert : Option String × Domain) (clear : takesNot db projectID insert = true) :
    takesNot (addDomain db fault projectID d) projectID insert = true := by
  rw [takesNot_iff] at clear ⊢
  rcases clear with fails | own
  · exact Or.inl (by simpa [addDomainFails] using fails)
  · exact Or.inr (own_addDomain own fault d)

theorem attached_addDomains (clear : ∀ insert ∈ inserts, takesNot db projectID insert = true)
    (name owner : String) (attached : Attached db name owner) :
    Attached (addDomains db projectID inserts) name owner := by
  induction inserts generalizing db with
  | nil => exact attached
  | cons insert rest recurse =>
    refine recurse _ (fun later listed => takesNot_addDomain _ _ _ _ _
      (clear later (List.mem_cons_of_mem _ listed))) ?_
    rw [attached_addDomain]
    split
    · rename_i writes
      obtain ⟨succeeds, rfl⟩ := writes
      rcases (takesNot_iff _ _ _).mp (clear insert List.mem_cons_self) with
        fails | own
      · simp [fails] at succeeds
      · exact own owner attached
    · exact attached

theorem owner_addDomains (insert : Option String × Domain) (listed : insert ∈ inserts)
    (succeeds : addDomainFails db insert.1 projectID = false) (owner : String)
    (attached : Attached (addDomains db projectID inserts) insert.2.domain owner) :
    nullableStr projectID = some owner := by
  -- Insertions that follow either leave the name alone or write it for the same project.
  have settled : ∀ (later : List (Option String × Domain)) (db : DomainDb),
      (∀ owner, Attached db insert.2.domain owner → nullableStr projectID = some owner) →
      ∀ owner, Attached (addDomains db projectID later) insert.2.domain owner →
        nullableStr projectID = some owner := by
    intro later
    induction later with
    | nil => exact fun _ own => own
    | cons next rest recurse =>
      intro db own
      exact recurse _ (own_addDomain own next.1 next.2)
  induction inserts generalizing db with
  | nil => cases listed
  | cons next rest recurse =>
    rcases List.mem_cons.mp listed with rfl | later
    · refine settled rest _ ?_ owner attached
      intro owner attached
      rw [attached_addDomain, if_pos ⟨succeeds, rfl⟩] at attached
      exact attached
    · exact recurse _ later (by simpa [addDomainFails] using succeeds) attached

theorem step_keeps_iff :
    (∀ name owner, Attached db name owner → ¬ call.Removes owner name →
      Attached (step dm db call) name owner) ↔ takesNoName dm db call = true := by
  by_cases removal : ∃ fault projectID domain, call = .removeDomain fault projectID domain
  · obtain ⟨fault, projectID, domain, rfl⟩ := removal
    refine ⟨fun _ => rfl, ?_⟩
    rintro - name owner ⟨row, stored, rfl, belongs⟩ others
    refine ⟨row, (mem_removeDomain _ _ _ _ _).mpr ⟨stored, Or.inr ?_⟩, rfl, belongs⟩
    by_contra both
    simp only [not_or, ne_eq, not_not, belongs, Option.some.injEq] at both
    exact others ⟨both.2.symm, both.1.symm⟩
  · have inserts : ∀ fault projectID domain, call ≠ .removeDomain fault projectID domain :=
      fun fault projectID domain same => removal ⟨fault, projectID, domain, same⟩
    rw [step_inserts _ _ _ inserts, takesNoName, List.all_eq_true]
    constructor
    · intro keeps insert listed
      rw [takesNot_iff]
      by_contra both
      obtain ⟨succeeds, foreign⟩ := not_or.mp both
      apply foreign
      intro owner attached
      refine owner_addDomains _ call.project (call.inserts dm) insert listed
        (by simpa using succeeds) owner (keeps insert.2.domain owner attached ?_)
      intro removes
      cases call with
      | removeDomain fault projectID domain => exact inserts fault projectID domain rfl
      | addDomain | assignDomains => exact removes
    · intro clear name owner attached _
      exact attached_addDomains db call.project _ clear name owner attached

/-- A domain that is attached stays attached until it is removed for its project. -/
structure KeepsDomains (dm : DomainManager) (db : DomainDb) (calls : List Call) : Prop where
  untilRemoved : ∀ before between after, calls = before ++ between ++ after →
    ∀ name owner, Attached (run (step dm) db before) name owner →
      (∀ call ∈ between, ¬ call.Removes owner name) →
      Attached (run (step dm) db (before ++ between)) name owner
  byOthers : ∀ before call after, calls = before ++ call :: after →
    ∀ name owner, call.project ≠ owner → Attached (run (step dm) db before) name owner →
      Attached (run (step dm) db (before ++ [call])) name owner

theorem not_removes_of_project (name owner : String) (other : call.project ≠ owner) :
    ¬ call.Removes owner name := by
  cases call with
  | removeDomain fault projectID domain => exact fun removes => other removes.1
  | addDomain | assignDomains => exact id

/-- A run keeps every domain with its project exactly when each of its calls, in the state it
meets, only attaches names that are free or its own project's. -/
theorem keepsDomains_iff (dm : DomainManager) (db : DomainDb) (calls : List Call) :
    KeepsDomains dm db calls ↔
      Guarded (step dm) (fun state call => takesNoName dm state call = true) db calls := by
  have lasting := guarded_iff_until (step dm) (fun state call => takesNoName dm state call = true)
    (fun state (what : String × String) => Attached state what.1 what.2)
    (fun call what => call.Removes what.2 what.1)
    (fun state call => Prod.forall.trans (step_keeps_iff dm state call)) db calls
  rw [lasting]
  constructor
  · intro keeps before between after split what
    exact keeps.untilRemoved before between after split what.1 what.2
  · intro lasts
    refine ⟨fun before between after split name owner =>
      lasts before between after split (name, owner), ?_⟩
    intro before call after split name owner other attached
    exact lasts before [call] after (by simp [split]) (name, owner) attached
      (by simpa using not_removes_of_project call name owner other)

def exampleManager : DomainManager where
  baseDomain := "example.com"
  gatewayIP := "10.0.0.1"
  lookupHost := fun _ => .ok []

def twoProjects : DomainDb where
  projects := ["p1", "p2"]
  domains := Sql.Table.empty _
  owned := by simp [Sql.Table.empty]

theorem assignDomains_takes_host :
    ¬ KeepsDomains exampleManager twoProjects
      [.assignDomains none none "p1" "My App", .assignDomains none none "p2" "my_app"] := by
  intro keeps
  have attached : Attached
      (run (step exampleManager) twoProjects [.assignDomains none none "p1" "My App"])
      "my-app.example.com" "p1" := by decide +kernel
  have kept := keeps.byOthers [_] _ [] rfl "my-app.example.com" "p1" (by decide) attached
  revert kept
  decide +kernel

end Porter.Dns
