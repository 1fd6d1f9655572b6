import Porter.Buildkit.Confinement

/-!
# The two readers of an archive's index

`unpackOCI` takes the first entry named `index.json` or `./index.json`, `readOCIConfig` the first
named `index.json`.
-/
namespace Porter.Buildkit

open Go Os Shell

variable {formats : Formats} {archive : Except String TarFile} {file : TarFile} {entry : TarEntry}
  {wanted narrow : String → Bool}

def firstNamed (file : TarFile) (wanted : String → Bool) : Option TarEntry :=
  file.entries.find? fun entry => wanted entry.name

def namesIndex (name : String) : Bool := name = "index.json" || name = "./index.json"

/-- Whether the first index of an archive has the name `readOCIConfig` looks for, or none has. -/
def indexShared (archive : Except String TarFile) : Bool :=
  match archive with
  | .error _ => true
  | .ok file => (firstNamed file namesIndex).all (·.name = "index.json") ||
      (firstNamed file (· = "index.json")).isNone

theorem scan_eq_some {data : Bytes} (scanned : scan file wanted = .ok (some data)) :
    ∃ entry, firstNamed file wanted = some entry ∧ entry.dataErr = none ∧ entry.data = data := by
  unfold scan at scanned
  split at scanned
  · rename_i entry first
    split at scanned
    · contradiction
    · rename_i whole
      exact ⟨entry, first, whole, Option.some.inj (Except.ok.inj scanned)⟩
  · split at scanned <;> cases scanned

theorem firstNamed_narrow (fewer : ∀ name, narrow name = true → wanted name = true)
    (first : firstNamed file wanted = some entry) (named : narrow entry.name = true) :
    firstNamed file narrow = some entry := by
  unfold firstNamed at first ⊢
  rw [List.find?_eq_some_iff_append] at first ⊢
  obtain ⟨-, before, after, split, others⟩ := first
  refine ⟨named, before, after, split, fun other member => ?_⟩
  have unwanted := others other member
  cases held : narrow other.name with
  | false => rfl
  | true =>
    rw [fewer _ held] at unwanted
    contradiction

theorem index_of_firstManifest {manifest : OciManifest}
    (first : firstManifest formats (.ok file) = .ok manifest) :
    ∃ entry digest others data, firstNamed file namesIndex = some entry ∧ entry.dataErr = none ∧
      formats.index entry.data = .ok (digest :: others) ∧
      readBlob (.ok file) digest = .ok data ∧ formats.manifest data = .ok manifest := by
  unfold firstManifest at first
  dsimp only at first
  split at first
  · contradiction
  · rename_i found scanned
    split at first
    · contradiction
    · rename_i filled
      cases found with
      | none => exact absurd rfl filled
      | some text =>
        obtain ⟨entry, named, whole, rfl⟩ := scan_eq_some scanned
        split at first
        · contradiction
        · contradiction
        · rename_i digest others listed
          split at first
          · contradiction
          · rename_i data read
            exact ⟨entry, digest, others, data, named, whole, listed, read, first⟩

theorem scan_eq_of_first (first : firstNamed file wanted = some entry)
    (whole : entry.dataErr = none) : scan file wanted = .ok (some entry.data) := by
  unfold firstNamed at first
  unfold scan
  simp only [first, whole]

theorem readOCIConfig_of_missing (rejects : ∃ err, formats.index [] = .error err)
    (missing : firstNamed file (· = "index.json") = none) :
    ∃ message, readOCIConfig formats (.ok file) = .error (.text message) := by
  obtain ⟨err, rejected⟩ := rejects
  unfold firstNamed at missing
  unfold readOCIConfig scan
  simp only [missing]
  cases file.ending with
  | some ending => exact ⟨ending, rfl⟩
  | none =>
    simp only [Option.getD_none, rejected]
    exact ⟨err, rfl⟩

def indexFormats : Formats :=
  { oneLayer [] with
    index := fun data =>
      if data = [] then .error "unexpected end of JSON input"
      else if data = [1] then .ok [] else .ok ["sha256:m"] }

def twoIndexes : Except String TarFile :=
  smallArchive.map fun file => { file with
    entries := tarEntry "./index.json" .reg "" :: ⟨"index.json", .reg, "", [1], none⟩ ::
      file.entries }

end Porter.Buildkit
