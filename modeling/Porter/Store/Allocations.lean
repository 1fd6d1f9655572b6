import Porter.Run.Guarded
import Porter.Sql.Table

/-!
# Recorded addresses

`internal/store/network.go`: the table of the addresses that MicroVMs have on their networks.
-/
namespace Porter.Store

open Run Sql

/-- `IPAllocationSpec`, or a row of `ip_allocations`, by the type of the address. -/
structure IPAllocation (ι : Type) where
  networkID : String
  ip : ι
  microVMID : String
deriving DecidableEq

def IPAllocation.key {ι : Type} (row : IPAllocation ι) : String × ι := (row.networkID, row.ip)

variable {ι : Type} [DecidableEq ι] (inet : String → Except String ι)

def allocateIP (table : Table (@IPAllocation.key ι)) (fault : Option String)
    (networkID ip microVMID : String) :
    Table (@IPAllocation.key ι) × Except String (IPAllocation String) :=
  match fault with
  | some err => (table, .error err)
  | none =>
    match inet ip with
    | .error err => (table, .error err)
    | .ok address =>
      (table.upsert ⟨networkID, address, microVMID⟩ (fun old => { old with microVMID := microVMID })
        (fun _ => rfl), .ok ⟨networkID, ip, microVMID⟩)

def releaseIP (table : Table (@IPAllocation.key ι)) (fault : Option String) (microVMID : String) :
    Table (@IPAllocation.key ι) × Option String :=
  match fault with
  | some err => (table, some err)
  | none => (table.deleteWhere (fun row => row.microVMID = microVMID), none)

inductive AddressCall where
  | allocate (fault : Option String) (networkID ip microVMID : String)
  | release (fault : Option String) (microVMID : String)

/-- A call is one statement, so calls of several controllers take effect one after the other. -/
def addressStep (table : Table (@IPAllocation.key ι)) : AddressCall → Table (@IPAllocation.key ι)
  | .allocate fault networkID ip microVMID => (allocateIP inet table fault networkID ip microVMID).1
  | .release fault microVMID => (releaseIP table fault microVMID).1

variable (call : AddressCall) (row : IPAllocation ι)

def AddressCall.Releases : Prop := ∃ fault, call = .release fault row.microVMID

def AddressCall.AsksFor (fault : Option String) (ip microVMID : String) : Prop :=
  call = .allocate fault row.networkID ip microVMID ∧ inet ip = .ok row.ip ∧
    microVMID ≠ row.microVMID

variable (table : Table (@IPAllocation.key ι)) {call row table}

theorem mem_addressStep (stored : row ∈ table.rows) (kept : ¬ call.Releases row) :
    row ∈ (addressStep inet table call).rows ↔ ¬ ∃ ip vm, call.AsksFor inet row none ip vm := by
  cases call with
  | release fault microVMID =>
    refine iff_of_true ?_ (fun ⟨_, _, other, _⟩ => nomatch other)
    cases fault with
    | some err => exact stored
    | none =>
      refine (Table.mem_deleteWhere _ _ _).mpr ⟨stored, decide_eq_false ?_⟩
      rintro rfl
      exact kept ⟨none, rfl⟩
  | allocate fault networkID ip microVMID =>
    cases fault with
    | some err => exact iff_of_true stored (fun ⟨_, _, other, _⟩ => nomatch other)
    | none =>
      simp only [addressStep, allocateIP, AddressCall.AsksFor, AddressCall.allocate.injEq,
        true_and]
      cases cast : inet ip with
      | error err =>
        refine iff_of_true stored ?_
        rintro ⟨_, _, ⟨-, rfl, -⟩, found, -⟩
        exact nomatch cast.symm.trans found
      | ok address =>
        have assigned := Table.mem_upsert table ⟨networkID, address, microVMID⟩
          (fun old => { old with microVMID := microVMID }) (fun _ => rfl)
          (fun old same => by obtain ⟨rfl, rfl⟩ := Prod.mk.inj same; rfl) row
        refine assigned.trans ?_
        obtain ⟨network, recorded, vm⟩ := row
        constructor
        · rintro (new | ⟨-, apart⟩) ⟨_, _, ⟨rfl, rfl, rfl⟩, found, other⟩
          · exact other (congrArg IPAllocation.microVMID new).symm
          · exact apart (congrArg (Prod.mk networkID) (Except.ok.inj (found.symm.trans cast)))
        · intro spared
          by_cases same : (network, recorded) = (networkID, address)
          · obtain ⟨rfl, rfl⟩ := Prod.mk.inj same
            by_cases own : microVMID = vm
            · exact Or.inl (by rw [own])
            · exact absurd ⟨ip, microVMID, ⟨rfl, rfl, rfl⟩, cast, own⟩ spared
          · exact Or.inr ⟨stored, same⟩

def takesNoAddress (table : Table (@IPAllocation.key ι)) (call : AddressCall) : Prop :=
  ∀ row ∈ table.rows, ¬ ∃ ip vm, call.AsksFor inet row none ip vm

theorem addressStep_keeps_iff (table : Table (@IPAllocation.key ι)) (call : AddressCall) :
    (∀ row, row ∈ table.rows → ¬ call.Releases row → row ∈ (addressStep inet table call).rows) ↔
      takesNoAddress inet table call := by
  constructor
  · intro keeps row stored asked
    have kept : ¬ call.Releases row := by
      obtain ⟨ip, vm, rfl, -⟩ := asked
      exact fun ⟨_, other⟩ => nomatch other
    exact (mem_addressStep inet stored kept).mp (keeps row stored kept) asked
  · intro spared row stored kept
    exact (mem_addressStep inet stored kept).mpr (spared row stored)

/-- An address stays recorded for its MicroVM until it is released, and asking for it for another
fails or returns the first. -/
structure KeepsAddresses (inet : String → Except String ι) (table : Table (@IPAllocation.key ι))
    (calls : List AddressCall) : Prop where
  untilReleased : ∀ before between after, calls = before ++ between ++ after →
    ∀ row ∈ (run (addressStep inet) table before).rows,
      (∀ call ∈ between, ¬ call.Releases row) →
        row ∈ (run (addressStep inet) table (before ++ between)).rows
  byOthers : ∀ before call after, calls = before ++ call :: after →
    ∀ row ∈ (run (addressStep inet) table before).rows, ∀ fault ip microVMID,
      call.AsksFor inet row fault ip microVMID →
        let asked := allocateIP inet (run (addressStep inet) table before) fault row.networkID ip
          microVMID
        asked.1 = run (addressStep inet) table before ∧
          ∀ spec, asked.2 = .ok spec → spec.microVMID = row.microVMID

/-- A run keeps every address with its MicroVM exactly when no statement that succeeds asks for an
address that is recorded for another. -/
theorem keepsAddresses_iff (inet : String → Except String ι) (table : Table (@IPAllocation.key ι))
    (calls : List AddressCall) :
    KeepsAddresses inet table calls ↔
      Guarded (addressStep inet) (takesNoAddress inet) table calls := by
  have lasting := guarded_iff_until (addressStep inet) (takesNoAddress inet)
    (fun table row => row ∈ table.rows) AddressCall.Releases (addressStep_keeps_iff inet) table
    calls
  constructor
  · exact fun keeps => lasting.mpr keeps.untilReleased
  · intro guarded
    refine ⟨lasting.mp guarded, ?_⟩
    rintro before call after split row stored fault ip vm asks
    cases fault with
    | some err => exact ⟨rfl, nofun⟩
    | none =>
      exact absurd ⟨ip, vm, asks⟩
        ((guarded_iff _ _ _ _).mp guarded before call after split row stored)

theorem address_taken :
    ¬ KeepsAddresses (fun text => .ok text) (Table.empty _)
      [.allocate none "net-1" "10.42.0.10" "vm-1", .allocate none "net-1" "10.42.0.10" "vm-2"] := by
  intro keeps
  have kept := keeps.untilReleased [_] [_] [] rfl ⟨"net-1", "10.42.0.10", "vm-1"⟩ (by decide)
    (by rintro call member ⟨fault, rfl⟩; simp at member)
  revert kept
  decide

end Porter.Store
