import Porter.Sql.Rows
import Porter.Sql.Table

/-!
# Servers

The table `servers`: the nodes of the cluster with what they report of themselves.
-/
namespace Porter.Store

open Sql

structure ServerLoad where
  vcpus : Int
  memMiB : Int
  os : String
  arch : String
  version : String
  projects : Int
  vms : Int
deriving DecidableEq

def ServerLoad.none : ServerLoad := ⟨0, 0, "", "", "", 0, 0⟩

structure Server where
  id : String
  name : String
  address : String
  status : String
  load : ServerLoad
  lastSeen : Option Nat

structure ServerHeartbeat where
  id : String
  address : String
  status : String
  load : ServerLoad

abbrev Servers := Table Server.id

def Server.written (srv row : Server) : Server :=
  { row with name := srv.name, address := srv.address, status := srv.status }

variable (servers : Servers) (fails : Bool)

def putServer (srv : Server) : Servers :=
  if fails then servers
  else servers.upsert { srv with load := .none, lastSeen := none } srv.written (fun _ => rfl)

def listServers (listing : RowsFault) : List Server :=
  listing.delivered servers.rows

def ServerHeartbeat.report (h : ServerHeartbeat) (now : Nat) (row : Server) : Server :=
  { row with address := h.address, status := h.status, load := h.load, lastSeen := some now }

def applyHeartbeat (now : Nat) (h : ServerHeartbeat) : Bool × Servers :=
  if fails then (false, servers)
  else
    ((servers.find h.id).isSome,
      servers.updateWhere (fun row => row.id = h.id) (h.report now) (fun _ => rfl))

theorem find_putServer {servers : Servers} {srv row : Server}
    (stored : servers.find srv.id = some row) (id : String) :
    (putServer servers fails srv).find id =
      if fails = false ∧ id = srv.id then some (srv.written row) else servers.find id := by
  unfold putServer
  cases fails with
  | true => simp
  | false =>
    by_cases same : id = srv.id
    · have found := Table.find_upsert_self servers { srv with load := .none, lastSeen := none }
        srv.written (fun _ => rfl)
      simp only [stored, Option.map_some, Option.getD_some] at found
      simp only [same, and_self, if_true]
      exact found
    · simp only [same, and_false, if_false]
      exact Table.find_upsert_of_ne _ _ _ _ _ same

theorem find_putServer_of_ne {srv : Server} {id : String} (other : id ≠ srv.id) :
    (putServer servers fails srv).find id = servers.find id := by
  unfold putServer
  split
  · rfl
  · exact Table.find_upsert_of_ne _ _ _ _ _ other

theorem find_applyHeartbeat (now : Nat) (h : ServerHeartbeat) (id : String) :
    (applyHeartbeat servers fails now h).2.find id =
      if fails = false ∧ id = h.id then (servers.find id).map (h.report now)
      else servers.find id := by
  unfold applyHeartbeat
  cases fails with
  | true => simp
  | false =>
    simp only [Bool.false_eq_true, if_false]
    by_cases same : id = h.id
    · simp only [same, and_self, if_true]
      exact Table.find_updateWhere_self servers (h.report now) (fun _ => rfl) h.id
    · simp only [same, and_false, if_false]
      apply Table.find_congr
      intro row keyed
      refine Table.mem_updateWhere_of_not _ _ (h.report now) (fun _ => rfl) (fun _ => rfl) row ?_
      rw [keyed]
      exact decide_eq_false same

end Porter.Store
