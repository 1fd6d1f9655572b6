import Porter.Sql.Table

/-!
# Idempotency records

`internal/store/idempotency.go`: the stored answers of mutating requests, at most one for each key.
-/
namespace Porter.Store

open Sql

/-- How PostgreSQL keeps a text in a `jsonb` column, which refuses what is not JSON. -/
structure JsonColumn (V : Type) where
  store : String → Option String
  value : String → Option V
  value_store : ∀ text stored, store text = some stored → value stored = value text

structure IdempotencyRecord where
  statusCode : Nat
  response : String
deriving DecidableEq

/-- A row of `idempotency_keys`, with the request whose answer it records as its origin. -/
structure IdempotencyRow (π : Type) where
  key : String
  record : IdempotencyRecord
  origin : π
deriving DecidableEq

abbrev IdempotencyTable (π : Type) := Table (IdempotencyRow.key (π := π))

variable {π V : Type}

def idempotencyRow (table : IdempotencyTable π) (fault : Bool) (key : String) :
    Option (IdempotencyRow π) :=
  if fault then none else table.find key

def getIdempotency (table : IdempotencyTable π) (fault : Bool) (key : String) :
    Option IdempotencyRecord :=
  (idempotencyRow table fault key).map IdempotencyRow.record

def storedResponse (response : String) : String := if response = "" then "\x7b\x7d" else response

/-- `PutIdempotency`: an error is only logged, and a key that is stored keeps its record. -/
def putIdempotency (column : JsonColumn V) (table : IdempotencyTable π) (fault : Bool) (origin : π)
    (key : String) (statusCode : Nat) (response : String) : IdempotencyTable π :=
  if fault then table
  else
    match column.store (storedResponse response) with
    | none => table
    | some stored => table.insertIgnore ⟨key, ⟨statusCode, stored⟩, origin⟩

theorem idempotencyRow_mem {table : IdempotencyTable π} {fault : Bool} {key : String}
    {row : IdempotencyRow π} (found : idempotencyRow table fault key = some row) :
    row ∈ table.rows ∧ row.key = key := by
  unfold idempotencyRow at found
  split at found
  · cases found
  · exact (Table.find_eq_some _ _ _).mp found

theorem mem_putIdempotency {column : JsonColumn V} {table : IdempotencyTable π} {fault : Bool}
    {origin : π} {key : String} {statusCode : Nat} {response : String} {row : IdempotencyRow π}
    (stored : row ∈ (putIdempotency column table fault origin key statusCode response).rows) :
    row ∈ table.rows ∨
      row.key = key ∧ row.origin = origin ∧ row.record.statusCode = statusCode ∧
        column.value row.record.response = column.value (storedResponse response) := by
  unfold putIdempotency at stored
  split at stored
  · exact Or.inl stored
  · split at stored
    · exact Or.inl stored
    · rename_i text cast
      rcases (Table.mem_insertIgnore _ _ _).mp stored with old | ⟨rfl, -⟩
      · exact Or.inl old
      · exact Or.inr ⟨rfl, rfl, rfl, column.value_store _ _ cast⟩

end Porter.Store
