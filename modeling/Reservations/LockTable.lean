import Reservations.Ulid
import Std.Data.TreeMap

namespace Reservations

/-! ## Locks on resources

Whoever decides about a resource first takes a lease on its lock and then waits
in line for its mutex. The entry of a resource is made by its first lease and
goes with its last one. -/

/-- How far a caller with a lease has come. -/
inductive Stage where
  /-- In line for the mutex. -/
  | waiting
  | holding
  /-- Out of line, with the lease still to be given back. -/
  | leaving
  deriving DecidableEq, Repr

/-- The claim of a caller on the entry of a resource. -/
structure Lease where
  holder : String
  resource : Ulid
  mutex : Nat
  stage : Stage
  deriving DecidableEq, Repr

/-- The entry of a resource: its mutex, and how many leases there are on it. -/
structure LockEntry where
  mutex : Nat
  users : Nat
  deriving DecidableEq, Repr, Inhabited

/-- The entries of all resources, and the leases in the order they were
taken. -/
structure LockTable where
  entries : Std.TreeMap Ulid LockEntry := ∅
  leases : List Lease := []
  /-- The next mutex to be made. -/
  fresh : Nat := 0

namespace LockTable

/-- Takes a lease, which puts the caller in line. -/
def lease (table : LockTable) (holder : String) (resource : Ulid) : LockTable :=
  match table.entries[resource]? with
  | some entry =>
      { table with
        entries := table.entries.insert resource { entry with users := entry.users + 1 }
        leases := table.leases ++ [⟨holder, resource, entry.mutex, .waiting⟩] }
  | none =>
      { entries := table.entries.insert resource ⟨table.fresh, 1⟩
        leases := table.leases ++ [⟨holder, resource, table.fresh, .waiting⟩]
        fresh := table.fresh + 1 }

/-- Gives the mutex to a waiting caller if nobody else is before it in line or
holds the mutex. The mutexes of the leases before it are given. -/
def takeFrom (holder : String) (before : List Nat) : List Lease → List Lease
  | [] => []
  | lease :: leases =>
      let inLine := if lease.stage = .leaving then before else lease.mutex :: before
      if lease.holder = holder ∧ lease.stage = .waiting ∧ ¬ lease.mutex ∈ before then
        { lease with stage := .holding } :: leases
      else lease :: takeFrom holder inLine leases

/-- Gives the mutex to a waiting caller whose turn it is. -/
def take (table : LockTable) (holder : String) : LockTable :=
  { table with leases := takeFrom holder [] table.leases }

/-- Takes a caller out of line, or the mutex back from it. -/
def leave (table : LockTable) (holder : String) : LockTable :=
  { table with
    leases := table.leases.map fun lease =>
      if lease.holder = holder then { lease with stage := .leaving } else lease }

/-- One lease fewer on the entry of a resource. -/
def release (entries : Std.TreeMap Ulid LockEntry) (resource : Ulid) :
    Std.TreeMap Ulid LockEntry :=
  entries.alter resource fun entry? =>
    match entry? with
    | some entry =>
        if entry.users ≤ 1 then none else some { entry with users := entry.users - 1 }
    | none => none

/-- Gives back the lease of a caller that has left. -/
def giveBack (table : LockTable) (holder : String) : LockTable :=
  match table.leases.find? fun lease => lease.holder = holder ∧ lease.stage = .leaving with
  | some lease =>
      { table with
        entries := release table.entries lease.resource
        leases := table.leases.erase lease }
  | none => table

/-- A caller asks for a lock, and has it if nobody is in line before. -/
def acquire (table : LockTable) (holder : String) (resource : Ulid) : LockTable :=
  (table.lease holder resource).take holder

/-- A caller gives up a lock, or waiting for it. -/
def drop (table : LockTable) (holder : String) : LockTable :=
  (table.leave holder).giveBack holder

/-- How many resources have an entry. -/
def size (table : LockTable) : Nat :=
  table.entries.size

/-- The callers that hold a lock or wait for one. -/
def callers (table : LockTable) : List (String × Bool) :=
  (table.leases.filter fun lease => lease.stage ≠ .leaving).map fun lease =>
    (lease.holder, lease.stage = .holding)

end LockTable

end Reservations
