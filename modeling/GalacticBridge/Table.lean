import Mathlib.Algebra.Group.Nat.Basic
import Mathlib.Data.Nat.Defs
import Mathlib.Logic.Basic

/-! The collections of the minter state. A `HashMap` or a set is read only through lookups,
inserts and removals, so it is modelled by its lookup function. -/

namespace GalacticBridge

@[ext] structure Table (κ ν : Type) where
  get : κ → Option ν

namespace Table

variable {κ ν : Type}

def empty : Table κ ν := ⟨fun _ => none⟩

def containsKey (table : Table κ ν) (key : κ) : Bool := (table.get key).isSome

@[simp] theorem get_empty (key : κ) : (empty : Table κ ν).get key = none := rfl

@[simp] theorem containsKey_eq (table : Table κ ν) (key : κ) :
    table.containsKey key = (table.get key).isSome :=
  rfl

variable [DecidableEq κ]

def insert (table : Table κ ν) (key : κ) (value : ν) : Table κ ν :=
  ⟨fun other => if other = key then some value else table.get other⟩

def erase (table : Table κ ν) (key : κ) : Table κ ν :=
  ⟨fun other => if other = key then none else table.get other⟩

def modify (table : Table κ ν) (key : κ) (update : ν → ν) : Table κ ν :=
  ⟨fun other => if other = key then (table.get key).map update else table.get other⟩

@[simp] theorem get_insert (table : Table κ ν) (key other : κ) (value : ν) :
    (table.insert key value).get other = if other = key then some value else table.get other :=
  rfl

@[simp] theorem get_erase (table : Table κ ν) (key other : κ) :
    (table.erase key).get other = if other = key then none else table.get other :=
  rfl

@[simp] theorem get_modify (table : Table κ ν) (key other : κ) (update : ν → ν) :
    (table.modify key update).get other =
      if other = key then (table.get key).map update else table.get other :=
  rfl

theorem modify_of_get_some {table : Table κ ν} {key : κ} {value : ν} (update : ν → ν)
    (found : table.get key = some value) :
    table.modify key update = table.insert key (update value) := by
  ext other
  by_cases same : other = key <;> simp [same, found]

@[simp] theorem erase_insert (table : Table κ ν) (key : κ) (value : ν) :
    (table.erase key).insert key value = table.insert key value := by
  ext other
  by_cases same : other = key <;> simp [same]

def insertAll (table : Table κ ν) (entries : List (κ × ν)) : Table κ ν :=
  entries.foldl (fun table entry => table.insert entry.1 entry.2) table

theorem get_insertAll_of_not_mem {key : κ} :
    ∀ {entries : List (κ × ν)} {table : Table κ ν}, key ∉ entries.map Prod.fst →
      (table.insertAll entries).get key = table.get key
  | [], _, _ => rfl
  | entry :: entries, table, absent => by
    simp only [List.map_cons, List.mem_cons, not_or] at absent
    rw [insertAll, List.foldl_cons, ← insertAll, get_insertAll_of_not_mem absent.2, get_insert,
      if_neg absent.1]

theorem get_insertAll_of_mem {key : κ} {value : ν} :
    ∀ {entries : List (κ × ν)} {table : Table κ ν}, (entries.map Prod.fst).Nodup →
      (key, value) ∈ entries → (table.insertAll entries).get key = some value
  | [], _, _, listed => absurd listed (List.not_mem_nil _)
  | entry :: entries, table, distinct, listed => by
    rw [List.map_cons, List.nodup_cons] at distinct
    rw [insertAll, List.foldl_cons, ← insertAll]
    rcases List.mem_cons.mp listed with rfl | later
    · rw [get_insertAll_of_not_mem distinct.1, get_insert, if_pos rfl]
    · exact get_insertAll_of_mem distinct.2 later

end Table

end GalacticBridge
