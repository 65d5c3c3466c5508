/-!
# Tables in order of first insertion

A table keeps its entries in the order in which their keys first came in.  Writing a key that
is already there replaces the value and keeps the place, so listing a table shows the order of
discovery together with the latest values.
-/

namespace Ownership

structure Table (κ : Type u) (ν : Type v) where
  entries : List (κ × ν) := []
deriving Repr, DecidableEq

namespace Table

variable {κ : Type u} {ν : Type v}

def empty : Table κ ν := ⟨[]⟩

instance : Inhabited (Table κ ν) := ⟨empty⟩

def keys (table : Table κ ν) : List κ := table.entries.map Prod.fst

def values (table : Table κ ν) : List ν := table.entries.map Prod.snd

def size (table : Table κ ν) : Nat := table.entries.length

variable [DecidableEq κ]

/-!
# Reading and writing

Both walk the entries once.  `insertEntry` is the list operation behind `insert`.
-/

def get? (table : Table κ ν) (key : κ) : Option ν :=
  (table.entries.find? fun entry => entry.1 = key).map Prod.snd

def contains (table : Table κ ν) (key : κ) : Bool :=
  (table.get? key).isSome

def getD (table : Table κ ν) (key : κ) (fallback : ν) : ν :=
  (table.get? key).getD fallback

def insertEntry (key : κ) (value : ν) : List (κ × ν) → List (κ × ν)
  | [] => [(key, value)]
  | entry :: rest =>
      if entry.1 = key then (key, value) :: rest else entry :: insertEntry key value rest

def insert (table : Table κ ν) (key : κ) (value : ν) : Table κ ν :=
  ⟨insertEntry key value table.entries⟩

def erase (table : Table κ ν) (key : κ) : Table κ ν :=
  ⟨table.entries.filter fun entry => entry.1 ≠ key⟩

/-- A later entry with an equal key wins and keeps the place of the first. -/
def ofList (entries : List (κ × ν)) : Table κ ν :=
  entries.foldl (fun table entry => table.insert entry.1 entry.2) empty

theorem insertEntry_find? (key : κ) (value : ν) (entries : List (κ × ν)) (other : κ) :
    (insertEntry key value entries).find? (fun entry => entry.1 = other) =
      if key = other then some (key, value)
      else entries.find? (fun entry => entry.1 = other) := by
  induction entries with
  | nil => by_cases h : key = other <;> simp [insertEntry, h]
  | cons entry rest ih =>
      by_cases hkey : entry.1 = key
      · subst hkey
        by_cases h : entry.1 = other <;> simp [insertEntry, h]
      · by_cases hother : entry.1 = other
        · have h : key ≠ other := fun h => hkey (hother.trans h.symm)
          rw [insertEntry, if_neg hkey]
          simp [hother, h]
        · simp [insertEntry, hkey, hother, ih]

theorem get?_insert (table : Table κ ν) (key : κ) (value : ν) (other : κ) :
    (table.insert key value).get? other =
      if key = other then some value else table.get? other := by
  by_cases h : key = other <;> simp [get?, insert, insertEntry_find?, h]

end Table
end Ownership
