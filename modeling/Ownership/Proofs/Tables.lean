import Ownership.Proofs.Text.Sorting
import Ownership.Table

/-!
# Tables as functions of their keys

A table that was filled by writing has each key once, so looking a key up and finding it among the
entries are the same.  A key that is new goes to the end.
-/

namespace Ownership

theorem find?_reverse_append_singleton (kind : α → Bool) (row : List α) (last : α) :
    (row ++ [last]).reverse.find? kind =
      if kind last = true then some last else row.reverse.find? kind := by
  rw [List.reverse_append, List.reverse_singleton, List.singleton_append, List.find?_cons]
  cases kind last <;> rfl

namespace Table

variable {κ : Type u} {κ' : Type w} {ν : Type v}

def rename (name : κ → κ') (table : Table κ ν) : Table κ' ν :=
  ⟨table.entries.map fun entry => (name entry.1, entry.2)⟩

theorem values_rename (name : κ → κ') (table : Table κ ν) :
    (table.rename name).values = table.values := by
  unfold values rename
  rw [List.map_map]
  rfl

variable [DecidableEq κ] {table : Table κ ν} {key other : κ} {value fallback : ν}

/-!
# Keys
-/

theorem entries_insert_of_notMem (h : key ∉ table.keys) :
    (table.insert key value).entries = table.entries ++ [(key, value)] := by
  rcases table with ⟨entries⟩
  change insertEntry key value entries = entries ++ [(key, value)]
  change key ∉ entries.map Prod.fst at h
  induction entries with
  | nil => rfl
  | cons entry rest ih =>
      rw [List.map_cons, List.mem_cons, not_or] at h
      rw [insertEntry, if_neg (Ne.symm h.1), ih h.2]
      rfl

theorem keys_insert (table : Table κ ν) (key : κ) (value : ν) :
    (table.insert key value).keys = if key ∈ table.keys then table.keys else table.keys ++ [key] := by
  split
  · rename_i hold
    rcases table with ⟨entries⟩
    change key ∈ entries.map Prod.fst at hold
    change (insertEntry key value entries).map Prod.fst = entries.map Prod.fst
    induction entries with
    | nil => cases hold
    | cons entry rest ih =>
        rw [insertEntry]
        split
        · rename_i hkey
          rw [List.map_cons, List.map_cons, hkey]
        · rename_i hkey
          have hlater := (List.mem_cons.mp hold).resolve_left (Ne.symm hkey)
          rw [List.map_cons, List.map_cons, ih hlater]
  · rename_i hnew
    unfold keys
    rw [entries_insert_of_notMem hnew, List.map_append, List.map_singleton]

theorem mem_keys_insert :
    other ∈ (table.insert key value).keys ↔ other = key ∨ other ∈ table.keys := by
  rw [keys_insert]
  split
  · rename_i hold
    constructor
    · exact .inr
    · intro h
      rcases h with rfl | h
      · exact hold
      · exact h
  · rw [List.mem_append, List.mem_singleton]
    exact Or.comm

theorem nodup_keys_insert (h : table.keys.Nodup) : (table.insert key value).keys.Nodup := by
  rw [keys_insert]
  split
  · exact h
  · rename_i hnew
    exact List.nodup_append_comm.mp (List.nodup_cons.mpr ⟨hnew, h⟩)

/-!
# Entries
-/

theorem mem_entries_insert {entry : κ × ν} (h : entry ∈ (table.insert key value).entries) :
    entry = (key, value) ∨ entry ∈ table.entries := by
  rcases table with ⟨entries⟩
  change entry ∈ insertEntry key value entries at h
  induction entries with
  | nil => exact .inl (List.mem_singleton.mp h)
  | cons first rest ih =>
      rw [insertEntry] at h
      split at h
      · rcases List.mem_cons.mp h with heq | hrest
        · exact .inl heq
        · exact .inr (List.mem_cons_of_mem first hrest)
      · rcases List.mem_cons.mp h with heq | hrest
        · exact .inr (heq ▸ List.mem_cons_self)
        · rcases ih hrest with heq | hold
          · exact .inl heq
          · exact .inr (List.mem_cons_of_mem first hold)

theorem insert_insert (table : Table κ ν) (key : κ) (value later : ν) :
    (table.insert key value).insert key later = table.insert key later := by
  rcases table with ⟨entries⟩
  unfold insert
  congr 1
  induction entries with
  | nil => simp [insertEntry]
  | cons entry rest ih =>
      by_cases h : entry.1 = key
      · simp [insertEntry, h]
      · simp_all [insertEntry]

/-!
# Values
-/

theorem get?_eq_some_iff (h : table.keys.Nodup) :
    table.get? key = some value ↔ (key, value) ∈ table.entries := by
  rcases table with ⟨entries⟩
  change (entries.map Prod.fst).Nodup at h
  change (entries.find? fun entry => entry.1 = key).map Prod.snd = some value ↔ _ ∈ entries
  induction entries with
  | nil => simp
  | cons entry rest ih =>
      rw [List.map_cons, List.nodup_cons] at h
      by_cases hkey : entry.1 = key
      · have hrest : (key, value) ∉ rest := by
          intro hmem
          exact h.1 (hkey ▸ List.mem_map_of_mem hmem)
        rw [List.find?_cons_of_pos (by simpa using hkey), Option.map_some, Option.some.injEq,
          List.mem_cons, or_iff_left hrest]
        constructor
        · intro heq
          rw [← heq, ← hkey]
        · intro heq
          rw [← heq]
      · rw [List.find?_cons_of_neg (by simpa using hkey), ih h.2, List.mem_cons]
        constructor
        · exact .inr
        · intro hmem
          rcases hmem with heq | hrest
          · exact absurd (congrArg Prod.fst heq).symm hkey
          · exact hrest

theorem get?_eq_none_iff : table.get? key = none ↔ key ∉ table.keys := by
  unfold get? keys
  rw [Option.map_eq_none_iff, List.find?_eq_none, List.mem_map]
  constructor
  · intro h hmem
    rcases hmem with ⟨entry, hentry, hkey⟩
    exact h entry hentry (decide_eq_true hkey)
  · intro h entry hentry hkey
    exact h ⟨entry, hentry, of_decide_eq_true hkey⟩

theorem get?_filter (table : Table κ ν) (keep : κ → Bool) (key : κ) :
    (⟨table.entries.filter fun entry => keep entry.1⟩ : Table κ ν).get? key =
      if keep key = true then table.get? key else none := by
  unfold get?
  rw [List.find?_filter]
  split
  · rename_i hkeep
    congr 2
    funext entry
    by_cases hentry : entry.1 = key
    · simp [hentry, hkeep]
    · simp [hentry]
  · rename_i hdrop
    rw [Option.map_eq_none_iff, List.find?_eq_none]
    intro entry _ hentry
    rcases of_decide_eq_true hentry with ⟨hkeep, hkey⟩
    rw [of_decide_eq_true hkey] at hkeep
    exact hdrop hkeep

theorem get?_erase (table : Table κ ν) (key other : κ) :
    (table.erase key).get? other = if key = other then none else table.get? other := by
  unfold erase
  rw [get?_filter table (fun known => decide (known ≠ key))]
  by_cases h : key = other
  · rw [if_pos h, h]
    simp
  · rw [if_neg h]
    simp [Ne.symm h]

theorem getD_insert (table : Table κ ν) (key other : κ) (value fallback : ν) :
    (table.insert key value).getD other fallback =
      if key = other then value else table.getD other fallback := by
  unfold getD
  rw [get?_insert]
  split
  · rfl
  · rfl

theorem get?_insert_all (table : Table κ ν) (keys : List κ) (value : ν) (other : κ) :
    (keys.foldl (fun table key => table.insert key value) table).get? other =
      if other ∈ keys then some value else table.get? other := by
  induction keys generalizing table with
  | nil => simp
  | cons first rest ih =>
      rw [List.foldl_cons, ih, get?_insert]
      by_cases hrest : other ∈ rest
      · simp [hrest]
      · by_cases hfirst : first = other
        · simp [hrest, hfirst]
        · simp [hrest, hfirst, Ne.symm hfirst]

theorem getD_eq_of_mem (h : table.keys.Nodup) (hmem : (key, value) ∈ table.entries) :
    table.getD key fallback = value := by
  unfold getD
  rw [(get?_eq_some_iff h).mpr hmem]
  rfl

theorem getD_of_notMem (h : key ∉ table.keys) : table.getD key fallback = fallback := by
  unfold getD
  rw [get?_eq_none_iff.mpr h]
  rfl

theorem map_get?_keys (h : table.keys.Nodup) : table.keys.map table.get? = table.values.map some := by
  unfold keys values
  rw [List.map_map, List.map_map]
  apply List.map_congr_left
  intro entry hentry
  exact (get?_eq_some_iff h).mpr hentry

/-- Names that tell the key from all others find its place. -/
theorem rename_insert [DecidableEq κ'] {name : κ → κ'}
    (h : ∀ other ∈ table.keys, name other = name key → other = key) :
    (table.insert key value).rename name = (table.rename name).insert (name key) value := by
  rcases table with ⟨entries⟩
  unfold rename insert
  congr 1
  change ∀ other ∈ entries.map Prod.fst, name other = name key → other = key at h
  dsimp only
  induction entries with
  | nil => rfl
  | cons entry rest ih =>
      have hrest := ih fun other hother => h other (List.mem_cons_of_mem _ hother)
      by_cases hkey : entry.1 = key
      · simp [insertEntry, hkey]
      · have hname : name entry.1 ≠ name key := fun hname =>
          hkey (h entry.1 List.mem_cons_self hname)
        simp [insertEntry, hkey, hname, hrest]

/-!
# Tables from entries

What was written first gives the place, and what was written last gives the value.
-/

section

variable {κ : Type} [DecidableEq κ]

theorem ofList_append_singleton (entries : List (κ × ν)) (entry : κ × ν) :
    ofList (entries ++ [entry]) = (ofList entries).insert entry.1 entry.2 := by
  unfold ofList
  rw [List.foldl_append]
  rfl

theorem keys_ofList (entries : List (κ × ν)) :
    (ofList entries).keys = (entries.map Prod.fst).eraseDups := by
  induction entries using List.reverseRecOn with
  | nil => rfl
  | append_singleton earlier entry ih =>
      rw [ofList_append_singleton, keys_insert, ih, List.map_append, List.map_singleton,
        Text.eraseDups_append_singleton]
      simp only [List.mem_eraseDups]

theorem get?_ofList (entries : List (κ × ν)) (key : κ) :
    (ofList entries).get? key =
      (entries.reverse.find? fun entry => entry.1 = key).map Prod.snd := by
  induction entries using List.reverseRecOn with
  | nil => rfl
  | append_singleton earlier entry ih =>
      rw [ofList_append_singleton, get?_insert, find?_reverse_append_singleton, ih]
      by_cases hkey : entry.1 = key
      · simp [hkey]
      · simp [hkey]

end

end Table
end Ownership
