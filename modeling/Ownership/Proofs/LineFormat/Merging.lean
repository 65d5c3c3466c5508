import Ownership.Proofs.LineFormat.Gathering

/-!
# What the tables hold

The owners of all files stand in a table of their own, and those of a row in the block of the row;
seen by their path expressions they are the same kind of thing.  After any number of sets were put
in, the owners for some path expressions are those of the sets for them, each with the remarks that
it has in any of them, and the sets that are gathered show all of this in one order.
-/

namespace Ownership
namespace LineFormat

variable {email : String} {remark : Remark} {owners : Owners} {refs : List OwnerRef}
  {ref : OwnerRef} {row : List String} {gathered : Gathered} {set : OwnerSet} {sets : List OwnerSet}

/-!
# Remarks of joined owners
-/

theorem mem_remarks_addOwner {name : String} {remarks : List Remark} :
    remark ∈ (addOwner owners name remarks).getD email [] ↔
      remark ∈ owners.getD email [] ∨ name = email ∧ remark ∈ remarks := by
  unfold addOwner
  rw [Table.getD_insert]
  split
  · rename_i hsame
    rw [mem_mergeRemarks, hsame]
    simp
  · rename_i hother
    simp [hother]

theorem mem_remarks_joinOwners : remark ∈ (joinOwners owners refs).getD email [] ↔
    remark ∈ owners.getD email [] ∨ ∃ ref ∈ refs, ref.email = email ∧ remark ∈ ref.remarks := by
  induction refs generalizing owners with
  | nil => simp [joinOwners]
  | cons ref refs ih =>
      change remark ∈ (joinOwners (addOwner owners ref.email ref.remarks) refs).getD email [] ↔ _
      rw [ih, mem_remarks_addOwner]
      simp [or_assoc]

/-!
# Owners by path expressions
-/

/-- The owners for a row of path expressions; no path expressions stand for all files. -/
def Gathered.ownersAt (gathered : Gathered) (row : List String) : Owners :=
  if row = [] then gathered.owners else (gathered.blocks.getD row {}).owners

def Gathered.overridesAt (gathered : Gathered) (row : List String) : Bool :=
  if row = [] then false else (gathered.blocks.getD row {}).overrides

theorem ownersAt_put : (gathered.put set).ownersAt row =
    if set.globs = row then joinOwners (gathered.ownersAt row) set.owners
    else gathered.ownersAt row := by
  unfold Gathered.ownersAt
  by_cases hglobal : set.globs = []
  · rw [put_global hglobal, hglobal]
    by_cases hrow : row = []
    · simp [hrow]
    · simp [hrow, Ne.symm hrow]
  · rw [put_row hglobal]
    by_cases hrow : row = []
    · simp [hrow, hglobal]
    · dsimp only
      rw [if_neg hrow, if_neg hrow, Table.getD_insert]
      split
      · rename_i hsame
        rw [hsame]
      · rfl

theorem overridesAt_put : (gathered.put set).overridesAt row = true ↔
    gathered.overridesAt row = true ∨ row ≠ [] ∧ set.globs = row ∧ set.overrides = true := by
  unfold Gathered.overridesAt
  by_cases hrow : row = []
  · simp [hrow]
  rw [if_neg hrow, if_neg hrow]
  by_cases hglobal : set.globs = []
  · rw [put_global hglobal, hglobal]
    simp [Ne.symm hrow]
  · rw [put_row hglobal]
    dsimp only
    rw [Table.getD_insert]
    split
    · rename_i hsame
      simp [hsame, hrow]
    · rename_i hother
      simp [hother]

theorem mem_keys_ownersAt_putAll : email ∈ ((sets.foldl Gathered.put gathered).ownersAt row).keys ↔
    email ∈ (gathered.ownersAt row).keys ∨
      ∃ set ∈ sets, set.globs = row ∧ ∃ ref ∈ set.owners, ref.email = email := by
  induction sets generalizing gathered with
  | nil => simp
  | cons set sets ih =>
      rw [List.foldl_cons, ih, ownersAt_put]
      split
      · rename_i hsame
        rw [mem_keys_joinOwners, List.mem_map]
        simp [hsame, or_assoc]
      · rename_i hother
        simp [hother]

theorem mem_remarks_ownersAt_putAll :
    remark ∈ ((sets.foldl Gathered.put gathered).ownersAt row).getD email [] ↔
      remark ∈ (gathered.ownersAt row).getD email [] ∨
        ∃ set ∈ sets, set.globs = row ∧
          ∃ ref ∈ set.owners, ref.email = email ∧ remark ∈ ref.remarks := by
  induction sets generalizing gathered with
  | nil => simp
  | cons set sets ih =>
      rw [List.foldl_cons, ih, ownersAt_put]
      split
      · rename_i hsame
        rw [mem_remarks_joinOwners]
        simp [hsame, or_assoc]
      · rename_i hother
        simp [hother]

theorem overridesAt_putAll : (sets.foldl Gathered.put gathered).overridesAt row = true ↔
    gathered.overridesAt row = true ∨
      row ≠ [] ∧ ∃ set ∈ sets, set.globs = row ∧ set.overrides = true := by
  induction sets generalizing gathered with
  | nil => simp
  | cons set sets ih =>
      rw [List.foldl_cons, ih, overridesAt_put, or_assoc, ← and_or_left]
      simp

/-!
# The sets in order
-/

theorem pairwise_sortedOwners (h : owners.keys.Nodup) :
    (sortedOwners owners).Pairwise fun a b => a.email < b.email :=
  List.pairwise_map.mpr (Text.pairwise_lt_sortedBy Prod.fst h)

theorem Gathered.Sound.ownersAt (h : gathered.Sound) (row : List String) :
    (gathered.ownersAt row).keys.Nodup ∧
      ∀ entry ∈ (gathered.ownersAt row).entries, entry.2.Nodup := by
  unfold Gathered.ownersAt
  split
  · exact ⟨h.owners.nodup, fun entry hentry => (h.owners.remarks entry hentry).1⟩
  · have hblock := h.blockOwners row
    exact ⟨hblock.nodup, fun entry hentry => (hblock.remarks entry hentry).1⟩

theorem Block.tells_iff {block : Block} :
    block.tells = true ↔ sortedOwners block.owners ≠ [] ∨ block.overrides = true := by
  unfold Block.tells
  rw [Bool.or_eq_true, Bool.not_eq_true', List.isEmpty_eq_false_iff, ne_eq, ne_eq,
    sortedOwners_eq_nil]

theorem ownersAt_of_mem (h : gathered.Sound) {entry : List String × Block}
    (hentry : entry ∈ gathered.blocks.entries) :
    gathered.ownersAt entry.1 = entry.2.owners ∧
      gathered.overridesAt entry.1 = entry.2.overrides := by
  have hrow : entry.1 ≠ [] := (h.blocks entry hentry).1.nonempty
  unfold Gathered.ownersAt Gathered.overridesAt
  rw [if_neg hrow, if_neg hrow, Table.getD_eq_of_mem h.rows hentry]
  exact ⟨rfl, rfl⟩

theorem mem_entries_of_tells (hrow : row ≠ [])
    (htells : sortedOwners (gathered.ownersAt row) ≠ [] ∨ gathered.overridesAt row = true)
    (h : gathered.Sound) : ∃ block, (row, block) ∈ gathered.blocks.entries := by
  cases hget : gathered.blocks.get? row with
  | some block => exact ⟨block, (Table.get?_eq_some_iff h.rows).mp hget⟩
  | none =>
      have hempty : gathered.blocks.getD row {} = {} :=
        Table.getD_of_notMem (Table.get?_eq_none_iff.mp hget)
      unfold Gathered.ownersAt Gathered.overridesAt at htells
      rw [if_neg hrow, if_neg hrow, hempty] at htells
      rcases htells with howners | hoverrides
      · exact absurd (sortedOwners_eq_nil.mpr rfl) howners
      · cases hoverrides

theorem global_mem_sets (h : sortedOwners gathered.owners ≠ []) :
    ({ owners := sortedOwners gathered.owners } : OwnerSet) ∈ gathered.sets := by
  have hentries : gathered.owners.entries.isEmpty = false := by
    rw [List.isEmpty_eq_false_iff, ne_eq, ← sortedOwners_eq_nil]
    exact h
  rw [sets_eq, hentries, if_neg Bool.false_ne_true]
  exact List.mem_append_left _ (List.mem_singleton_self _)

theorem blockSet_mem_sets {entry : List String × Block}
    (hentry : entry ∈ gathered.blocks.entries) (htells : entry.2.tells = true) :
    blockSet entry ∈ gathered.sets := by
  rw [sets_eq]
  exact List.mem_append_right _ (List.mem_map_of_mem (mem_tellingRows.mpr ⟨hentry, htells⟩))

/-- The sets that are gathered are those for which the tables say something. -/
theorem mem_sets_iff (h : gathered.Sound) : set ∈ gathered.sets ↔
    set.owners = sortedOwners (gathered.ownersAt set.globs) ∧
      set.overrides = gathered.overridesAt set.globs ∧
        (set.owners ≠ [] ∨ set.overrides = true) := by
  constructor
  · intro hset
    rw [sets_eq, List.mem_append, List.mem_map] at hset
    rcases hset with hglobal | ⟨entry, hentry, rfl⟩
    · split at hglobal
      · cases hglobal
      · rename_i hsome
        rw [List.mem_singleton.mp hglobal]
        refine ⟨rfl, rfl, .inl ?_⟩
        rw [ne_eq, sortedOwners_eq_nil, ← List.isEmpty_iff]
        exact hsome
    · rcases mem_tellingRows.mp hentry with ⟨hmem, htells⟩
      rcases ownersAt_of_mem h hmem with ⟨howners, hoverrides⟩
      unfold blockSet
      dsimp only
      rw [howners, hoverrides]
      exact ⟨rfl, rfl, Block.tells_iff.mp htells⟩
  · intro hset
    rcases set with ⟨globs, refs, overrides⟩
    rcases hset with ⟨howners, hoverrides, htells⟩
    dsimp only at howners hoverrides htells
    subst howners hoverrides
    by_cases hglobal : globs = []
    · subst hglobal
      rcases htells with hsome | hcuts
      · exact global_mem_sets hsome
      · cases hcuts
    · rcases mem_entries_of_tells hglobal htells h with ⟨block, hblock⟩
      rcases ownersAt_of_mem h hblock with ⟨howners, hoverrides⟩
      dsimp only at howners hoverrides
      rw [howners, hoverrides] at htells ⊢
      exact blockSet_mem_sets hblock (Block.tells_iff.mpr htells)

theorem pairwise_sets (h : gathered.Sound) :
    gathered.sets.Pairwise fun a b => a.globs < b.globs := by
  rw [sets_eq, List.pairwise_append]
  refine ⟨?_, List.pairwise_map.mpr (pairwise_tellingRows h), ?_⟩
  · split
    · exact List.Pairwise.nil
    · exact List.pairwise_singleton _ _
  · intro a ha b hb
    rcases List.mem_map.mp hb with ⟨entry, hentry, rfl⟩
    have hrow := (h.blocks entry (mem_tellingRows.mp hentry).1).1.nonempty
    split at ha
    · cases ha
    · rw [List.mem_singleton.mp ha]
      change [] < entry.1
      cases hglobs : entry.1 with
      | nil => exact absurd hglobs hrow
      | cons first others => exact List.nil_lt_cons first others

end LineFormat
end Ownership
