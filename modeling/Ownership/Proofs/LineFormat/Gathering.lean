import Ownership.LineFormat.Writer
import Ownership.Proofs.LineFormat.Statements
import Ownership.Proofs.Tables
import Ownership.Proofs.Text.Sorting

/-!
# Gathering sets of owners

Reading and writing both gather sets of owners in tables: a set comes together with what is there
already for the same files.  Putting a set into the tables is the one step of both, and the sets that
are gathered in the end, put into empty tables in any order of their owners, give themselves back.
-/

namespace Ownership
namespace LineFormat

variable {remark : Remark} {present added remarks : List Remark} {email name : String}
  {owners : Owners} {refs : List OwnerRef} {ref : OwnerRef} {globs : List String} {block : Block}
  {gathered : Gathered} {set other : OwnerSet}

/-!
# Remarks of one owner
-/

theorem mem_mergeRemarks :
    remark ∈ mergeRemarks present added ↔ remark ∈ present ∨ remark ∈ added := by
  induction added generalizing present with
  | nil => simp [mergeRemarks]
  | cons first others ih =>
      change remark ∈ mergeRemarks (if first ∈ present then present else present ++ [first]) others ↔ _
      rw [ih]
      split
      · rename_i hfirst
        constructor
        · intro h
          exact h.imp_right (List.mem_cons_of_mem first)
        · intro h
          rcases h with hpresent | hadded
          · exact .inl hpresent
          · rcases List.mem_cons.mp hadded with rfl | hothers
            · exact .inl hfirst
            · exact .inr hothers
      · simp [or_assoc]

theorem nodup_mergeRemarks (h : present.Nodup) : (mergeRemarks present added).Nodup := by
  induction added generalizing present with
  | nil => exact h
  | cons first others ih =>
      change (mergeRemarks (if first ∈ present then present else present ++ [first]) others).Nodup
      apply ih
      split
      · exact h
      · rename_i hfirst
        rw [List.nodup_append]
        refine ⟨h, List.nodup_singleton first, ?_⟩
        intro a ha b hb
        rw [List.mem_singleton] at hb
        intro heq
        exact hfirst (hb ▸ heq ▸ ha)

theorem mergeRemarks_of_nodup (h : (present ++ added).Nodup) :
    mergeRemarks present added = present ++ added := by
  induction added generalizing present with
  | nil => exact (List.append_nil present).symm
  | cons first others ih =>
      have hfirst : first ∉ present := by
        intro hmem
        exact (List.nodup_append.mp h).2.2 first hmem first List.mem_cons_self rfl
      rw [List.append_cons] at h ⊢
      rw [← ih h]
      change mergeRemarks (if first ∈ present then present else present ++ [first]) others = _
      rw [if_neg hfirst]

/-!
# Owners by email
-/

def joinOwners (owners : Owners) (refs : List OwnerRef) : Owners :=
  refs.foldl (fun owners ref => addOwner owners ref.email ref.remarks) owners

theorem joinOwners_append (owners : Owners) (refs more : List OwnerRef) :
    joinOwners owners (refs ++ more) = joinOwners (joinOwners owners refs) more :=
  List.foldl_append

theorem mem_keys_joinOwners :
    name ∈ (joinOwners owners refs).keys ↔ name ∈ owners.keys ∨ name ∈ refs.map OwnerRef.email := by
  induction refs generalizing owners with
  | nil => simp [joinOwners]
  | cons ref refs ih =>
      change name ∈ (joinOwners (addOwner owners ref.email ref.remarks) refs).keys ↔ _
      rw [ih, addOwner, Table.mem_keys_insert, List.map_cons, List.mem_cons,
        or_comm (a := name = ref.email), or_assoc]

def ownersOf (refs : List OwnerRef) : Owners := ⟨refs.map fun ref => (ref.email, ref.remarks)⟩

theorem joinOwners_of_nodup (hkeys : (owners.keys ++ refs.map OwnerRef.email).Nodup)
    (hremarks : ∀ ref ∈ refs, ref.remarks.Nodup) :
    joinOwners owners refs = ⟨owners.entries ++ (ownersOf refs).entries⟩ := by
  induction refs generalizing owners with
  | nil =>
      change owners = ⟨owners.entries ++ []⟩
      rw [List.append_nil]
  | cons ref refs ih =>
      have hnew : ref.email ∉ owners.keys := by
        intro hmem
        exact (List.nodup_append.mp hkeys).2.2 _ hmem _ List.mem_cons_self rfl
      have hadd : addOwner owners ref.email ref.remarks =
          ⟨owners.entries ++ [(ref.email, ref.remarks)]⟩ := by
        have hmerged : mergeRemarks [] ref.remarks = ref.remarks :=
          mergeRemarks_of_nodup (hremarks ref List.mem_cons_self)
        unfold addOwner
        rw [Table.getD_of_notMem hnew, hmerged, ← Table.entries_insert_of_notMem hnew]
      have hlater : ((⟨owners.entries ++ [(ref.email, ref.remarks)]⟩ : Owners).keys ++
          refs.map OwnerRef.email).Nodup := by
        rw [List.map_cons, List.append_cons] at hkeys
        simpa [Table.keys] using hkeys
      change joinOwners (addOwner owners ref.email ref.remarks) refs = _
      rw [hadd, ih hlater fun other hother => hremarks other (List.mem_cons_of_mem ref hother)]
      simp [ownersOf]

/-- Every owner can be written as `admits` says, and so can its remarks. -/
structure WritableOwners (admits : String → Prop) (owners : Owners) : Prop where
  nodup : owners.keys.Nodup
  admits : ∀ entry ∈ owners.entries, admits entry.1
  remarks : ∀ entry ∈ owners.entries, entry.2.Nodup ∧ ∀ remark ∈ entry.2, WritableRemark remark

theorem writableOwners_empty (admits : String → Prop) : WritableOwners admits {} where
  nodup := List.nodup_nil
  admits entry hentry := by cases hentry
  remarks entry hentry := by cases hentry

theorem WritableOwners.addOwner {admits : String → Prop} (h : WritableOwners admits owners)
    (hemail : admits email) (hremarks : ∀ remark ∈ remarks, WritableRemark remark) :
    WritableOwners admits (addOwner owners email remarks) := by
  have hpresent : (owners.getD email []).Nodup ∧
      ∀ remark ∈ owners.getD email [], WritableRemark remark := by
    unfold Table.getD
    cases hget : owners.get? email with
    | none =>
        refine ⟨List.nodup_nil, ?_⟩
        intro remark hremark
        cases hremark
    | some found => exact h.remarks _ ((Table.get?_eq_some_iff h.nodup).mp hget)
  refine ⟨Table.nodup_keys_insert h.nodup, ?_, ?_⟩
  · intro entry hentry
    rcases Table.mem_entries_insert hentry with rfl | hold
    · exact hemail
    · exact h.admits entry hold
  · intro entry hentry
    rcases Table.mem_entries_insert hentry with rfl | hold
    · refine ⟨nodup_mergeRemarks hpresent.1, ?_⟩
      intro remark hremark
      rcases mem_mergeRemarks.mp hremark with hmem | hmem
      · exact hpresent.2 remark hmem
      · exact hremarks remark hmem
    · exact h.remarks entry hold

theorem WritableOwners.joinOwners {admits : String → Prop} (h : WritableOwners admits owners)
    (hemails : ∀ ref ∈ refs, admits ref.email)
    (hremarks : ∀ ref ∈ refs, ∀ remark ∈ ref.remarks, WritableRemark remark) :
    WritableOwners admits (joinOwners owners refs) := by
  induction refs generalizing owners with
  | nil => exact h
  | cons ref refs ih =>
      apply ih (h.addOwner (hemails ref List.mem_cons_self) (hremarks ref List.mem_cons_self))
      · intro other hother
        exact hemails other (List.mem_cons_of_mem ref hother)
      · intro other hother
        exact hremarks other (List.mem_cons_of_mem ref hother)

/-!
# Owners in order
-/

theorem entries_ownersOf_sortedOwners (owners : Owners) :
    (ownersOf (sortedOwners owners)).entries =
      owners.entries.mergeSort fun a b => decide (a.1 ≤ b.1) := by
  unfold ownersOf sortedOwners
  rw [List.map_map]
  exact List.map_id _

theorem mem_sortedOwners : ref ∈ sortedOwners owners ↔ (ref.email, ref.remarks) ∈ owners.entries := by
  unfold sortedOwners
  rw [List.mem_map]
  constructor
  · intro h
    rcases h with ⟨entry, hentry, rfl⟩
    exact List.mem_mergeSort.mp hentry
  · intro h
    exact ⟨(ref.email, ref.remarks), List.mem_mergeSort.mpr h, rfl⟩

theorem mem_emails_sortedOwners :
    email ∈ (sortedOwners owners).map OwnerRef.email ↔ email ∈ owners.keys := by
  unfold Table.keys
  rw [List.mem_map, List.mem_map]
  constructor
  · intro h
    rcases h with ⟨ref, href, rfl⟩
    exact ⟨_, mem_sortedOwners.mp href, rfl⟩
  · intro h
    rcases h with ⟨entry, hentry, rfl⟩
    exact ⟨{ email := entry.1, remarks := entry.2 }, mem_sortedOwners.mpr hentry, rfl⟩

theorem sortedOwners_eq_nil : sortedOwners owners = [] ↔ owners.entries = [] := by
  rw [← List.length_eq_zero_iff, ← List.length_eq_zero_iff]
  unfold sortedOwners
  rw [List.length_map, List.length_mergeSort]

/-- Emails tell owners apart, so sorting undoes every other order. -/
theorem sortedOwners_of_perm (h : owners.keys.Nodup) (hperm : refs.Perm (sortedOwners owners)) :
    sortedOwners (ownersOf refs) = sortedOwners owners := by
  have hentries : (ownersOf refs).entries.Perm owners.entries := by
    have hsorted : (ownersOf refs).entries.Perm (ownersOf (sortedOwners owners)).entries :=
      hperm.map _
    rw [entries_ownersOf_sortedOwners] at hsorted
    exact hsorted.trans (List.mergeSort_perm _ _)
  unfold sortedOwners
  rw [Text.sortedBy_eq_of_perm hentries h]

theorem keys_of_perm (h : owners.keys.Nodup) (hperm : refs.Perm (sortedOwners owners)) :
    (refs.map OwnerRef.email).Nodup := by
  have hsorted : (sortedOwners owners).map OwnerRef.email =
      (owners.entries.mergeSort fun a b => decide (a.1 ≤ b.1)).map Prod.fst := by
    unfold sortedOwners
    rw [List.map_map]
    rfl
  rw [(hperm.map OwnerRef.email).nodup_iff, hsorted,
    ((List.mergeSort_perm owners.entries _).map Prod.fst).nodup_iff]
  exact h

theorem joinOwners_of_perm {admits : String → Prop} (h : WritableOwners admits owners)
    (hperm : refs.Perm (sortedOwners owners)) : joinOwners {} refs = ownersOf refs := by
  have hkeys : (({} : Owners).keys ++ refs.map OwnerRef.email).Nodup := keys_of_perm h.nodup hperm
  have hremarks : ∀ ref ∈ refs, ref.remarks.Nodup := by
    intro ref href
    exact (h.remarks _ (mem_sortedOwners.mp (hperm.mem_iff.mp href))).1
  rw [joinOwners_of_nodup hkeys hremarks]
  rfl

/-!
# Putting a set into the tables
-/

def Gathered.put (gathered : Gathered) (set : OwnerSet) : Gathered :=
  if set.isGlobal then { gathered with owners := joinOwners gathered.owners set.owners }
  else
    let block := gathered.blocks.getD set.globs {}
    { gathered with
      blocks := gathered.blocks.insert set.globs
        { owners := joinOwners block.owners set.owners
          overrides := block.overrides || set.overrides } }

theorem put_global (h : set.globs = []) :
    gathered.put set = { gathered with owners := joinOwners gathered.owners set.owners } := by
  unfold Gathered.put OwnerSet.isGlobal
  rw [h]
  rfl

theorem put_row (h : set.globs ≠ []) :
    gathered.put set =
      { gathered with
        blocks := gathered.blocks.insert set.globs
          { owners := joinOwners (gathered.blocks.getD set.globs {}).owners set.owners
            overrides := (gathered.blocks.getD set.globs {}).overrides || set.overrides } } := by
  unfold Gathered.put OwnerSet.isGlobal
  rw [List.isEmpty_eq_false_iff.mpr h]
  rfl

/-- What two sets for the same files say together. -/
def together (set other : OwnerSet) : OwnerSet :=
  { set with
    owners := set.owners ++ other.owners
    overrides := set.overrides || other.overrides }

theorem put_put (h : other.globs = set.globs) :
    (gathered.put set).put other = gathered.put (together set other) := by
  have hglobs : (together set other).globs = set.globs := rfl
  by_cases hglobal : set.globs = []
  · rw [put_global hglobal, put_global (h.trans hglobal), put_global (hglobs.trans hglobal)]
    unfold together
    rw [joinOwners_append]
  · have hother : other.globs ≠ [] := fun hnil => hglobal (h ▸ hnil)
    have htogether : (together set other).globs ≠ [] := hglobal
    rw [put_row hglobal, put_row hother, put_row htogether, h, hglobs]
    unfold together
    dsimp only
    rw [Table.getD_insert, if_pos rfl, Table.insert_insert, joinOwners_append, Bool.or_assoc]

theorem put_ignoresParents : (gathered.put set).ignoresParents = gathered.ignoresParents := by
  unfold Gathered.put
  split
  · rfl
  · rfl

theorem put_imports : (gathered.put set).imports = gathered.imports := by
  unfold Gathered.put
  split
  · rfl
  · rfl

theorem put_skipped : (gathered.put set).skipped = gathered.skipped := by
  unfold Gathered.put
  split
  · rfl
  · rfl

theorem putAll_ignoresParents (sets : List OwnerSet) (gathered : Gathered) :
    (sets.foldl Gathered.put gathered).ignoresParents = gathered.ignoresParents := by
  induction sets generalizing gathered with
  | nil => rfl
  | cons set sets ih => rw [List.foldl_cons, ih, put_ignoresParents]

theorem putAll_imports (sets : List OwnerSet) (gathered : Gathered) :
    (sets.foldl Gathered.put gathered).imports = gathered.imports := by
  induction sets generalizing gathered with
  | nil => rfl
  | cons set sets ih => rw [List.foldl_cons, ih, put_imports]

/-!
# Tables that can be written
-/

/-- A row of path expressions in order, each of which can be written. -/
structure WritableRow (globs : List String) : Prop where
  nonempty : globs ≠ []
  sorted : Text.sortedDistinct globs = globs
  globs : ∀ glob ∈ globs, WritableGlob glob

/-- The tables hold nothing that would be read back as something else. -/
structure Gathered.Sound (gathered : Gathered) : Prop where
  owners : WritableOwners StandsAlone gathered.owners
  rows : gathered.blocks.keys.Nodup
  blocks : ∀ entry ∈ gathered.blocks.entries,
    WritableRow entry.1 ∧ WritableOwners StandsInList entry.2.owners

theorem sound_of_empty (howners : gathered.owners = {}) (hblocks : gathered.blocks = {}) :
    gathered.Sound := by
  refine ⟨?_, ?_, ?_⟩
  · rw [howners]
    exact writableOwners_empty StandsAlone
  · rw [hblocks]
    exact List.nodup_nil
  · rw [hblocks]
    intro entry hentry
    cases hentry

theorem Gathered.Sound.congr {later : Gathered} (h : gathered.Sound)
    (howners : later.owners = gathered.owners) (hblocks : later.blocks = gathered.blocks) :
    later.Sound := by
  refine ⟨?_, ?_, ?_⟩
  · rw [howners]
    exact h.owners
  · rw [hblocks]
    exact h.rows
  · rw [hblocks]
    exact h.blocks

theorem Gathered.Sound.blockOwners (h : gathered.Sound) (globs : List String) :
    WritableOwners StandsInList (gathered.blocks.getD globs {}).owners := by
  unfold Table.getD
  cases hget : gathered.blocks.get? globs with
  | none => exact writableOwners_empty StandsInList
  | some found => exact (h.blocks _ ((Table.get?_eq_some_iff h.rows).mp hget)).2

structure WritableSet (set : OwnerSet) : Prop where
  row : set.globs ≠ [] → WritableRow set.globs
  alone : set.globs = [] → ∀ ref ∈ set.owners, StandsAlone ref.email
  inList : set.globs ≠ [] → ∀ ref ∈ set.owners, StandsInList ref.email
  remarks : ∀ ref ∈ set.owners, ∀ remark ∈ ref.remarks, WritableRemark remark

theorem Gathered.Sound.put (h : gathered.Sound) (hset : WritableSet set) :
    (gathered.put set).Sound := by
  by_cases hglobal : set.globs = []
  · rw [put_global hglobal]
    exact ⟨h.owners.joinOwners (hset.alone hglobal) hset.remarks, h.rows, h.blocks⟩
  · rw [put_row hglobal]
    refine ⟨h.owners, Table.nodup_keys_insert h.rows, ?_⟩
    intro entry hentry
    rcases Table.mem_entries_insert hentry with rfl | hold
    · exact ⟨hset.row hglobal,
        (h.blockOwners set.globs).joinOwners (hset.inList hglobal) hset.remarks⟩
    · exact h.blocks entry hold

theorem Gathered.Sound.putAll {sets : List OwnerSet} (h : gathered.Sound)
    (hsets : ∀ set ∈ sets, WritableSet set) : (sets.foldl Gathered.put gathered).Sound := by
  induction sets generalizing gathered with
  | nil => exact h
  | cons set sets ih =>
      apply ih (h.put (hsets set List.mem_cons_self))
      intro other hother
      exact hsets other (List.mem_cons_of_mem set hother)

/-!
# The sets that were gathered
-/

def blockSet (entry : List String × Block) : OwnerSet :=
  { globs := entry.1, owners := sortedOwners entry.2.owners, overrides := entry.2.overrides }

def Block.tells (block : Block) : Bool := !block.owners.entries.isEmpty || block.overrides

def Gathered.tellingRows (gathered : Gathered) : List (List String × Block) :=
  (sortedBlocks gathered.blocks).filter fun entry => entry.2.tells

theorem sets_eq (gathered : Gathered) :
    gathered.sets =
      (if gathered.owners.entries.isEmpty then []
        else [{ owners := sortedOwners gathered.owners }]) ++
        gathered.tellingRows.map blockSet := rfl

theorem mem_tellingRows {entry : List String × Block} :
    entry ∈ gathered.tellingRows ↔ entry ∈ gathered.blocks.entries ∧ entry.2.tells = true := by
  unfold Gathered.tellingRows sortedBlocks
  rw [List.mem_filter, List.mem_mergeSort]

theorem pairwise_tellingRows (h : gathered.Sound) :
    gathered.tellingRows.Pairwise fun a b => a.1 < b.1 :=
  (Text.pairwise_lt_sortedBy Prod.fst h.rows).filter _

theorem writableSet_of_mem_sets (h : gathered.Sound) (hset : set ∈ gathered.sets) :
    WritableSet set := by
  rw [sets_eq, List.mem_append] at hset
  rcases hset with hglobal | hrow
  · split at hglobal
    · cases hglobal
    · rw [List.mem_singleton] at hglobal
      subst hglobal
      refine ⟨fun hne => absurd rfl hne, ?_, fun hne => absurd rfl hne, ?_⟩
      · intro _ ref href
        exact h.owners.admits _ (mem_sortedOwners.mp href)
      · intro ref href
        exact (h.owners.remarks _ (mem_sortedOwners.mp href)).2
  · rcases List.mem_map.mp hrow with ⟨entry, hentry, rfl⟩
    have hblock := h.blocks entry (mem_tellingRows.mp hentry).1
    refine ⟨fun _ => hblock.1, fun hnil => absurd hnil hblock.1.nonempty, ?_, ?_⟩
    · intro _ ref href
      exact hblock.2.admits _ (mem_sortedOwners.mp href)
    · intro ref href
      exact (hblock.2.remarks _ (mem_sortedOwners.mp href)).2

/-!
# Putting the sets in again
-/

/-- An order of the owners of each set, which may depend on the files that they are for. -/
structure Arrangement where
  arrange : List String → List OwnerRef → List OwnerRef
  perm : ∀ globs refs, (arrange globs refs).Perm refs

variable {arrangement : Arrangement}

def Arrangement.arrangedSet (arrangement : Arrangement) (set : OwnerSet) : OwnerSet :=
  { set with owners := arrangement.arrange set.globs set.owners }

def Arrangement.arrangedOwners (arrangement : Arrangement) (globs : List String)
    (owners : Owners) : Owners :=
  ownersOf (arrangement.arrange globs (sortedOwners owners))

def Arrangement.arrangedRow (arrangement : Arrangement) (entry : List String × Block) :
    List String × Block :=
  (entry.1, { entry.2 with owners := arrangement.arrangedOwners entry.1 entry.2.owners })

theorem sortedOwners_arranged (h : owners.keys.Nodup) :
    sortedOwners (arrangement.arrangedOwners globs owners) = sortedOwners owners :=
  sortedOwners_of_perm h (arrangement.perm globs _)

theorem blockSet_arranged {entry : List String × Block} (h : entry.2.owners.keys.Nodup) :
    blockSet (arrangement.arrangedRow entry) = blockSet entry := by
  unfold blockSet Arrangement.arrangedRow
  rw [sortedOwners_arranged h]

theorem isEmpty_arranged (globs : List String) (owners : Owners) :
    (arrangement.arrangedOwners globs owners).entries.isEmpty = owners.entries.isEmpty := by
  have hlength : (arrangement.arrangedOwners globs owners).entries.length = owners.entries.length := by
    change ((arrangement.arrange globs (sortedOwners owners)).map
      fun ref => (ref.email, ref.remarks)).length = _
    rw [List.length_map, (arrangement.perm globs _).length_eq]
    unfold sortedOwners
    rw [List.length_map, List.length_mergeSort]
  rw [Bool.eq_iff_iff, List.isEmpty_iff, List.isEmpty_iff, ← List.length_eq_zero_iff,
    ← List.length_eq_zero_iff, hlength]

theorem putAll_rows {rows : List (List String × Block)}
    (hkeys : (gathered.blocks.keys ++ rows.map Prod.fst).Nodup)
    (hrows : ∀ entry ∈ rows, entry.1 ≠ [] ∧ WritableOwners StandsInList entry.2.owners) :
    (rows.map fun entry => arrangement.arrangedSet (blockSet entry)).foldl Gathered.put gathered =
      { gathered with
        blocks := ⟨gathered.blocks.entries ++ rows.map arrangement.arrangedRow⟩ } := by
  induction rows generalizing gathered with
  | nil =>
      change gathered = { gathered with blocks := ⟨gathered.blocks.entries ++ []⟩ }
      rw [List.append_nil]
  | cons entry rows ih =>
      have hentry := hrows entry List.mem_cons_self
      have hnew : entry.1 ∉ gathered.blocks.keys := by
        intro hmem
        exact (List.nodup_append.mp hkeys).2.2 _ hmem _ List.mem_cons_self rfl
      have hglobs : (arrangement.arrangedSet (blockSet entry)).globs = entry.1 := rfl
      have hput : gathered.put (arrangement.arrangedSet (blockSet entry)) =
          { gathered with
            blocks := ⟨gathered.blocks.entries ++ [arrangement.arrangedRow entry]⟩ } := by
        have howners : joinOwners {} (arrangement.arrangedSet (blockSet entry)).owners =
            arrangement.arrangedOwners entry.1 entry.2.owners :=
          joinOwners_of_perm hentry.2 (arrangement.perm entry.1 _)
        rw [put_row hentry.1, hglobs, Table.getD_of_notMem hnew, howners]
        change { gathered with
          blocks := gathered.blocks.insert entry.1 (arrangement.arrangedRow entry).2 } = _
        have hinsert : gathered.blocks.insert entry.1 (arrangement.arrangedRow entry).2 =
            ⟨gathered.blocks.entries ++ [arrangement.arrangedRow entry]⟩ := by
          rw [show arrangement.arrangedRow entry = (entry.1, (arrangement.arrangedRow entry).2) from rfl,
            ← Table.entries_insert_of_notMem hnew]
        rw [hinsert]
      have hlater : ((⟨gathered.blocks.entries ++ [arrangement.arrangedRow entry]⟩ : Blocks).keys ++
          rows.map Prod.fst).Nodup := by
        rw [List.map_cons, List.append_cons] at hkeys
        simpa [Table.keys, Arrangement.arrangedRow] using hkeys
      rw [List.map_cons, List.foldl_cons, hput, ih hlater fun other hother =>
        hrows other (List.mem_cons_of_mem entry hother)]
      simp

theorem writable_of_mem_tellingRows (h : gathered.Sound) {entry : List String × Block}
    (hentry : entry ∈ gathered.tellingRows) :
    entry.1 ≠ [] ∧ WritableOwners StandsInList entry.2.owners := by
  have hblock := h.blocks entry (mem_tellingRows.mp hentry).1
  exact ⟨hblock.1.nonempty, hblock.2⟩

theorem tellingRows_arranged (h : gathered.Sound) (start : Gathered) :
    ({ start with blocks := ⟨gathered.tellingRows.map arrangement.arrangedRow⟩ } :
      Gathered).tellingRows = gathered.tellingRows.map arrangement.arrangedRow := by
  have hsorted : gathered.tellingRows.Pairwise fun a b => a.1 ≤ b.1 :=
    (pairwise_tellingRows h).imp Std.le_of_lt
  unfold Gathered.tellingRows sortedBlocks
  dsimp only
  rw [Text.sortedBy_of_pairwise, List.filter_eq_self]
  · intro entry hentry
    rcases List.mem_map.mp hentry with ⟨row, hrow, rfl⟩
    have htells : row.2.tells = true := (mem_tellingRows.mp hrow).2
    unfold Block.tells Arrangement.arrangedRow at *
    dsimp only
    rw [isEmpty_arranged]
    exact htells
  · exact List.pairwise_map.mpr hsorted

theorem blockSets_arranged (h : gathered.Sound) :
    (gathered.tellingRows.map arrangement.arrangedRow).map blockSet =
      gathered.tellingRows.map blockSet := by
  rw [List.map_map]
  apply List.map_congr_left
  intro entry hentry
  exact blockSet_arranged (writable_of_mem_tellingRows h hentry).2.nodup

theorem putAll_tellingRows (arrangement : Arrangement) (h : gathered.Sound) (start : Gathered)
    (hblocks : start.blocks = {}) :
    ((gathered.tellingRows.map blockSet).map arrangement.arrangedSet).foldl Gathered.put start =
      { start with blocks := ⟨gathered.tellingRows.map arrangement.arrangedRow⟩ } := by
  have hkeys : (start.blocks.keys ++ gathered.tellingRows.map Prod.fst).Nodup := by
    rw [hblocks]
    exact List.pairwise_map.mpr ((pairwise_tellingRows h).imp Std.ne_of_lt)
  rw [List.map_map]
  refine (putAll_rows hkeys fun entry => writable_of_mem_tellingRows h).trans ?_
  rw [hblocks]
  rfl

/-- The gathered sets, put into empty tables with their owners in any order, are gathered again. -/
theorem sets_putAll (h : gathered.Sound) {start : Gathered} (howners : start.owners = {})
    (hblocks : start.blocks = {}) :
    ((gathered.sets.map arrangement.arrangedSet).foldl Gathered.put start).sets =
      gathered.sets := by
  rw [sets_eq gathered, List.map_append, List.foldl_append]
  split
  · rw [List.map_nil, List.foldl_nil, putAll_tellingRows arrangement h start hblocks,
      sets_eq, tellingRows_arranged h, blockSets_arranged h, howners]
    rfl
  · rename_i hsome
    have hjoined := joinOwners_of_perm h.owners
      (arrangement.perm [] (sortedOwners gathered.owners))
    have hglobal : [arrangement.arrangedSet { owners := sortedOwners gathered.owners }].foldl
        Gathered.put start =
          { start with owners := arrangement.arrangedOwners [] gathered.owners } := by
      rw [List.foldl_cons, List.foldl_nil, put_global rfl, howners]
      unfold Arrangement.arrangedOwners
      rw [← hjoined]
      rfl
    have hrows := putAll_tellingRows arrangement h
      { start with owners := arrangement.arrangedOwners [] gathered.owners } hblocks
    rw [List.map_cons, List.map_nil, hglobal, hrows, sets_eq, tellingRows_arranged h,
      blockSets_arranged h]
    dsimp only
    rw [isEmpty_arranged, if_neg hsome, sortedOwners_arranged h.owners.nodup]

end LineFormat
end Ownership
