import Ownership.Proofs.LineFormat.Merging
import Ownership.Proofs.LineFormat.RoundTrip
import Ownership.Proofs.LineFormat.Sayings

/-!
# Configurations as unions of their lines

What a line says can be told from the line alone.  The configuration of a text says what its lines
say and nothing else, in one canonical order, so it depends on the lines as a set: neither their
order nor how often they stand there shows, but for the order of an owner's remarks and of imports
that are written alike.
-/

namespace Ownership
namespace LineFormat

/-!
# What a line says
-/

def SaysImport (folder : String) (raw : List Char) (imp : Import) : Prop :=
  ∃ scope target, ImportForm (content raw).1 scope target ∧
    readTarget folder scope target = .ok imp

/-- The line lists the owner for a row of path expressions; the empty row stands for all files. -/
inductive Lists (raw : List Char) : List String → String → Prop
  | forAll {email : String} (h : OwnerForm (content raw).1 email) : Lists raw [] email
  | forRow {pattern right : List Char} {row : List String} {email : String}
      (hform : PerFileForm (content raw).1 pattern right) (hrow : IsRow pattern row)
      (hlist : right ≠ noParentWords.toList) (hemail : email ∈ commaPieces right)
      (howner : isOwner email = true) : Lists raw row email

/-- The line cuts the files of a row off from all other owners. -/
def Overrides (raw : List Char) (row : List String) : Prop :=
  ∃ pattern, PerFileForm (content raw).1 pattern noParentWords.toList ∧ IsRow pattern row

def HasList (raw right : List Char) : Prop :=
  ∃ pattern row, PerFileForm (content raw).1 pattern right ∧ IsRow pattern row ∧
    right ≠ noParentWords.toList

/-- The line makes sense and has no list in which something could be wrong. -/
def MakesSense (folder : String) (raw : List Char) : Prop :=
  (content raw).1 = [] ∨ (content raw).1 = noParentWords.toList ∨
    (∃ imp, SaysImport folder raw imp) ∨ (∃ email, OwnerForm (content raw).1 email) ∨
      ∃ row, Overrides raw row

/-- What is to be noted about a line: each invalid email of a list, and otherwise one thing about a
line that makes no sense. -/
structure Notes (folder : String) (raw : List Char) (reasons : List SkipReason) : Prop where
  sense : MakesSense folder raw → reasons = []
  list : ∀ right, HasList raw right → reasons =
    ((commaPieces right).filter fun email => !isOwner email).map .invalidEmail
  other : ¬ MakesSense folder raw → (¬ ∃ right, HasList raw right) → ∃ reason, reasons = [reason]

/-!
# What the lines say together
-/

/-- The configuration says what the lines say, and nothing else. -/
structure UnionOf (folder : String) (lines : List (List Char)) (config : OwnerConfig) : Prop where
  ignoresParents : config.ignoresParents = true ↔
    ∃ raw ∈ lines, (content raw).1 = noParentWords.toList
  imports : ∀ imp, imp ∈ config.imports ↔ ∃ raw ∈ lines, SaysImport folder raw imp
  rows : ∀ row, (∃ set ∈ config.sets, set.globs = row) ↔
    ∃ raw ∈ lines, (∃ email, Lists raw row email) ∨ Overrides raw row
  overrides : ∀ set ∈ config.sets, set.overrides = true ↔ ∃ raw ∈ lines, Overrides raw set.globs
  owners : ∀ set ∈ config.sets, ∀ email, (∃ ref ∈ set.owners, ref.email = email) ↔
    ∃ raw ∈ lines, Lists raw set.globs email
  remarks : ∀ set ∈ config.sets, ∀ ref ∈ set.owners, ∀ remark, remark ∈ ref.remarks ↔
    ∃ raw ∈ lines, Lists raw set.globs ref.email ∧ remark ∈ (content raw).2

/-- The canonical form: everything is in order, and nothing is there twice. -/
structure Canonical (config : OwnerConfig) : Prop where
  imports : config.imports.Nodup ∧
    config.imports.Pairwise fun a b => renderImport a ≤ renderImport b
  sets : config.sets.Pairwise fun a b => a.globs < b.globs
  globs : ∀ set ∈ config.sets, set.globs.Pairwise (· < ·) ∧
    ∀ glob ∈ set.globs, glob ≠ "" ∧ Glob.isValid glob = true
  owners : ∀ set ∈ config.sets, set.owners.Pairwise fun a b => a.email < b.email
  remarks : ∀ set ∈ config.sets, ∀ ref ∈ set.owners, ref.remarks.Nodup

structure SameRef (a b : OwnerRef) : Prop where
  email : a.email = b.email
  remarks : a.remarks.Perm b.remarks

structure SameSet (a b : OwnerSet) : Prop where
  globs : a.globs = b.globs
  overrides : a.overrides = b.overrides
  owners : List.Forall₂ SameRef a.owners b.owners

/-- Two configurations that differ at most in the order of remarks and of imports that are written
alike. -/
structure SameConfig (a b : OwnerConfig) : Prop where
  ignoresParents : a.ignoresParents = b.ignoresParents
  imports : a.imports.Perm b.imports
  written : a.imports.map renderImport = b.imports.map renderImport
  sets : List.Forall₂ SameSet a.sets b.sets

variable {folder : String} {raw pattern right : List Char} {row : List String} {email : String}
  {remarks : List Remark} {ref : OwnerRef} {set : OwnerSet} {imp : Import}
  {lines others : List (List Char)} {config other : OwnerConfig}

/-!
# The sets of one line
-/

theorem saysNoParent_iff : saysNoParent raw = true ↔ (content raw).1 = noParentWords.toList := by
  rw [← readStatement_noParent_iff]
  unfold saysNoParent
  cases readStatement (content raw).1 with
  | noParent => simp
  | _ => simp

theorem isRow_namedRow_iff : IsRow pattern (namedRow pattern) ↔
    ((namedRow pattern).isEmpty ||
      (namedRow pattern).any fun glob => !Glob.isValid glob) = false := by
  rw [isRow_iff, Bool.or_eq_false_iff, List.isEmpty_eq_false_iff, List.any_eq_false]
  simp

theorem mem_perFileSets : set ∈ perFileSets remarks pattern right ↔
    IsRow pattern set.globs ∧
      if right = noParentWords.toList then set = { globs := set.globs, overrides := true }
      else set = { globs := set.globs } ∨
        ∃ email ∈ commaPieces right, isOwner email = true ∧
          set = single set.globs { email, remarks } := by
  unfold perFileSets
  dsimp only
  by_cases hrow : IsRow pattern (namedRow pattern)
  · have hsame : ∀ {globs : List String}, globs = namedRow pattern ↔ IsRow pattern globs := by
      intro globs
      constructor
      · intro h
        rw [h]
        exact hrow
      · exact isRow_unique hrow
    rw [isRow_namedRow_iff.mp hrow, if_neg Bool.false_ne_true]
    split
    · rw [List.mem_singleton, ← hsame]
      grind
    · rw [List.mem_cons, List.mem_map, ← hsame]
      simp only [List.mem_filter]
      unfold single
      grind
  · have hguard := mt isRow_namedRow_iff.mpr hrow
    rw [Bool.not_eq_false] at hguard
    rw [hguard, if_pos rfl]
    constructor
    · intro h
      cases h
    · intro h
      rw [(isRow_iff.mp h.1).1] at h
      exact absurd h.1 hrow

theorem mem_saidSets : set ∈ saidSets raw ↔
    (∃ pattern right, PerFileForm (content raw).1 pattern right ∧
      set ∈ perFileSets (content raw).2 pattern right) ∨
    ∃ email, OwnerForm (content raw).1 email ∧
      set = single [] { email, remarks := (content raw).2 } := by
  simp only [← readStatement_perFile_iff, ownerForm_iff]
  unfold saidSets
  cases readStatement (content raw).1 with
  | perFile pattern right => simp
  | owner letters =>
      simp only [List.mem_singleton, Statement.owner.injEq, reduceCtorEq, false_and, exists_false,
        false_or]
      constructor
      · intro h
        exact ⟨String.ofList letters, String.toList_ofList.symm, h⟩
      · intro h
        rcases h with ⟨email, rfl, hset⟩
        rw [String.ofList_toList]
        exact hset
  | _ => simp

/-- The owners in the sets of a line are those it lists, each with the remarks of the line. -/
theorem exists_said_iff {holds : OwnerRef → Prop} :
    (∃ set ∈ saidSets raw, set.globs = row ∧ ∃ ref ∈ set.owners, holds ref) ↔
      ∃ email, Lists raw row email ∧ holds { email, remarks := (content raw).2 } := by
  simp only [mem_saidSets, mem_perFileSets]
  constructor
  · intro h
    rcases h with ⟨set, hset, rfl, ref, href, h⟩
    rcases hset with ⟨pattern, right, hform, hrow, hset⟩ | ⟨email, hform, rfl⟩
    · split at hset
      · rw [hset] at href
        cases href
      · rename_i hlist
        rcases hset with hset | ⟨email, hemail, howner, hset⟩
        · rw [hset] at href
          cases href
        · rw [hset] at href
          rw [List.mem_singleton.mp href] at h
          exact ⟨email, .forRow hform hrow hlist hemail howner, h⟩
    · rw [List.mem_singleton.mp href] at h
      exact ⟨email, .forAll hform, h⟩
  · intro h
    rcases h with ⟨email, hlists, h⟩
    cases hlists with
    | forAll hform =>
        exact ⟨_, .inr ⟨email, hform, rfl⟩, rfl, _, List.mem_singleton_self _, h⟩
    | @forRow pattern right row email hform hrow hlist hemail howner =>
        refine ⟨single row { email, remarks := (content raw).2 },
          .inl ⟨pattern, right, hform, hrow, ?_⟩, rfl, _, List.mem_singleton_self _, h⟩
        rw [if_neg hlist]
        exact .inr ⟨email, hemail, howner, rfl⟩

theorem overrides_iff_said : (∃ set ∈ saidSets raw, set.globs = row ∧ set.overrides = true) ↔
    Overrides raw row := by
  simp only [mem_saidSets, mem_perFileSets]
  constructor
  · intro h
    rcases h with ⟨set, ⟨pattern, right, hform, hrow, hset⟩ | ⟨email, hform, rfl⟩, rfl, hcuts⟩
    · split at hset
      · rename_i hright
        rw [hright] at hform
        exact ⟨pattern, hform, hrow⟩
      · rcases hset with hset | ⟨email, hemail, howner, hset⟩
        · rw [hset] at hcuts
          cases hcuts
        · rw [hset] at hcuts
          cases hcuts
    · cases hcuts
  · intro h
    rcases h with ⟨pattern, hform, hrow⟩
    refine ⟨{ globs := row, overrides := true }, .inl ⟨pattern, _, hform, hrow, ?_⟩, rfl, rfl⟩
    rw [if_pos rfl]

/-!
# The complaints of one line
-/

theorem perFileComplaints_of_row (h : IsRow pattern row) : perFileComplaints pattern right =
    if right = noParentWords.toList then []
    else ((commaPieces right).filter fun email => !isOwner email).map .invalidEmail := by
  rcases isRow_iff.mp h with ⟨rfl, hsome, hvalid⟩
  have hfind : (namedRow pattern).find? (fun glob => !Glob.isValid glob) = none := by
    rw [List.find?_eq_none]
    intro glob hglob
    rw [hvalid glob hglob]
    exact Bool.false_ne_true
  unfold perFileComplaints
  dsimp only
  rw [List.isEmpty_eq_false_iff.mpr hsome, hfind, if_neg Bool.false_ne_true]

theorem perFileComplaints_of_no_row (h : ∀ row, ¬ IsRow pattern row) :
    ∃ reason, perFileComplaints pattern right = [reason] := by
  unfold perFileComplaints
  dsimp only
  split
  · exact ⟨_, rfl⟩
  · rename_i hsome
    cases hfind : (namedRow pattern).find? fun glob => !Glob.isValid glob with
    | some glob => exact ⟨_, rfl⟩
    | none =>
        have hrow : IsRow pattern (namedRow pattern) := by
          rw [isRow_iff]
          refine ⟨rfl, ?_, ?_⟩
          · intro hnil
            rw [hnil] at hsome
            exact hsome rfl
          · intro glob hglob
            simpa using List.find?_eq_none.mp hfind glob hglob
        exact absurd hrow (h _)

theorem notes_complaints (folder : String) (raw : List Char) :
    Notes folder raw (complaints folder raw) := by
  have hsense : MakesSense folder raw → complaints folder raw = [] := by
    intro h
    unfold complaints
    rcases h with hnothing | hflag | ⟨imp, scope, target, hform, htarget⟩ | ⟨email, hform⟩ |
      ⟨row, pattern, hform, hrow⟩
    · rw [readStatement_nothing_iff.mpr hnothing]
    · rw [readStatement_noParent_iff.mpr hflag]
    · rw [readStatement_importing_iff.mpr hform]
      dsimp only
      rw [htarget]
    · rw [ownerForm_iff.mp hform]
    · rw [readStatement_perFile_iff.mpr hform]
      dsimp only
      rw [perFileComplaints_of_row hrow, if_pos rfl]
  refine ⟨hsense, ?_, ?_⟩
  · intro right h
    rcases h with ⟨pattern, row, hform, hrow, hlist⟩
    unfold complaints
    rw [readStatement_perFile_iff.mpr hform]
    dsimp only
    rw [perFileComplaints_of_row hrow, if_neg hlist]
  · intro hnot hnoList
    unfold complaints
    cases hstatement : readStatement (content raw).1 with
    | nothing => exact absurd (.inl (readStatement_nothing_iff.mp hstatement)) hnot
    | noParent => exact absurd (.inr (.inl (readStatement_noParent_iff.mp hstatement))) hnot
    | importing scope target =>
        dsimp only
        cases htarget : readTarget folder scope target with
        | error reason => exact ⟨reason, rfl⟩
        | ok imp =>
            have himport : SaysImport folder raw imp :=
              ⟨scope, target, readStatement_importing_iff.mp hstatement, htarget⟩
            exact absurd (.inr (.inr (.inl ⟨imp, himport⟩))) hnot
    | perFile pattern right =>
        have hform := readStatement_perFile_iff.mp hstatement
        apply perFileComplaints_of_no_row
        intro row hrow
        by_cases hright : right = noParentWords.toList
        · rw [hright] at hform
          exact hnot (.inr (.inr (.inr (.inr ⟨row, pattern, hform, hrow⟩))))
        · exact hnoList ⟨right, pattern, row, hform, hrow, hright⟩
    | owner letters =>
        have hform := readStatement_owner_iff.mp hstatement
        exact absurd (.inr (.inr (.inr (.inl ⟨_, hform⟩)))) hnot
    | unrecognized => exact ⟨.unrecognized, rfl⟩

/-!
# One union for the same lines
-/

theorem UnionOf.congr (h : UnionOf folder lines config)
    (hlines : ∀ raw, raw ∈ others ↔ raw ∈ lines) : UnionOf folder others config := by
  constructor
  · simp only [hlines, h.ignoresParents]
  · simp only [hlines, h.imports, implies_true]
  · simp only [hlines, h.rows, implies_true]
  · intro set hset
    simp only [hlines, h.overrides set hset]
  · intro set hset email
    simp only [hlines, h.owners set hset email]
  · intro set hset ref href remark
    simp only [hlines, h.remarks set hset ref href remark]

theorem UnionOf.exists_ref (h : UnionOf folder lines config) (hother : UnionOf folder lines other)
    (hconfig : Canonical config) (hcanonical : Canonical other) {found : OwnerSet}
    (hset : set ∈ config.sets) (hfound : found ∈ other.sets) (hglobs : set.globs = found.globs)
    (href : ref ∈ set.owners) : ∃ again ∈ found.owners, SameRef ref again := by
  have hlisted := (h.owners set hset ref.email).mp ⟨ref, href, rfl⟩
  rw [hglobs] at hlisted
  rcases (hother.owners found hfound ref.email).mpr hlisted with ⟨again, hagain, hemail⟩
  refine ⟨again, hagain, hemail.symm, ?_⟩
  rw [List.perm_ext_iff_of_nodup (hconfig.remarks set hset ref href)
    (hcanonical.remarks found hfound again hagain)]
  intro remark
  rw [h.remarks set hset ref href, hother.remarks found hfound again hagain, hglobs, hemail]

theorem SameRef.symm {a b : OwnerRef} (h : SameRef a b) : SameRef b a :=
  ⟨h.email.symm, h.remarks.symm⟩

theorem SameSet.symm {a b : OwnerSet} (h : SameSet a b) : SameSet b a :=
  ⟨h.globs.symm, h.overrides.symm, h.owners.flip.imp fun _ _ hrefs => hrefs.symm⟩

/-- Two canonical unions of the same lines are the same. -/
theorem UnionOf.same (h : UnionOf folder lines config) (hother : UnionOf folder lines other)
    (hcanonical : Canonical config) (hcanonicalOther : Canonical other) :
    SameConfig config other := by
  have hsame : ∀ {a b : OwnerConfig}, UnionOf folder lines a → UnionOf folder lines b →
      Canonical a → Canonical b → ∀ set ∈ a.sets, ∃ found ∈ b.sets, SameSet set found := by
    intro a b ha hb hcanonicalA hcanonicalB set hset
    rcases (hb.rows set.globs).mpr ((ha.rows set.globs).mp ⟨set, hset, rfl⟩) with
      ⟨found, hfound, hglobs⟩
    refine ⟨found, hfound, hglobs.symm, ?_, ?_⟩
    · rw [Bool.eq_iff_iff, ha.overrides set hset, hb.overrides found hfound, hglobs]
    · apply Text.forall₂_of_pairwise_lt (fun _ _ hrefs => hrefs.email)
        (hcanonicalA.owners set hset) (hcanonicalB.owners found hfound)
      · intro ref href
        exact ha.exists_ref hb hcanonicalA hcanonicalB hset hfound hglobs.symm href
      · intro again hagain
        rcases hb.exists_ref ha hcanonicalB hcanonicalA hfound hset hglobs hagain with
          ⟨ref, href, hrefs⟩
        exact ⟨ref, href, hrefs.symm⟩
  have himports : config.imports.Perm other.imports := by
    rw [List.perm_ext_iff_of_nodup hcanonical.imports.1 hcanonicalOther.imports.1]
    intro imp
    rw [h.imports, hother.imports]
  refine ⟨?_, himports, ?_, ?_⟩
  · rw [Bool.eq_iff_iff, h.ignoresParents, hother.ignoresParents]
  · apply List.Perm.eq_of_pairwise ?_ (List.pairwise_map.mpr hcanonical.imports.2)
      (List.pairwise_map.mpr hcanonicalOther.imports.2) (himports.map renderImport)
    intro a b _ _ hab hba
    exact Std.le_antisymm hab hba
  · apply Text.forall₂_of_pairwise_lt (fun _ _ hsets => hsets.globs) hcanonical.sets
      hcanonicalOther.sets (hsame h hother hcanonical hcanonicalOther)
    intro found hfound
    rcases hsame hother h hcanonicalOther hcanonical found hfound with ⟨set, hset, hsets⟩
    exact ⟨set, hset, hsets.symm⟩

/-!
# Reading
-/

variable {text : List Char} {remark : Remark}

theorem exists_mem_saidSets {holds : OwnerSet → Prop} :
    (∃ set ∈ lines.flatMap saidSets, holds set) ↔
      ∃ raw ∈ lines, ∃ set ∈ saidSets raw, holds set := by
  simp only [List.mem_flatMap]
  grind

theorem mem_keys_gather : email ∈ ((gather folder text).ownersAt row).keys ↔
    ∃ raw ∈ Text.splitLines text, Lists raw row email := by
  have hstart : email ∉ ((({} : Gathered).ownersAt row).keys) := by
    unfold Gathered.ownersAt
    split
    · exact List.not_mem_nil
    · exact List.not_mem_nil
  rw [gather_eq]
  change email ∈ ((((Text.splitLines text).flatMap saidSets).foldl Gathered.put {}).ownersAt
    row).keys ↔ _
  rw [mem_keys_ownersAt_putAll, or_iff_right hstart, exists_mem_saidSets]
  simp only [exists_said_iff, exists_eq_right]

theorem mem_remarks_gather : remark ∈ ((gather folder text).ownersAt row).getD email [] ↔
    ∃ raw ∈ Text.splitLines text, Lists raw row email ∧ remark ∈ (content raw).2 := by
  have hstart : remark ∉ (({} : Gathered).ownersAt row).getD email [] := by
    unfold Gathered.ownersAt
    split
    · exact List.not_mem_nil
    · exact List.not_mem_nil
  rw [gather_eq]
  change remark ∈ ((((Text.splitLines text).flatMap saidSets).foldl Gathered.put {}).ownersAt
    row).getD email [] ↔ _
  rw [mem_remarks_ownersAt_putAll, or_iff_right hstart, exists_mem_saidSets]
  simp only [exists_said_iff]
  grind

theorem overridesAt_gather : (gather folder text).overridesAt row = true ↔
    ∃ raw ∈ Text.splitLines text, Overrides raw row := by
  have hstart : ¬ ({} : Gathered).overridesAt row = true := by
    unfold Gathered.overridesAt
    split
    · exact Bool.false_ne_true
    · exact Bool.false_ne_true
  rw [gather_eq]
  change (((Text.splitLines text).flatMap saidSets).foldl Gathered.put {}).overridesAt row =
    true ↔ _
  rw [overridesAt_putAll, or_iff_right hstart, exists_mem_saidSets]
  simp only [overrides_iff_said]
  constructor
  · intro h
    exact h.2
  · intro h
    rcases h with ⟨raw, hraw, pattern, hform, hrow⟩
    exact ⟨hrow.some, raw, hraw, pattern, hform, hrow⟩

theorem exists_ref_iff {owners : Owners} :
    (∃ ref ∈ sortedOwners owners, ref.email = email) ↔ email ∈ owners.keys := by
  rw [← mem_emails_sortedOwners, List.mem_map]

theorem sortedOwners_ne_nil_iff {owners : Owners} :
    sortedOwners owners ≠ [] ↔ ∃ email, email ∈ owners.keys := by
  constructor
  · intro h
    rcases List.exists_mem_of_ne_nil _ h with ⟨ref, href⟩
    exact ⟨ref.email, exists_ref_iff.mp ⟨ref, href, rfl⟩⟩
  · intro h hnil
    rcases h with ⟨email, hemail⟩
    rcases exists_ref_iff.mpr hemail with ⟨ref, href, _⟩
    rw [hnil] at href
    cases href

theorem remarks_of_mem_sortedOwners {owners : Owners} (h : owners.keys.Nodup)
    (href : ref ∈ sortedOwners owners) : owners.getD ref.email [] = ref.remarks :=
  Table.getD_eq_of_mem h (mem_sortedOwners.mp href)

theorem exists_mem_sets_gather : (∃ set ∈ (gather folder text).sets, set.globs = row) ↔
    ∃ raw ∈ Text.splitLines text, (∃ email, Lists raw row email) ∨ Overrides raw row := by
  have htells : (∃ set ∈ (gather folder text).sets, set.globs = row) ↔
      sortedOwners ((gather folder text).ownersAt row) ≠ [] ∨
        (gather folder text).overridesAt row = true := by
    simp only [mem_sets_iff (readable_gather folder text).tables]
    constructor
    · intro h
      rcases h with ⟨set, ⟨howners, hoverrides, hsome⟩, rfl⟩
      rw [howners, hoverrides] at hsome
      exact hsome
    · intro h
      exact ⟨{ globs := row, owners := _, overrides := _ }, ⟨rfl, rfl, h⟩, rfl⟩
  rw [htells, sortedOwners_ne_nil_iff, overridesAt_gather]
  simp only [mem_keys_gather]
  grind

theorem unionOf_read (key : ConfigKey) (text : String) :
    UnionOf key.folder (Text.splitLines text.toList) (read key text).1 := by
  have hsound := (readable_gather key.folder text.toList).tables
  refine ⟨?_, ?_, fun row => exists_mem_sets_gather, ?_, ?_, ?_⟩
  · change (gather key.folder text.toList).ignoresParents = true ↔ _
    rw [gather_eq]
    change (Text.splitLines text.toList).any saysNoParent = true ↔ _
    simp only [List.any_eq_true, saysNoParent_iff]
  · intro imp
    change imp ∈ sortedImports (gather key.folder text.toList).imports ↔ _
    rw [gather_eq]
    change imp ∈ sortedImports
      ((Text.splitLines text.toList).filterMap (saidImport? key.folder)).eraseDups ↔ _
    unfold sortedImports
    rw [List.mem_mergeSort, List.mem_eraseDups, List.mem_filterMap]
    simp only [saidImport?_iff]
    rfl
  · intro set hset
    rw [((mem_sets_iff hsound).mp hset).2.1, overridesAt_gather]
  · intro set hset email
    rw [((mem_sets_iff hsound).mp hset).1, exists_ref_iff, mem_keys_gather]
  · intro set hset ref href remark
    rw [((mem_sets_iff hsound).mp hset).1] at href
    rw [← remarks_of_mem_sortedOwners (hsound.ownersAt set.globs).1 href, mem_remarks_gather]

theorem canonical_read (key : ConfigKey) (text : String) : Canonical (read key text).1 := by
  have hreadable := readable_gather key.folder text.toList
  have hsound := hreadable.tables
  refine ⟨⟨?_, Text.pairwise_sortedBy renderImport _⟩, pairwise_sets hsound, ?_, ?_, ?_⟩
  · exact (List.mergeSort_perm _ _).nodup_iff.mpr hreadable.distinct
  · intro set hset
    by_cases hglobal : set.globs = []
    · rw [hglobal]
      exact ⟨List.Pairwise.nil, fun glob hglob => by cases hglob⟩
    · have hrow := (writableSet_of_mem_sets hsound hset).row hglobal
      constructor
      · rw [← hrow.sorted]
        exact Text.pairwise_sortedDistinct _
      · intro glob hglob
        exact ⟨(hrow.globs glob hglob).nonempty, (hrow.globs glob hglob).valid⟩
  · intro set hset
    rw [((mem_sets_iff hsound).mp hset).1]
    exact pairwise_sortedOwners (hsound.ownersAt set.globs).1
  · intro set hset ref href
    rw [((mem_sets_iff hsound).mp hset).1] at href
    exact (hsound.ownersAt set.globs).2 _ (mem_sortedOwners.mp href)

/-- In strict order a set without path expressions can only come first. -/
theorem Canonical.head_of_global (h : Canonical config) (hset : set ∈ config.sets)
    (hglobal : set.globs = []) : config.sets.head? = some set := by
  cases hsets : config.sets with
  | nil =>
      rw [hsets] at hset
      cases hset
  | cons first later =>
      have hsorted := h.sets
      rw [hsets] at hset hsorted
      rcases List.mem_cons.mp hset with rfl | hlater
      · rfl
      · have hless := (List.pairwise_cons.mp hsorted).1 set hlater
        rw [hglobal] at hless
        exact absurd hless (List.not_lt_nil _)

/-- The configuration of a text is the canonical union of its lines, and texts with the same lines,
in whatever order and however often, have the same one.  The notes tell of each line in turn what is
wrong with it. -/
theorem read_is_union (key : ConfigKey) (text : String) :
    (read key text).1.key = key ∧
    UnionOf key.folder (Text.splitLines text.toList) (read key text).1 ∧
    Canonical (read key text).1 ∧
    (∀ set ∈ (read key text).1.sets, set.globs = [] → (read key text).1.sets.head? = some set) ∧
    (∃ reasons : List Char → List SkipReason, (∀ raw, Notes key.folder raw (reasons raw)) ∧
      (read key text).2 = ((Text.splitLines text.toList).zipIdx 1).flatMap fun line =>
        (reasons line.1).map fun reason =>
          { line := line.2, reason, text := String.ofList line.1 }) ∧
    ∀ other : String,
      (∀ raw, raw ∈ Text.splitLines other.toList ↔ raw ∈ Text.splitLines text.toList) →
        SameConfig (read key other).1 (read key text).1 := by
  refine ⟨rfl, unionOf_read key text, canonical_read key text, ?_, ?_, ?_⟩
  · intro set hset hglobal
    exact (canonical_read key text).head_of_global hset hglobal
  · refine ⟨complaints key.folder, notes_complaints key.folder, ?_⟩
    change (gather key.folder text.toList).skipped = _
    rw [gather_eq]
    rfl
  · intro other hlines
    have hother := (unionOf_read key other).congr fun raw => (hlines raw).symm
    exact hother.same (unionOf_read key text) (canonical_read key other) (canonical_read key text)

end LineFormat
end Ownership
