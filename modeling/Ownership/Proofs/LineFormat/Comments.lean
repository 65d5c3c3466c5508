import Ownership.Proofs.LineFormat.Union
import Ownership.Proofs.Text.LongerLines

/-!
# Comments behind lines

A comment that is put behind a line is cut off before the line is read, so nobody gains or loses
ownership by it.  Remarks are taken out of the whole line first, though, the comment included: what
looks like a remark there is attached to the owners that the line lists.
-/

namespace Ownership

/-- The set with other remarks, told by the path expressions and the email of an owner. -/
def OwnerSet.withRemarks (remarks : List String → String → List Remark) (set : OwnerSet) :
    OwnerSet :=
  { set with owners := set.emails.map fun email => { email, remarks := remarks set.globs email } }

def OwnerConfig.withRemarks (remarks : List String → String → List Remark)
    (config : OwnerConfig) : OwnerConfig :=
  { config with sets := config.sets.map (OwnerSet.withRemarks remarks) }

namespace LineFormat

variable {folder email : String} {raw line comment : List Char} {row : List String}
  {remark : Remark} {present added more remarks : List Remark} {owners : Owners}
  {refs : List OwnerRef} {gathered : Gathered} {sets : List OwnerSet} {config : OwnerConfig}
  {lines ahead behind : List (List Char)}

instance : Decidable (Lists raw row email) :=
  decidable_of_iff (∃ set ∈ saidSets raw, set.globs = row ∧ ∃ ref ∈ set.owners, ref.email = email)
    (by simp only [exists_said_iff, exists_eq_right])

/-- The remarks of the lines that list an owner for a row, line by line. -/
def remarksSaid (lines : List (List Char)) (row : List String) (email : String) : List Remark :=
  lines.flatMap fun raw => if Lists raw row email then (content raw).2 else []

/-!
# The order of remarks
-/

theorem mergeRemarks_append :
    mergeRemarks present (added ++ more) = mergeRemarks (mergeRemarks present added) more :=
  List.foldl_append

theorem mergeRemarks_of_subset (h : ∀ remark ∈ added, remark ∈ present) :
    mergeRemarks present added = present := by
  induction added with
  | nil => rfl
  | cons first others ih =>
      change mergeRemarks (if first ∈ present then present else present ++ [first]) others = present
      rw [if_pos (h first List.mem_cons_self)]
      exact ih fun remark hremark => h remark (List.mem_cons_of_mem first hremark)

theorem mergeRemarks_mergeRemarks :
    mergeRemarks (mergeRemarks present added) added = mergeRemarks present added :=
  mergeRemarks_of_subset fun _ hremark => mem_mergeRemarks.mpr (.inr hremark)

theorem mergeRemarks_eraseDups (said added : List Remark) :
    mergeRemarks said.eraseDups added = (said ++ added).eraseDups := by
  induction added using List.reverseRecOn with
  | nil => rw [List.append_nil]; rfl
  | append_singleton added last ih =>
      rw [mergeRemarks_append, ih, ← List.append_assoc, Text.eraseDups_append_singleton]
      simp [mergeRemarks]

theorem remarks_joinOwners (h : ∀ ref ∈ refs, ref.remarks = remarks) :
    (joinOwners owners refs).getD email [] =
      if ∃ ref ∈ refs, ref.email = email then mergeRemarks (owners.getD email []) remarks
      else owners.getD email [] := by
  induction refs generalizing owners with
  | nil => simp [joinOwners]
  | cons ref refs ih =>
      have hfirst := h ref List.mem_cons_self
      have hstep : (addOwner owners ref.email ref.remarks).getD email [] =
          if ref.email = email then mergeRemarks (owners.getD email []) remarks
          else owners.getD email [] := by
        unfold addOwner
        rw [Table.getD_insert, hfirst]
        split
        · rename_i hsame
          rw [hsame]
        · rfl
      change (joinOwners (addOwner owners ref.email ref.remarks) refs).getD email [] = _
      rw [ih fun other hother => h other (List.mem_cons_of_mem ref hother), hstep]
      simp only [List.exists_mem_cons_iff]
      by_cases hhere : ref.email = email
      · simp [hhere, mergeRemarks_mergeRemarks]
      · simp [hhere]

theorem ownersAt_putAll : (sets.foldl Gathered.put gathered).ownersAt row =
    joinOwners (gathered.ownersAt row)
      ((sets.filter fun set => set.globs = row).flatMap OwnerSet.owners) := by
  induction sets generalizing gathered with
  | nil => rfl
  | cons set sets ih =>
      rw [List.foldl_cons, ih, ownersAt_put]
      split
      · rename_i hsame
        rw [List.filter_cons_of_pos (by simpa using hsame), List.flatMap_cons, joinOwners_append]
      · rename_i hother
        rw [List.filter_cons_of_neg (by simpa using hother)]

theorem remarks_putAll_saidSets :
    (((saidSets raw).foldl Gathered.put gathered).ownersAt row).getD email [] =
      if Lists raw row email then
        mergeRemarks ((gathered.ownersAt row).getD email []) (content raw).2
      else (gathered.ownersAt row).getD email [] := by
  have hsaid : ∀ ref ∈ ((saidSets raw).filter fun set => set.globs = row).flatMap OwnerSet.owners,
      ref.remarks = (content raw).2 := by
    intro ref href
    rcases List.mem_flatMap.mp href with ⟨set, hset, hmem⟩
    rw [List.mem_filter, decide_eq_true_eq] at hset
    by_contra hother
    have hsome : ∃ set ∈ saidSets raw, set.globs = row ∧
        ∃ ref ∈ set.owners, ref.remarks ≠ (content raw).2 :=
      ⟨set, hset.1, hset.2, ref, hmem, hother⟩
    rcases exists_said_iff.mp hsome with ⟨_, _, hne⟩
    exact hne rfl
  have hlists : (∃ ref ∈ ((saidSets raw).filter fun set => set.globs = row).flatMap OwnerSet.owners,
      ref.email = email) ↔ Lists raw row email := by
    have hsame : (∃ set ∈ saidSets raw, set.globs = row ∧ ∃ ref ∈ set.owners, ref.email = email) ↔
        Lists raw row email := by
      rw [exists_said_iff]
      simp only [exists_eq_right]
    rw [← hsame]
    simp only [List.mem_flatMap, List.mem_filter, decide_eq_true_eq]
    grind
  rw [ownersAt_putAll, remarks_joinOwners hsaid]
  simp only [hlists]

theorem remarks_gather (folder : String) (text : List Char) (row : List String) (email : String) :
    ((gather folder text).ownersAt row).getD email [] =
      (remarksSaid (Text.splitLines text) row email).eraseDups := by
  rw [gather_eq]
  change ((((Text.splitLines text).flatMap saidSets).foldl Gathered.put {}).ownersAt row).getD
    email [] = _
  induction Text.splitLines text using List.reverseRecOn with
  | nil =>
      unfold Gathered.ownersAt
      split
      · rfl
      · rfl
  | append_singleton lines raw ih =>
      rw [List.flatMap_append, List.foldl_append, List.flatMap_singleton,
        remarks_putAll_saidSets, ih]
      unfold remarksSaid
      rw [List.flatMap_append, List.flatMap_singleton]
      split
      · exact mergeRemarks_eraseDups _ _
      · rw [List.append_nil]

/-!
# Configurations and their remarks
-/

theorem withRemarks_eq_iff {others : List String → String → List Remark}
    {said : List String → String → List Remark} :
    config.withRemarks said = config.withRemarks others ↔
      ∀ set ∈ config.sets, ∀ email ∈ set.emails, said set.globs email = others set.globs email := by
  have hset : ∀ set : OwnerSet, set.withRemarks said = set.withRemarks others ↔
      ∀ email ∈ set.emails, said set.globs email = others set.globs email := by
    intro set
    unfold OwnerSet.withRemarks
    simp [List.map_inj_left]
  unfold OwnerConfig.withRemarks
  simp only [OwnerConfig.mk.injEq, List.map_inj_left, hset, true_and, and_true]

theorem withRemarks_self {said : List String → String → List Remark}
    (h : ∀ set ∈ config.sets, ∀ ref ∈ set.owners, ref.remarks = said set.globs ref.email) :
    config.withRemarks said = config := by
  have hsets : config.sets.map (OwnerSet.withRemarks said) = config.sets.map id := by
    apply List.map_congr_left
    intro set hset
    have howners : (set.emails.map fun email =>
        ({ email, remarks := said set.globs email } : OwnerRef)) = set.owners.map id := by
      unfold OwnerSet.emails
      rw [List.map_map]
      apply List.map_congr_left
      intro ref href
      change ({ email := ref.email, remarks := said set.globs ref.email } : OwnerRef) = ref
      rw [← h set hset ref href]
    unfold OwnerSet.withRemarks
    rw [howners, List.map_id]
    rfl
  unfold OwnerConfig.withRemarks
  rw [hsets, List.map_id]

/-- Every owner of a text has the remarks of the lines that list it, in their order and each of
them once. -/
theorem read_eq_withRemarks (key : ConfigKey) (text : String) :
    (read key text).1.withRemarks (fun row email =>
      (remarksSaid (Text.splitLines text.toList) row email).eraseDups) = (read key text).1 := by
  have hsound := (readable_gather key.folder text.toList).tables
  apply withRemarks_self
  intro set hset ref href
  rw [((mem_sets_iff hsound).mp hset).1] at href
  rw [← remarks_gather key.folder,
    remarks_of_mem_sortedOwners (hsound.ownersAt set.globs).1 href]

/-!
# Lines with the same content
-/

theorem withRemarks_congr {set other : OwnerSet} {said : List String → String → List Remark}
    (hglobs : set.globs = other.globs) (hemails : set.emails = other.emails)
    (hoverrides : set.overrides = other.overrides) :
    set.withRemarks said = other.withRemarks said := by
  unfold OwnerSet.withRemarks
  rw [hglobs, hemails, hoverrides]

theorem lists_congr {other : List Char} (h : (content other).1 = (content raw).1) :
    Lists other row email ↔ Lists raw row email := by
  have himp : ∀ {a b : List Char}, (content a).1 = (content b).1 → Lists a row email →
      Lists b row email := by
    intro a b hsame hlists
    cases hlists with
    | forAll hform => exact .forAll (hsame ▸ hform)
    | forRow hform hrow hlist hemail howner =>
        exact .forRow (hsame ▸ hform) hrow hlist hemail howner
  exact ⟨himp h, himp h.symm⟩

theorem overrides_congr {other : List Char} (h : (content other).1 = (content raw).1) :
    Overrides other row ↔ Overrides raw row := by
  unfold Overrides
  rw [h]

theorem saidImport?_congr {other : List Char} (h : (content other).1 = (content raw).1) :
    saidImport? folder other = saidImport? folder raw := by
  unfold saidImport?
  rw [h]

theorem exists_line_congr {longer : List Char} {holds : List Char → Prop}
    (h : holds longer ↔ holds line) :
    (∃ raw ∈ ahead ++ longer :: behind, holds raw) ↔
      ∃ raw ∈ ahead ++ line :: behind, holds raw := by
  simp only [List.mem_append, List.mem_cons, or_and_right, exists_or, exists_eq_left, h]

theorem UnionOf.exists_same_owners {others : List (List Char)} {other : OwnerConfig}
    (h : UnionOf folder lines config) (hother : UnionOf folder others other)
    (hcanonical : Canonical config) (hcanonicalOther : Canonical other)
    (hlists : ∀ row email, (∃ raw ∈ others, Lists raw row email) ↔
      ∃ raw ∈ lines, Lists raw row email)
    (hoverrides : ∀ row, (∃ raw ∈ others, Overrides raw row) ↔ ∃ raw ∈ lines, Overrides raw row)
    (said : List String → String → List Remark) {set : OwnerSet} (hset : set ∈ config.sets) :
    ∃ found ∈ other.sets, found.globs = set.globs ∧
      found.withRemarks said = set.withRemarks said := by
  have hrow : ∃ raw ∈ others, (∃ email, Lists raw set.globs email) ∨ Overrides raw set.globs := by
    rcases (h.rows set.globs).mp ⟨set, hset, rfl⟩ with ⟨raw, hraw, ⟨email, hlisted⟩ | hcuts⟩
    · rcases (hlists _ _).mpr ⟨raw, hraw, hlisted⟩ with ⟨again, hagain, hlisted⟩
      exact ⟨again, hagain, .inl ⟨email, hlisted⟩⟩
    · rcases (hoverrides _).mpr ⟨raw, hraw, hcuts⟩ with ⟨again, hagain, hcuts⟩
      exact ⟨again, hagain, .inr hcuts⟩
  rcases (hother.rows set.globs).mpr hrow with ⟨found, hfound, hglobs⟩
  refine ⟨found, hfound, hglobs, withRemarks_congr hglobs ?_ ?_⟩
  · have hsorted := List.pairwise_map.mpr (hcanonical.owners set hset)
    have hsortedFound := List.pairwise_map.mpr (hcanonicalOther.owners found hfound)
    apply hsortedFound.eq_of_mem_iff hsorted
    intro email
    rw [List.mem_map, List.mem_map, hother.owners found hfound, h.owners set hset, hglobs]
    exact hlists set.globs email
  · rw [Bool.eq_iff_iff, hother.overrides found hfound, h.overrides set hset, hglobs]
    exact hoverrides set.globs

/-- Two texts whose lines differ in the remarks of one line only are read into configurations that
differ in remarks only. -/
theorem read_withRemarks_congr {text other : String} {longer : List Char} (key : ConfigKey)
    (htext : Text.splitLines text.toList = ahead ++ line :: behind)
    (hother : Text.splitLines other.toList = ahead ++ longer :: behind)
    (hcontent : (content longer).1 = (content line).1)
    (said : List String → String → List Remark) :
    (read key other).1.withRemarks said = (read key text).1.withRemarks said := by
  have hunion := unionOf_read key text
  have hunionOther := unionOf_read key other
  rw [htext] at hunion
  rw [hother] at hunionOther
  have hlists : ∀ row email, (∃ raw ∈ ahead ++ longer :: behind, Lists raw row email) ↔
      ∃ raw ∈ ahead ++ line :: behind, Lists raw row email :=
    fun row email => exists_line_congr (lists_congr hcontent)
  have hoverrides : ∀ row, (∃ raw ∈ ahead ++ longer :: behind, Overrides raw row) ↔
      ∃ raw ∈ ahead ++ line :: behind, Overrides raw row :=
    fun row => exists_line_congr (overrides_congr hcontent)
  have hflag : (read key other).1.ignoresParents = (read key text).1.ignoresParents := by
    rw [Bool.eq_iff_iff, hunion.ignoresParents, hunionOther.ignoresParents]
    exact exists_line_congr (by rw [hcontent])
  have himports : (read key other).1.imports = (read key text).1.imports := by
    change sortedImports (gather key.folder other.toList).imports =
      sortedImports (gather key.folder text.toList).imports
    rw [gather_eq, gather_eq, htext, hother]
    simp only [Gathered.beside, List.filterMap_append, List.filterMap_cons,
      saidImport?_congr hcontent]
  have hsets : (read key other).1.sets.map (OwnerSet.withRemarks said) =
      (read key text).1.sets.map (OwnerSet.withRemarks said) := by
    have hcanonical := canonical_read key text
    have hcanonicalOther := canonical_read key other
    have hmatched := Text.forall₂_of_pairwise_lt (fun _ _ h => And.left h) hcanonicalOther.sets
      hcanonical.sets
      (fun set hset => by
        rcases hunionOther.exists_same_owners hunion hcanonicalOther hcanonical
          (fun row email => (hlists row email).symm) (fun row => (hoverrides row).symm) said
          hset with
          ⟨found, hfound, hglobs, hsame⟩
        exact ⟨found, hfound, hglobs.symm, hsame.symm⟩)
      (fun set hset =>
        hunion.exists_same_owners hunionOther hcanonical hcanonicalOther hlists hoverrides said
          hset)
    have hmapped := hmatched.imp fun _ _ h => h.2
    rw [← List.forall₂_eq_eq_eq, List.forall₂_map_left_iff, List.forall₂_map_right_iff]
    exact hmapped
  have hkeys : (read key other).1.key = (read key text).1.key := rfl
  unfold OwnerConfig.withRemarks
  rw [hsets, hflag, himports, hkeys]

/-!
# The content of a line with a comment
-/

theorem trim_append_space (s : List Char) : Text.trim (s ++ [' ']) = Text.trim s := by
  have hblank : Text.isBlank ' ' = true := by decide
  unfold Text.trim Text.trimLeft
  rw [List.dropWhile_append]
  split
  · rename_i hnone
    rw [List.isEmpty_iff.mp hnone, List.dropWhile_cons_of_pos hblank]
    rfl
  · unfold Text.trimRight
    rw [List.reverse_append, List.reverse_singleton, List.singleton_append,
      List.dropWhile_cons_of_pos hblank]

/-- A blank cannot stand at the front of a remark. -/
theorem splitRemarks_comment (comment : List Char) :
    splitRemarks (" # ".toList ++ comment) =
      (" # ".toList ++ (splitRemarks comment).1, (splitRemarks comment).2) := by
  have hnone : readRemark? (' ' :: comment) = none := rfl
  change splitRemarks (' ' :: '#' :: ' ' :: comment) = _
  rw [splitRemarks_of_ne (by decide), splitRemarks]
  split
  · rename_i hread
    rw [hnone] at hread
    cases hread
  · rw [splitRemarks_of_ne (by decide)]
    rfl

theorem content_comment (hfree : '#' ∉ line) (comment : List Char) :
    content (line ++ (" # ".toList ++ comment)) =
      ((content line).1, (splitRemarks comment).2) := by
  have hplain : ∀ c ∈ line, decide (c ≠ '#') = true := by
    intro c hc
    apply decide_eq_true
    intro heq
    exact hfree (heq ▸ hc)
  have hline : splitRemarks line = (line, []) := by
    have hsplit : splitRemarks (line ++ []) = _ := splitRemarks_append hfree
    rw [List.append_nil, splitRemarks_nil, List.append_nil] at hsplit
    exact hsplit
  have hcut : (line ++ (" # ".toList ++ (splitRemarks comment).1)).takeWhile (· ≠ '#') =
      line ++ [' '] := by
    rw [List.takeWhile_append_of_pos hplain]
    rfl
  have hwhole : line.takeWhile (· ≠ '#') = line := List.takeWhile_eq_self_iff.mpr hplain
  unfold content
  rw [splitRemarks_append hfree, splitRemarks_comment, hline]
  dsimp only
  rw [hcut, hwhole, trim_append_space]

theorem remarks_of_free (hfree : '#' ∉ line) : (content line).2 = [] := by
  have hsplit : splitRemarks (line ++ []) = _ := splitRemarks_append hfree
  rw [List.append_nil, splitRemarks_nil] at hsplit
  unfold content
  rw [hsplit]

theorem splitRemarks_of_no_brace (h : ¬ ['#', '{'] <:+: comment) :
    (splitRemarks comment).2 = [] := by
  fun_induction splitRemarks comment with
  | case1 => rfl
  | case2 rest remark behind hread text remarks hsplit ih =>
      exfalso
      unfold readRemark? at hread
      split at hread
      · exact h (List.IsPrefix.isInfix ⟨_, rfl⟩)
      · cases hread
  | case3 rest hread text remarks hsplit ih =>
      rw [hsplit] at ih
      exact ih fun hwithin => h (hwithin.trans (List.suffix_cons _ _).isInfix)
  | case4 first rest hne text remarks hsplit ih =>
      rw [hsplit] at ih
      exact ih fun hwithin => h (hwithin.trans (List.suffix_cons _ _).isInfix)

/-!
# Reading a text with a comment
-/

/-- The text with a comment behind the line of a number; the first line has the number zero. -/
def withComment (comment : List Char) (n : Nat) (text : String) : String :=
  String.ofList (Text.addToLine (" # ".toList ++ comment) n text.toList)

def remarksAround (ahead behind : List (List Char)) (hidden : List Remark) (row : List String)
    (email : String) : List Remark :=
  (remarksSaid ahead row email ++ (hidden ++ remarksSaid behind row email)).eraseDups

variable {text : String}

theorem splitLines_withComment (hlines : Text.splitLines text.toList = ahead ++ line :: behind)
    (hcomment : ∀ c ∈ comment, Text.isLineBoundary c = false) :
    Text.splitLines (withComment comment ahead.length text).toList =
      ahead ++ (line ++ (" # ".toList ++ comment)) :: behind := by
  have hmore : ∀ c ∈ " # ".toList ++ comment, Text.isLineBoundary c = false := by
    have hsign : ∀ c ∈ " # ".toList, Text.isLineBoundary c = false :=
      Text.forall_mem_of_all (by decide)
    intro c hc
    rcases List.mem_append.mp hc with hc | hc
    · exact hsign c hc
    · exact hcomment c hc
  have hnumber : ahead.length < (Text.splitLines text.toList).length := by
    rw [hlines, List.length_append, List.length_cons]
    omega
  unfold withComment
  rw [String.toList_ofList, Text.splitLines_addToLine hmore hnumber, hlines,
    List.modify_eq_take_drop, List.take_left, List.drop_left]
  rfl

theorem remarksSaid_append_cons : remarksSaid (ahead ++ raw :: behind) row email =
    remarksSaid ahead row email ++
      ((if Lists raw row email then (content raw).2 else []) ++ remarksSaid behind row email) := by
  unfold remarksSaid
  rw [List.flatMap_append, List.flatMap_cons]

theorem remarksSaid_comment (hfree : '#' ∉ line) (comment : List Char) :
    (remarksSaid (ahead ++ (line ++ (" # ".toList ++ comment)) :: behind) row email).eraseDups =
      remarksAround ahead behind (if Lists line row email then (splitRemarks comment).2 else [])
        row email := by
  have hcontent := content_comment hfree comment
  have hlists : Lists (line ++ (" # ".toList ++ comment)) row email ↔ Lists line row email :=
    lists_congr (by rw [hcontent])
  rw [remarksSaid_append_cons, hcontent]
  simp only [hlists]
  rfl

theorem remarksSaid_of_free (hfree : '#' ∉ line) :
    (remarksSaid (ahead ++ line :: behind) row email).eraseDups =
      remarksAround ahead behind [] row email := by
  rw [remarksSaid_append_cons, remarks_of_free hfree, ite_self]
  rfl

theorem read_eq_around (key : ConfigKey)
    (hlines : Text.splitLines text.toList = ahead ++ line :: behind) (hfree : '#' ∉ line) :
    (read key text).1.withRemarks (remarksAround ahead behind []) = (read key text).1 := by
  have hself := read_eq_withRemarks key text
  rw [hlines] at hself
  simp only [remarksSaid_of_free hfree] at hself
  exact hself

theorem read_withComment_eq (key : ConfigKey)
    (hlines : Text.splitLines text.toList = ahead ++ line :: behind) (hfree : '#' ∉ line)
    (hcomment : ∀ c ∈ comment, Text.isLineBoundary c = false) :
    (read key (withComment comment ahead.length text)).1 =
      (read key text).1.withRemarks fun row email =>
        remarksAround ahead behind (if Lists line row email then (splitRemarks comment).2 else [])
          row email := by
  have hcommented := splitLines_withComment hlines hcomment
  have hself := read_eq_withRemarks key (withComment comment ahead.length text)
  rw [hcommented] at hself
  simp only [remarksSaid_comment hfree] at hself
  rw [← hself]
  exact read_withRemarks_congr key hlines hcommented (by rw [content_comment hfree]) _

theorem exists_set_of_lists (key : ConfigKey)
    (hlines : Text.splitLines text.toList = ahead ++ line :: behind) (h : Lists line row email) :
    ∃ set ∈ (read key text).1.sets, set.globs = row ∧ email ∈ set.emails := by
  have hunion := unionOf_read key text
  have hline : line ∈ Text.splitLines text.toList := by
    rw [hlines]
    exact List.mem_append_right _ List.mem_cons_self
  rcases (hunion.rows row).mpr ⟨line, hline, .inl ⟨email, h⟩⟩ with ⟨set, hset, rfl⟩
  rcases (hunion.owners set hset email).mpr ⟨line, hline, h⟩ with ⟨ref, href, rfl⟩
  exact ⟨set, hset, rfl, List.mem_map_of_mem href⟩

theorem read_withComment_eq_iff (key : ConfigKey)
    (hlines : Text.splitLines text.toList = ahead ++ line :: behind) (hfree : '#' ∉ line)
    (hcomment : ∀ c ∈ comment, Text.isLineBoundary c = false) :
    (read key (withComment comment ahead.length text)).1 = (read key text).1 ↔
      ∀ row email, Lists line row email →
        remarksAround ahead behind (splitRemarks comment).2 row email =
          remarksAround ahead behind [] row email := by
  rw [read_withComment_eq key hlines hfree hcomment]
  have hself := read_eq_around key hlines hfree
  constructor
  · intro h row email hlists
    rcases exists_set_of_lists key hlines hlists with ⟨set, hset, rfl, hemail⟩
    have hsame := withRemarks_eq_iff.mp (h.trans hself.symm) set hset email hemail
    rw [if_pos hlists] at hsame
    exact hsame
  · intro h
    apply Eq.trans _ hself
    rw [withRemarks_eq_iff]
    intro set _ email _
    split
    · rename_i hlists
      exact h set.globs email hlists
    · rfl

/-- A comment behind a line changes nothing but remarks: the owners that the line lists have those
that can be read from the comment, at the place of the line among all their remarks.  So the
configuration stays as it is exactly if these remarks make no difference to any of them, as it
always does if no brace stands behind a number sign in the comment. -/
theorem read_withComment (key : ConfigKey)
    (hlines : Text.splitLines text.toList = ahead ++ line :: behind) (hfree : '#' ∉ line)
    (hcomment : ∀ c ∈ comment, Text.isLineBoundary c = false) :
    Text.splitLines (withComment comment ahead.length text).toList =
        ahead ++ (line ++ (" # ".toList ++ comment)) :: behind ∧
      ((read key (withComment comment ahead.length text)).1 =
        (read key text).1.withRemarks fun row email =>
          remarksAround ahead behind (if Lists line row email then (splitRemarks comment).2 else [])
            row email) ∧
      ((read key (withComment comment ahead.length text)).1 = (read key text).1 ↔
        ∀ row email, Lists line row email →
          remarksAround ahead behind (splitRemarks comment).2 row email =
            remarksAround ahead behind [] row email) ∧
      (¬ ['#', '{'] <:+: comment →
        (read key (withComment comment ahead.length text)).1 = (read key text).1) := by
  refine ⟨splitLines_withComment hlines hcomment, read_withComment_eq key hlines hfree hcomment,
    read_withComment_eq_iff key hlines hfree hcomment, ?_⟩
  intro hplain
  rw [read_withComment_eq_iff key hlines hfree hcomment, splitRemarks_of_no_brace hplain]
  exact fun row email _ => rfl

def cottageKey : ConfigKey := { project := "cottage", branch := "main" }

theorem cottage_keeps_config :
    (read cottageKey (withComment "lead".toList 0 "ann@cottage\n")).1 =
      (read cottageKey "ann@cottage\n").1 := by
  have hlines : Text.splitLines "ann@cottage\n".toList = [] ++ "ann@cottage".toList :: [] := by
    decide +kernel
  have hcomment : ∀ c ∈ "lead".toList, Text.isLineBoundary c = false :=
    Text.forall_mem_of_all (by decide)
  exact (read_withComment cottageKey hlines (by decide) hcomment).2.2.2 (by decide)

theorem lists_ann : Lists "ann@cottage".toList [] "ann@cottage" := by
  apply Lists.forAll
  rw [ownerForm_iff, content_plain (by decide) (by decide)]
  decide +kernel

/-- A remark in a comment counts: from now on the owner is not suggested. -/
theorem comment_holds_remark :
    withComment "#{NEVER_SUGGEST}".toList 0 "ann@cottage\n" =
        "ann@cottage # #{NEVER_SUGGEST}\n" ∧
      (read cottageKey (withComment "#{NEVER_SUGGEST}".toList 0 "ann@cottage\n")).1 ≠
        (read cottageKey "ann@cottage\n").1 := by
  have hlines : Text.splitLines "ann@cottage\n".toList = [] ++ "ann@cottage".toList :: [] := by
    decide +kernel
  have hread : readRemark? "{NEVER_SUGGEST}".toList = some (Remark.neverSuggest, []) := by
    decide +kernel
  have hhidden : (splitRemarks "#{NEVER_SUGGEST}".toList).2 = [Remark.neverSuggest] := by
    change (splitRemarks ('#' :: "{NEVER_SUGGEST}".toList)).2 = _
    rw [splitRemarks_of_remark hread, splitRemarks_nil]
  have hcomment : ∀ c ∈ "#{NEVER_SUGGEST}".toList, Text.isLineBoundary c = false :=
    Text.forall_mem_of_all (by decide)
  refine ⟨by decide +kernel, ?_⟩
  intro hsame
  have haround := (read_withComment_eq_iff cottageKey hlines (by decide) hcomment).mp hsame []
    "ann@cottage" lists_ann
  rw [hhidden] at haround
  revert haround
  decide +kernel

end LineFormat
end Ownership
