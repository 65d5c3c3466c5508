import Mathlib.Data.List.Induction
import Ownership.Proofs.Tree.Attempts

/-!
# What a history shows of its commits

The commits that were tried on a history, some of them in vain, tell all that can be read from it.
At the head of a branch a path has the content that was last written to it.  A revision stays as it
was made, a commit shows in no other branch, and one that fails shows nowhere.  All this rests on
the digest: the texts that it is taken of differ in their numbers, so two revisions get the same name
only if it gives two of these texts one value.
-/

namespace Ownership
namespace History

variable {digest : String → String} {history other next : History} {commit : Commit}
  {commits before later : List Commit} {project branch revision path : String}

/-!
# A run of commits
-/

def after (digest : String → String) (history : History) (commits : List Commit) : History :=
  commits.foldl (fun history commit => (attemptWith digest history commit).2) history

def historyOf (digest : String → String) (commits : List Commit) : History :=
  after digest {} commits

def outcomes (digest : String → String) (history : History) :
    List Commit → List (Except PathError String)
  | [] => []
  | commit :: rest =>
      (attemptWith digest history commit).1 ::
        outcomes digest (attemptWith digest history commit).2 rest

/-- The texts that the commits take digests of.  Only those that succeed count. -/
def hashedTexts (commits : List Commit) : List String :=
  ((commits.filter Commit.isSound).zipIdx 1).map fun entry =>
    revisionText entry.1.project entry.1.branch entry.2

/-- The digest keeps the texts apart that the commits take digests of. -/
def KeepsApart (digest : String → String) (commits : List Commit) : Prop :=
  ∀ text ∈ hashedTexts commits, ∀ other ∈ hashedTexts commits, digest text = digest other →
    text = other

def Commit.writesTo (project branch : String) (commit : Commit) : Bool :=
  commit.isSound && decide (commit.project = project ∧ commit.branch = branch)

def writesTo (commits : List Commit) (project branch : String) :
    List (String × Option Content) :=
  (commits.filter (Commit.writesTo project branch)).flatMap fun commit => commit.files.entries

/-- The content that was last written to a path of a branch, unless it was deleted since. -/
def lastWritten (commits : List Commit) (project branch path : String) : Option Content :=
  (lastWrite? (writesTo commits project branch) path).join

theorem historyOf_append_singleton (digest : String → String) (commits : List Commit)
    (commit : Commit) : historyOf digest (commits ++ [commit]) =
      (attemptWith digest (historyOf digest commits) commit).2 :=
  List.foldl_append

theorem hashedTexts_append (commits more : List Commit) :
    hashedTexts (commits ++ more) = hashedTexts commits ++
      ((more.filter Commit.isSound).zipIdx ((commits.filter Commit.isSound).length + 1)).map
        fun entry => revisionText entry.1.project entry.1.branch entry.2 := by
  unfold hashedTexts
  rw [List.filter_append, List.zipIdx_append, List.map_append, Nat.add_comm]

theorem hashedTexts_append_singleton (commits : List Commit) (commit : Commit) :
    hashedTexts (commits ++ [commit]) = hashedTexts commits ++
      if commit.isSound = true then
        [revisionText commit.project commit.branch ((commits.filter Commit.isSound).length + 1)]
      else [] := by
  rw [hashedTexts_append, List.filter_singleton]
  cases commit.isSound <;> rfl

theorem KeepsApart.of_append {more : List Commit} (h : KeepsApart digest (commits ++ more)) :
    KeepsApart digest commits := by
  unfold KeepsApart at h
  rw [hashedTexts_append] at h
  intro text htext other hother
  exact h text (List.mem_append_left _ htext) other (List.mem_append_left _ hother)

theorem Commit.writesTo_of_isSound (h : commit.isSound = true) (project branch : String) :
    commit.writesTo project branch = true ↔
      (commit.project, commit.branch) = (project, branch) := by
  unfold Commit.writesTo
  rw [h, Bool.true_and, decide_eq_true_iff, Prod.mk.injEq]

theorem Commit.writesTo_of_not_isSound (h : commit.isSound = false) (project branch : String) :
    commit.writesTo project branch = false := by
  unfold Commit.writesTo
  rw [h, Bool.false_and]

theorem writesTo_append_singleton (commits : List Commit) (commit : Commit)
    (project branch : String) : writesTo (commits ++ [commit]) project branch =
      writesTo commits project branch ++
        if commit.writesTo project branch = true then commit.files.entries else [] := by
  unfold writesTo
  rw [List.filter_append, List.flatMap_append, List.filter_singleton]
  cases commit.writesTo project branch <;> simp

theorem lastWritten_append_singleton (commits : List Commit) (commit : Commit)
    (project branch path : String) : lastWritten (commits ++ [commit]) project branch path =
      if commit.writesTo project branch = true then
        (lastWrite? commit.files.entries path).getD (lastWritten commits project branch path)
      else lastWritten commits project branch path := by
  unfold lastWritten
  rw [writesTo_append_singleton, lastWrite?_append]
  cases commit.writesTo project branch with
  | true =>
      rw [if_pos rfl, if_pos rfl]
      cases lastWrite? commit.files.entries path <;> rfl
  | false => rfl

/-!
# The names of revisions
-/

theorem notMem_integerText {c : Char} (hc : c.isDigit = false) (number : Nat) :
    c ∉ (Text.integerText number).toList := by
  intro hmem
  rw [show Text.integerText number = String.ofList (Nat.toDigits 10 number) from rfl,
    String.toList_ofList] at hmem
  have hdigit := Nat.isDigit_of_mem_toDigits (by decide) (by decide) hmem
  rw [hc] at hdigit
  cases hdigit

theorem bar_notMem_integerText (number : Nat) : '|' ∉ (Text.integerText number).toList :=
  notMem_integerText (by decide) number

theorem integerText_inj {number number' : Nat}
    (h : Text.integerText number = Text.integerText number') : number = number' := by
  have hdigits : Nat.toDigits 10 number = Nat.toDigits 10 number' := String.ofList_injective h
  rw [← Nat.ofDigitChars_ten_toDigits (n := number), hdigits, Nat.ofDigitChars_ten_toDigits]

/-- The number of a revision can be read off the text that it is named by. -/
theorem number_of_revisionText {project' branch' : String} {number number' : Nat}
    (h : revisionText project branch number = revisionText project' branch' number') :
    number = number' := by
  have hcut : ∀ (project branch : String) (number : Nat),
      Text.cutAt? '|' (revisionText project branch number).toList.reverse =
        some ((Text.integerText number).toList.reverse,
          (project ++ "|" ++ branch).toList.reverse) := by
    intro project branch number
    unfold revisionText
    rw [String.toList_append, String.toList_append, List.reverse_append, List.reverse_append]
    show Text.cutAt? '|' (_ ++ '|' :: _) = _
    exact Text.cutAt?_append fun hbar => bar_notMem_integerText number (List.mem_reverse.mp hbar)
  have hsame := hcut project branch number
  rw [h, hcut, Option.some.injEq, Prod.mk.injEq, List.reverse_inj] at hsame
  exact (integerText_inj (String.toList_inj.mp hsame.1)).symm

theorem number_of_mem_hashedTexts {number : Nat}
    (h : revisionText project branch number ∈ hashedTexts commits) :
    number ≤ (commits.filter Commit.isSound).length := by
  rcases List.mem_map.mp h with ⟨entry, hentry, htext⟩
  rcases List.mem_zipIdx hentry with ⟨_, hlt, _⟩
  rw [← number_of_revisionText htext]
  omega

/-!
# The invariant of a run
-/

/-- What the commits that were tried tell of a history. -/
structure ToldBy (digest : String → String) (commits : List Commit) (history : History) :
    Prop where
  count : history.commits = (commits.filter Commit.isSound).length
  named : ∀ project revision snapshot, history.snapshotAt? project revision = some snapshot →
    ∃ text ∈ hashedTexts commits, digest text = revision
  listed : ∀ project branch, ∀ revision ∈ history.revisions project branch,
    ∃ snapshot, history.snapshotAt? project revision = some snapshot
  started : ∀ project branch,
    (history.head? project branch).isSome = commits.any (Commit.writesTo project branch)
  written : ∀ project branch path,
    (history.headSnapshot project branch).get? path = lastWritten commits project branch path

theorem toldBy_nil (digest : String → String) : ToldBy digest [] {} where
  count := rfl
  named _ _ _ h := nomatch h
  listed _ _ _ h := nomatch h
  started _ _ := rfl
  written _ _ _ := rfl

theorem ToldBy.headed (h : ToldBy digest commits history)
    (hhead : history.head? project branch = some revision) :
    ∃ snapshot, history.snapshotAt? project revision = some snapshot :=
  h.listed project branch revision (List.mem_of_getLast? hhead)

theorem ToldBy.fresh (h : ToldBy digest commits history) (hsound : commit.isSound = true)
    (hapart : KeepsApart digest (commits ++ [commit])) (project : String) :
    history.snapshotAt? project (nextRevision digest history commit) = none := by
  cases hold : history.snapshotAt? project (nextRevision digest history commit) with
  | none => rfl
  | some snapshot =>
      rcases h.named _ _ _ hold with ⟨text, htext, hdigest⟩
      have hnew : revisionText commit.project commit.branch (history.commits + 1) ∈
          hashedTexts (commits ++ [commit]) := by
        rw [hashedTexts_append_singleton, if_pos hsound, h.count]
        exact List.mem_append_right _ List.mem_cons_self
      have holder : text ∈ hashedTexts (commits ++ [commit]) := by
        rw [hashedTexts_append]
        exact List.mem_append_left _ htext
      rcases hapart text holder _ hnew hdigest with rfl
      have hnumber := number_of_mem_hashedTexts htext
      rw [h.count] at hnumber
      omega

section

variable (htold : ToldBy digest commits history) (h : Adds digest history commit next)
include htold h

theorem ToldBy.snapshotAt?_of_adds (hsound : commit.isSound = true)
    (hapart : KeepsApart digest (commits ++ [commit])) {snapshot : Snapshot}
    (hold : history.snapshotAt? project revision = some snapshot) :
    next.snapshotAt? project revision = some snapshot :=
  h.snapshotAt?_of_fresh (htold.fresh hsound hapart) hold

theorem ToldBy.named_of_adds (hsound : commit.isSound = true) {snapshot : Snapshot}
    (hsnapshot : next.snapshotAt? project revision = some snapshot) :
    ∃ text ∈ hashedTexts (commits ++ [commit]), digest text = revision := by
  rw [hashedTexts_append_singleton, if_pos hsound, ← htold.count]
  by_cases hnew : (project, revision) = (commit.project, nextRevision digest history commit)
  · injection hnew with _ hrevision
    exact ⟨revisionText commit.project commit.branch (history.commits + 1),
      List.mem_append_right _ List.mem_cons_self, hrevision.symm⟩
  · rw [h.others project revision hnew] at hsnapshot
    rcases htold.named project revision snapshot hsnapshot with ⟨text, htext, hdigest⟩
    exact ⟨text, List.mem_append_left _ htext, hdigest⟩

theorem ToldBy.listed_of_adds (hsound : commit.isSound = true)
    (hapart : KeepsApart digest (commits ++ [commit]))
    (hlisted : revision ∈ next.revisions project branch) :
    ∃ snapshot, next.snapshotAt? project revision = some snapshot := by
  have hold : ∀ {project branch : String}, revision ∈ history.revisions project branch →
      ∃ snapshot, next.snapshotAt? project revision = some snapshot := by
    intro project branch hmem
    rcases htold.listed project branch revision hmem with ⟨snapshot, hsnapshot⟩
    exact ⟨snapshot, htold.snapshotAt?_of_adds h hsound hapart hsnapshot⟩
  rw [h.revisions] at hlisted
  split at hlisted
  · rename_i hsame
    cases hsame
    rcases List.mem_append.mp hlisted with hbefore | hnew
    · exact hold hbefore
    · rcases h.snapshot with ⟨snapshot, hsnapshot, _⟩
      rw [List.mem_singleton.mp hnew]
      exact ⟨snapshot, hsnapshot⟩
  · exact hold hlisted

theorem ToldBy.started_of_adds (hsound : commit.isSound = true) (project branch : String) :
    (next.head? project branch).isSome =
      (commits ++ [commit]).any (Commit.writesTo project branch) := by
  rw [h.head?, List.any_append, ← htold.started, List.any_cons, List.any_nil, Bool.or_false]
  split
  · rename_i hsame
    rw [(Commit.writesTo_of_isSound hsound project branch).mpr hsame, Bool.or_true]
    rfl
  · rename_i hother
    rw [eq_false_of_ne_true (mt (Commit.writesTo_of_isSound hsound project branch).mp hother),
      Bool.or_false]

theorem ToldBy.written_of_adds (hsound : commit.isSound = true)
    (hapart : KeepsApart digest (commits ++ [commit])) (project branch path : String) :
    (next.headSnapshot project branch).get? path =
      lastWritten (commits ++ [commit]) project branch path := by
  have hhead := h.head? project branch
  rw [lastWritten_append_singleton, ← htold.written]
  by_cases hsame : (commit.project, commit.branch) = (project, branch)
  · rw [if_pos ((Commit.writesTo_of_isSound hsound project branch).mpr hsame)]
    rw [if_pos hsame] at hhead
    rcases h.snapshot with ⟨snapshot, hsnapshot, hfiles⟩
    cases hsame
    rw [headSnapshot_of_head? hhead hsnapshot, hfiles]
  · rw [if_neg (mt (Commit.writesTo_of_isSound hsound project branch).mp hsame)]
    rw [if_neg hsame] at hhead
    cases hold : history.head? project branch with
    | none =>
        unfold headSnapshot
        rw [hhead, hold]
        rfl
    | some revision =>
        rcases htold.headed hold with ⟨snapshot, hsnapshot⟩
        rw [headSnapshot_of_head? hold hsnapshot, headSnapshot_of_head? (hhead.trans hold)
          (htold.snapshotAt?_of_adds h hsound hapart hsnapshot)]

end

theorem ToldBy.adds (htold : ToldBy digest commits history) (hsound : commit.isSound = true)
    (hapart : KeepsApart digest (commits ++ [commit])) (h : Adds digest history commit next) :
    ToldBy digest (commits ++ [commit]) next where
  count := by
    rw [h.commits, htold.count, List.filter_append, List.filter_singleton, hsound,
      List.length_append]
    rfl
  named _ _ _ hsnapshot := htold.named_of_adds h hsound hsnapshot
  listed _ _ _ hlisted := htold.listed_of_adds h hsound hapart hlisted
  started := htold.started_of_adds h hsound
  written := htold.written_of_adds h hsound hapart

theorem ToldBy.looksLike (htold : ToldBy digest commits history) (hsound : commit.isSound = false)
    (h : history.LooksLike next) : ToldBy digest (commits ++ [commit]) next where
  count := by
    rw [h.commits, htold.count, List.filter_append, List.filter_singleton, hsound]
    exact congrArg List.length (List.append_nil _).symm
  named project revision snapshot hsnapshot := by
    rw [h.snapshotAt?] at hsnapshot
    rw [hashedTexts_append_singleton, hsound, if_neg Bool.false_ne_true, List.append_nil]
    exact htold.named project revision snapshot hsnapshot
  listed project branch revision hlisted := by
    rw [h.revisions] at hlisted
    rw [h.snapshotAt?]
    exact htold.listed project branch revision hlisted
  started project branch := by
    rw [h.head?, htold.started, List.any_append, List.any_cons, List.any_nil,
      Commit.writesTo_of_not_isSound hsound, Bool.or_false, Bool.or_false]
  written project branch path := by
    rw [h.headSnapshot, htold.written, lastWritten_append_singleton,
      Commit.writesTo_of_not_isSound hsound, if_neg Bool.false_ne_true]

theorem toldBy_historyOf (hapart : KeepsApart digest commits) :
    ToldBy digest commits (historyOf digest commits) := by
  induction commits using List.reverseRecOn with
  | nil => exact toldBy_nil digest
  | append_singleton earlier commit ih =>
      rw [historyOf_append_singleton]
      have htold := ih hapart.of_append
      rcases attemptWith_cases digest (historyOf digest earlier) commit with
        ⟨hsound, _, hadds⟩ | ⟨hsound, _, hsame⟩
      · exact htold.adds hsound hapart hadds
      · exact htold.looksLike hsound hsame

/-!
# What stays
-/

theorem snapshotAt?_append (hapart : KeepsApart digest (before ++ later)) {snapshot : Snapshot}
    (hold : (historyOf digest before).snapshotAt? project revision = some snapshot) :
    (historyOf digest (before ++ later)).snapshotAt? project revision = some snapshot := by
  induction later using List.reverseRecOn with
  | nil =>
      rw [List.append_nil]
      exact hold
  | append_singleton earlier commit ih =>
      rw [← List.append_assoc] at hapart ⊢
      have hearlier := ih hapart.of_append
      have htold := toldBy_historyOf hapart.of_append
      rw [historyOf_append_singleton]
      rcases attemptWith_cases digest (historyOf digest (before ++ earlier)) commit with
        ⟨hsound, _, hadds⟩ | ⟨_, _, hsame⟩
      · exact htold.snapshotAt?_of_adds hadds hsound hapart hearlier
      · rw [hsame.snapshotAt?]
        exact hearlier

theorem contentOf_append (hapart : KeepsApart digest (before ++ later)) {content : Option Content}
    (h : (historyOf digest before).contentOf project revision path = .ok content) :
    (historyOf digest (before ++ later)).contentOf project revision path = .ok content := by
  rcases except_bind_eq_ok.mp h with ⟨snapshot, hsnapshot, _⟩
  have hold := snapshot_eq_ok.mp hsnapshot
  rw [← h]
  apply contentOf_congr
  rw [snapshotAt?_append hapart hold, hold]

/-- All revisions are still there, with the files that they had. -/
def KeepsFiles (history later : History) : Prop :=
  ∀ project revision paths, history.listFiles project revision = .ok paths →
    later.listFiles project revision = .ok paths ∧
      ∀ path, later.contentOf project revision path = history.contentOf project revision path

theorem keepsFiles_of_snapshotAt?
    (h : ∀ project revision snapshot, history.snapshotAt? project revision = some snapshot →
      next.snapshotAt? project revision = some snapshot) : history.KeepsFiles next := by
  intro project revision paths hpaths
  rcases except_bind_eq_ok.mp hpaths with ⟨snapshot, hsnapshot, _⟩
  have hold := snapshot_eq_ok.mp hsnapshot
  have hsame : next.snapshotAt? project revision = history.snapshotAt? project revision := by
    rw [h project revision snapshot hold, hold]
  refine ⟨?_, contentOf_congr hsame⟩
  rw [← hpaths]
  exact listFiles_congr hsame

/-- Nothing that can be read of a branch tells the histories apart. -/
structure SameBranch (project branch : String) (history next : History) : Prop where
  head? : next.head? project branch = history.head? project branch
  containsRevision : ∀ revision, next.containsRevision project branch revision =
    history.containsRevision project branch revision
  contentOf : ∀ revision, history.containsRevision project branch revision = true →
    ∀ path, next.contentOf project revision path = history.contentOf project revision path
  listFiles : ∀ revision, history.containsRevision project branch revision = true →
    next.listFiles project revision = history.listFiles project revision

theorem sameBranch_of_revisions
    (hrevisions : next.revisions project branch = history.revisions project branch)
    (h : ∀ revision ∈ history.revisions project branch,
      next.snapshotAt? project revision = history.snapshotAt? project revision) :
    SameBranch project branch history next := by
  have hlisted : ∀ revision, history.containsRevision project branch revision = true →
      next.snapshotAt? project revision = history.snapshotAt? project revision := by
    intro revision hcontains
    exact h revision (of_decide_eq_true hcontains)
  constructor
  · unfold History.head?
    rw [hrevisions]
  · intro revision
    unfold History.containsRevision
    rw [hrevisions]
  · intro revision hcontains path
    exact contentOf_congr (hlisted revision hcontains) path
  · intro revision hcontains
    exact listFiles_congr (hlisted revision hcontains)

structure SameProject (project : String) (history next : History) : Prop where
  branches : ∀ branch, SameBranch project branch history next
  contentOf : ∀ revision path,
    next.contentOf project revision path = history.contentOf project revision path
  listFiles : ∀ revision, next.listFiles project revision = history.listFiles project revision

theorem sameProject_of_revisions
    (hrevisions : ∀ branch, next.revisions project branch = history.revisions project branch)
    (h : ∀ revision, next.snapshotAt? project revision = history.snapshotAt? project revision) :
    SameProject project history next where
  branches branch := sameBranch_of_revisions (hrevisions branch) fun revision _ => h revision
  contentOf revision path := contentOf_congr (h revision) path
  listFiles revision := listFiles_congr (h revision)

theorem sameBranch_attemptWith (hapart : KeepsApart digest (commits ++ [commit]))
    (hother : (project, branch) ≠ (commit.project, commit.branch)) :
    SameBranch project branch (historyOf digest commits)
      (historyOf digest (commits ++ [commit])) := by
  have htold := toldBy_historyOf hapart.of_append
  apply sameBranch_of_revisions
  · rw [historyOf_append_singleton]
    rcases attemptWith_cases digest (historyOf digest commits) commit with
      ⟨_, _, hadds⟩ | ⟨_, _, hsame⟩
    · rw [hadds.revisions, if_neg hother.symm]
    · exact hsame.revisions project branch
  · intro revision hlisted
    rcases htold.listed project branch revision hlisted with ⟨snapshot, hold⟩
    rw [snapshotAt?_append hapart hold, hold]

theorem sameProject_attemptWith (digest : String → String) (commits : List Commit)
    (hother : project ≠ commit.project) :
    SameProject project (historyOf digest commits) (historyOf digest (commits ++ [commit])) := by
  rw [historyOf_append_singleton]
  rcases attemptWith_cases digest (historyOf digest commits) commit with
    ⟨_, _, hadds⟩ | ⟨_, _, hsame⟩
  · apply sameProject_of_revisions
    · intro branch
      rw [hadds.revisions, if_neg]
      intro heq
      exact hother (Prod.mk.inj heq).1.symm
    · intro revision
      apply hadds.others
      intro heq
      exact hother (Prod.mk.inj heq).1
  · exact sameProject_of_revisions (hsame.revisions project) (hsame.snapshotAt? project)

/-!
# Further commits

Histories that look alike stay so, whatever commits are tried on both.
-/

theorem LooksLike.after (h : history.LooksLike other) (digest : String → String)
    (commits : List Commit) :
    outcomes digest other commits = outcomes digest history commits ∧
      (History.after digest history commits).LooksLike (History.after digest other commits) := by
  induction commits generalizing history other with
  | nil => exact ⟨rfl, h⟩
  | cons commit rest ih =>
      rcases h.attemptWith digest commit with ⟨houtcome, hnext⟩
      rcases ih hnext with ⟨houtcomes, hafter⟩
      refine ⟨?_, hafter⟩
      unfold outcomes
      rw [houtcome, houtcomes]

/-- Neither the trees nor the outcomes of any further commits tell the histories apart. -/
structure CannotBeTold (digest : String → String) (history other : History) : Prop where
  trees : ∀ commits, (after digest other commits).tree = (after digest history commits).tree
  outcomes : ∀ commits, outcomes digest other commits = outcomes digest history commits

theorem LooksLike.cannotBeTold (h : history.LooksLike other) (digest : String → String) :
    CannotBeTold digest history other where
  trees commits := (h.after digest commits).2.tree
  outcomes commits := (h.after digest commits).1

/-!
# What a history shows
-/

/-- What can be read of a history is told by the commits that were tried, as long as the digest
keeps apart what it is taken of. -/
theorem files_told_by_commits (hapart : KeepsApart digest commits) :
    (∀ project branch,
      match (historyOf digest commits).head? project branch with
      | none => ∀ commit ∈ commits, commit.writesTo project branch = false
      | some revision => ∀ path normal, Path.normalize path = .ok normal →
          (historyOf digest commits).contentOf project revision path =
            .ok (lastWritten commits project branch normal)) ∧
    (∀ before later, commits = before ++ later →
      (historyOf digest before).KeepsFiles (historyOf digest commits)) ∧
    ∀ before commit later, commits = before ++ commit :: later →
      (attemptWith digest (historyOf digest before) commit).1.toOption.isSome = commit.isSound ∧
      (∀ project branch, (project, branch) ≠ (commit.project, commit.branch) →
        SameBranch project branch (historyOf digest before)
          (historyOf digest (before ++ [commit]))) ∧
      (∀ project, project ≠ commit.project →
        SameProject project (historyOf digest before) (historyOf digest (before ++ [commit]))) ∧
      ∀ error, (attemptWith digest (historyOf digest before) commit).1 = .error error →
        CannotBeTold digest (historyOf digest before) (historyOf digest (before ++ [commit])) := by
  have htold := toldBy_historyOf hapart
  refine ⟨fun project branch => ?_, ?_, ?_⟩
  · have hstarted := htold.started project branch
    have hwritten := htold.written project branch
    cases hhead : (historyOf digest commits).head? project branch with
    | none =>
        rw [hhead] at hstarted
        intro commit hcommit
        exact eq_false_of_ne_true (List.any_eq_false.mp hstarted.symm commit hcommit)
    | some revision =>
        intro path normal hnormal
        rcases htold.headed hhead with ⟨snapshot, hsnapshot⟩
        rw [← hwritten normal, headSnapshot_of_head? hhead hsnapshot]
        unfold contentOf
        rw [snapshot_eq_ok.mpr hsnapshot, hnormal]
        rfl
  · intro before later hcommits
    rw [hcommits] at hapart ⊢
    apply keepsFiles_of_snapshotAt?
    intro project revision snapshot
    exact snapshotAt?_append hapart
  · intro before commit later hcommits
    rw [hcommits, List.append_cons] at hapart
    have htried := attemptWith_cases digest (historyOf digest before) commit
    refine ⟨?_, ?_, ?_, ?_⟩
    · rcases htried with ⟨hsound, hmade, _⟩ | ⟨hsound, ⟨error, herror⟩, _⟩
      · rw [hmade, hsound]
        rfl
      · rw [herror, hsound]
        rfl
    · intro project branch hother
      exact sameBranch_attemptWith hapart.of_append hother
    · intro project hother
      exact sameProject_attemptWith digest before hother
    · intro error herror
      rw [historyOf_append_singleton]
      rcases htried with ⟨_, hmade, _⟩ | ⟨_, _, hsame⟩
      · rw [hmade] at herror
        cases herror
      · exact hsame.cannotBeTold digest

/-!
# A mill

The second commit fails at its last path, so the first one still stands when the third comes.
-/

def millCommits : List Commit := [
  { project := "mill", branch := "main"
    files := ⟨[("/wheel/", some "oak".toUTF8.toList), ("//wheel", some "elm".toUTF8.toList),
      ("/sails", some "linen".toUTF8.toList)]⟩ },
  { project := "mill", branch := "main", files := ⟨[("/wheel", none), ("/../sea", none)]⟩ },
  { project := "mill", branch := "main", files := ⟨[("/./sails", none)]⟩ }]

theorem mill_files_told :
    KeepsApart Text.fingerprint millCommits ∧
    (∃ revision, (historyOf Text.fingerprint millCommits).head? "mill" "main" = some revision ∧
      (historyOf Text.fingerprint millCommits).contentOf "mill" revision "/wheel" =
        .ok (some "elm".toUTF8.toList) ∧
      (historyOf Text.fingerprint millCommits).contentOf "mill" revision "/sails" = .ok none) ∧
    (historyOf Text.fingerprint (millCommits.take 1)).KeepsFiles
      (historyOf Text.fingerprint millCommits) ∧
    SameProject "bakery" (historyOf Text.fingerprint (millCommits.take 2))
      (historyOf Text.fingerprint millCommits) ∧
    CannotBeTold Text.fingerprint (historyOf Text.fingerprint (millCommits.take 1))
      (historyOf Text.fingerprint (millCommits.take 2)) := by
  have hapart : KeepsApart Text.fingerprint millCommits := by
    unfold KeepsApart
    decide +kernel
  rcases files_told_by_commits hapart with ⟨hheads, hkept, hsteps⟩
  refine ⟨hapart, ?_, hkept (millCommits.take 1) (millCommits.drop 1) rfl, ?_, ?_⟩
  · have hmill := hheads "mill" "main"
    cases hhead : (historyOf Text.fingerprint millCommits).head? "mill" "main" with
    | none =>
        rw [hhead] at hmill
        exact absurd (hmill _ List.mem_cons_self) (by decide +kernel)
    | some revision =>
        rw [hhead] at hmill
        refine ⟨revision, rfl, ?_, ?_⟩
        · rw [hmill "/wheel" "/wheel" (by decide +kernel)]
          decide +kernel
        · rw [hmill "/sails" "/sails" (by decide +kernel)]
          decide +kernel
  · exact (hsteps (millCommits.take 2) _ [] rfl).2.2.1 "bakery" (by decide +kernel)
  · have hfails : (attemptWith Text.fingerprint (historyOf Text.fingerprint (millCommits.take 1))
        millCommits[1]).1.toOption.isSome = false := by decide +kernel
    cases houtcome : (attemptWith Text.fingerprint
        (historyOf Text.fingerprint (millCommits.take 1)) millCommits[1]).1 with
    | ok revision =>
        rw [houtcome] at hfails
        cases hfails
    | error error =>
        exact (hsteps (millCommits.take 1) _ (millCommits.drop 2) rfl).2.2.2 error houtcome

end History
end Ownership
