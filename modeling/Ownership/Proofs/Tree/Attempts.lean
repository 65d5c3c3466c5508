import Ownership.Proofs.Memory
import Ownership.Proofs.Tree.Revisions

/-!
# Trying commits

A commit whose paths all have a normal form adds a revision to its branch and leaves everything else
as it is.  One with a bad path leaves a history that looks the same: its branch may be known
afterwards, but a branch without revisions cannot be told from one that is not known.
-/

namespace Ownership
namespace History

variable {digest : String → String} {history other next : History} {commit : Commit}
  {project branch revision path : String}

/-!
# Writing files

Writing stops at the first path without a normal form.  Otherwise the last write to a path is what
can be read there.
-/

def Commit.isSound (commit : Commit) : Bool :=
  commit.files.entries.all fun file => (Path.normalize file.1).toOption.isSome

/-- What the last write to a path has put there, where to delete is to put nothing. -/
def lastWrite? (files : List (String × Option Content)) (path : String) :
    Option (Option Content) :=
  (files.reverse.find? fun file => (Path.normalize file.1).toOption = some path).map Prod.snd

theorem lastWrite?_append (files more : List (String × Option Content)) (path : String) :
    lastWrite? (files ++ more) path = (lastWrite? more path).or (lastWrite? files path) := by
  unfold lastWrite?
  rw [List.reverse_append, List.find?_append, Option.map_or]

theorem get?_writeFile {snapshot written : Snapshot} {file : String × Option Content}
    (h : writeFile snapshot file = .ok written) (path : String) :
    written.get? path = (lastWrite? [file] path).getD (snapshot.get? path) := by
  rcases except_bind_eq_ok.mp h with ⟨normal, hnormal, hwrite⟩
  have hlast : lastWrite? [file] path = if normal = path then some file.2 else none := by
    unfold lastWrite?
    rw [List.reverse_singleton, List.find?_singleton, hnormal]
    by_cases heq : normal = path <;> simp [Except.toOption, heq]
  rw [hlast]
  cases hcontent : file.2 with
  | some content =>
      rw [hcontent] at hwrite
      cases hwrite
      rw [Table.get?_insert]
      split <;> rfl
  | none =>
      rw [hcontent] at hwrite
      cases hwrite
      rw [Table.get?_erase]
      split <;> rfl

theorem get?_foldlM_writeFile {files : List (String × Option Content)}
    {snapshot written : Snapshot} (h : files.foldlM writeFile snapshot = .ok written)
    (path : String) : written.get? path = (lastWrite? files path).getD (snapshot.get? path) := by
  induction files generalizing snapshot with
  | nil =>
      cases h
      rfl
  | cons file rest ih =>
      rw [List.foldlM_cons] at h
      rcases except_bind_eq_ok.mp h with ⟨first, hfirst, hrest⟩
      have hsplit : lastWrite? (file :: rest) path =
          (lastWrite? rest path).or (lastWrite? [file] path) := lastWrite?_append [file] rest path
      rw [ih hrest, get?_writeFile hfirst, hsplit]
      cases lastWrite? rest path <;> rfl

theorem foldlM_writeFile_ok_iff {files : List (String × Option Content)} {snapshot : Snapshot} :
    (∃ written, files.foldlM writeFile snapshot = .ok written) ↔
      (files.all fun file => (Path.normalize file.1).toOption.isSome) = true := by
  induction files generalizing snapshot with
  | nil => exact iff_of_true ⟨snapshot, rfl⟩ rfl
  | cons file rest ih =>
      rw [List.foldlM_cons, List.all_cons, Bool.and_eq_true]
      cases hnormal : Path.normalize file.1 with
      | error defect =>
          have hfails : writeFile snapshot file = .error defect := by
            unfold writeFile
            rw [hnormal]
            rfl
          rw [hfails]
          refine iff_of_false ?_ fun h => Bool.false_ne_true h.1
          intro h
          rcases h with ⟨_, hwritten⟩
          cases hwritten
      | ok normal =>
          have hwrites : ∃ first, writeFile snapshot file = .ok first := by
            unfold writeFile
            rw [hnormal]
            cases file.2 <;> exact ⟨_, rfl⟩
          rcases hwrites with ⟨first, hfirst⟩
          rw [hfirst]
          exact ih.trans (and_iff_right rfl).symm

/-!
# Histories that look alike
-/

structure LooksLike (history other : History) : Prop where
  snapshots : other.snapshots = history.snapshots
  commits : other.commits = history.commits
  revisions : ∀ project branch, other.revisions project branch = history.revisions project branch

theorem LooksLike.head? (h : history.LooksLike other) (project branch : String) :
    other.head? project branch = history.head? project branch := by
  unfold History.head?
  rw [h.revisions]

theorem LooksLike.snapshotAt? (h : history.LooksLike other) (project revision : String) :
    other.snapshotAt? project revision = history.snapshotAt? project revision := by
  unfold History.snapshotAt?
  rw [h.snapshots]

theorem LooksLike.headSnapshot (h : history.LooksLike other) (project branch : String) :
    other.headSnapshot project branch = history.headSnapshot project branch := by
  unfold History.headSnapshot
  rw [h.head?]
  congr 2
  funext revision
  exact h.snapshotAt? project revision

theorem LooksLike.tree (h : history.LooksLike other) : other.tree = history.tree := by
  unfold History.tree History.containsRevision
  congr 1
  · funext project branch
    rw [h.head?]
  · funext project branch revision
    rw [h.revisions]
  · funext project revision path
    exact contentOf_congr (h.snapshotAt? project revision) path
  · funext project revision
    exact listFiles_congr (h.snapshotAt? project revision)

theorem enter_looksLike (history : History) (project branch : String) :
    history.LooksLike (history.enter project branch) := by
  unfold enter
  split
  · exact ⟨rfl, rfl, fun _ _ => rfl⟩
  · rename_i hnew
    refine ⟨rfl, rfl, fun project' branch' => ?_⟩
    unfold revisions
    rw [Table.getD_insert]
    split
    · rename_i heq
      unfold Table.contains at hnew
      rw [Bool.not_eq_true, Option.isSome_eq_false_iff, Option.isNone_iff_eq_none] at hnew
      unfold Table.getD
      rw [← heq, hnew]
      rfl
    · rfl

theorem LooksLike.enter (h : history.LooksLike other) (project branch : String) :
    (history.enter project branch).LooksLike (other.enter project branch) := by
  have hhistory := history.enter_looksLike project branch
  have hother := other.enter_looksLike project branch
  constructor
  · rw [hother.snapshots, h.snapshots, hhistory.snapshots]
  · rw [hother.commits, h.commits, hhistory.commits]
  · intro project' branch'
    rw [hother.revisions, h.revisions, hhistory.revisions]

/-!
# Trying a commit
-/

def nextRevision (digest : String → String) (history : History) (commit : Commit) : String :=
  digest (revisionText commit.project commit.branch (history.commits + 1))

/-- A commit that has succeeded: its branch has a new head, whose files are those of the old one
under what the commit has written.  All other snapshots are as before. -/
structure Adds (digest : String → String) (history : History) (commit : Commit) (next : History) :
    Prop where
  commits : next.commits = history.commits + 1
  revisions : ∀ project branch, next.revisions project branch =
    if (commit.project, commit.branch) = (project, branch) then
      history.revisions commit.project commit.branch ++ [nextRevision digest history commit]
    else history.revisions project branch
  snapshot : ∃ snapshot,
    next.snapshotAt? commit.project (nextRevision digest history commit) = some snapshot ∧
      ∀ path, snapshot.get? path = (lastWrite? commit.files.entries path).getD
        ((history.headSnapshot commit.project commit.branch).get? path)
  others : ∀ project revision,
    (project, revision) ≠ (commit.project, nextRevision digest history commit) →
      next.snapshotAt? project revision = history.snapshotAt? project revision

theorem adds_of_commitWith
    (h : commitWith digest history commit.project commit.branch commit.files =
      .ok (revision, next)) :
    revision = nextRevision digest history commit ∧ Adds digest history commit next := by
  rcases except_bind_eq_ok.mp h with ⟨snapshot, hfiles, hmade⟩
  cases hmade
  refine ⟨rfl, rfl, revisions_of_commit h, ⟨snapshot, ?_, get?_foldlM_writeFile hfiles⟩,
    (snapshotAt?_of_commit h).2⟩
  unfold snapshotAt?
  rw [Table.get?_insert]
  exact if_pos rfl

theorem Adds.snapshotAt?_of_fresh (h : Adds digest history commit next)
    (hfresh : ∀ project, history.snapshotAt? project (nextRevision digest history commit) = none)
    {snapshot : Snapshot} (hold : history.snapshotAt? project revision = some snapshot) :
    next.snapshotAt? project revision = some snapshot := by
  rw [h.others, hold]
  intro heq
  injection heq with _ hrevision
  rw [hrevision, hfresh] at hold
  cases hold

theorem Adds.head? (h : Adds digest history commit next) (project branch : String) :
    next.head? project branch =
      if (commit.project, commit.branch) = (project, branch) then
        some (nextRevision digest history commit)
      else history.head? project branch := by
  unfold History.head?
  rw [h.revisions]
  split
  · exact List.getLast?_concat
  · rfl

theorem headSnapshot_of_head? {snapshot : Snapshot}
    (hhead : history.head? project branch = some revision)
    (hsnapshot : history.snapshotAt? project revision = some snapshot) :
    history.headSnapshot project branch = snapshot := by
  unfold headSnapshot
  rw [hhead, Option.bind_some, hsnapshot]
  rfl

theorem LooksLike.nextRevision (h : history.LooksLike other) (digest : String → String)
    (commit : Commit) : nextRevision digest other commit = nextRevision digest history commit := by
  unfold History.nextRevision
  rw [h.commits]

theorem LooksLike.adds (hsame : history.LooksLike other) (h : Adds digest other commit next) :
    Adds digest history commit next where
  commits := by rw [h.commits, hsame.commits]
  revisions project branch := by
    rw [h.revisions, hsame.revisions, hsame.revisions, hsame.nextRevision]
  snapshot := by
    rw [← hsame.nextRevision, ← hsame.headSnapshot]
    exact h.snapshot
  others project revision hne := by
    rw [← hsame.nextRevision] at hne
    rw [h.others project revision hne, hsame.snapshotAt?]

theorem attemptWith_of_isSound (digest : String → String) (history : History)
    (h : commit.isSound = true) :
    (attemptWith digest history commit).1 = .ok (nextRevision digest history commit) ∧
      Adds digest history commit (attemptWith digest history commit).2 := by
  have hentered := history.enter_looksLike commit.project commit.branch
  rcases foldlM_writeFile_ok_iff.mpr h with ⟨snapshot, hfiles⟩
  unfold attemptWith
  dsimp only
  cases hmade : commitWith digest (history.enter commit.project commit.branch) commit.project
      commit.branch commit.files with
  | error defect =>
      unfold commitWith at hmade
      rw [hfiles] at hmade
      cases hmade
  | ok made =>
      rcases made with ⟨revision, next⟩
      rcases adds_of_commitWith hmade with ⟨rfl, hadds⟩
      exact ⟨congrArg Except.ok (hentered.nextRevision digest commit), hentered.adds hadds⟩

theorem attemptWith_of_not_isSound (digest : String → String) (history : History)
    (h : commit.isSound = false) :
    (∃ error, (attemptWith digest history commit).1 = .error error) ∧
      history.LooksLike (attemptWith digest history commit).2 := by
  have hentered := history.enter_looksLike commit.project commit.branch
  unfold attemptWith
  dsimp only
  cases hmade : commitWith digest (history.enter commit.project commit.branch) commit.project
      commit.branch commit.files with
  | error defect => exact ⟨⟨defect, rfl⟩, hentered⟩
  | ok made =>
      rcases except_bind_eq_ok.mp hmade with ⟨snapshot, hfiles, _⟩
      have hsound : commit.isSound = true := foldlM_writeFile_ok_iff.mp ⟨snapshot, hfiles⟩
      rw [h] at hsound
      cases hsound

/-- A commit either adds a revision, or fails and leaves no trace. -/
theorem attemptWith_cases (digest : String → String) (history : History) (commit : Commit) :
    (commit.isSound = true ∧
      (attemptWith digest history commit).1 = .ok (nextRevision digest history commit) ∧
      Adds digest history commit (attemptWith digest history commit).2) ∨
    (commit.isSound = false ∧ (∃ error, (attemptWith digest history commit).1 = .error error) ∧
      history.LooksLike (attemptWith digest history commit).2) := by
  cases hsound : commit.isSound with
  | true => exact .inl ⟨rfl, attemptWith_of_isSound digest history hsound⟩
  | false => exact .inr ⟨rfl, attemptWith_of_not_isSound digest history hsound⟩

theorem LooksLike.attemptWith (h : history.LooksLike other) (digest : String → String)
    (commit : Commit) :
    (History.attemptWith digest other commit).1 = (History.attemptWith digest history commit).1 ∧
      (History.attemptWith digest history commit).2.LooksLike
        (History.attemptWith digest other commit).2 := by
  have hentered := h.enter commit.project commit.branch
  unfold History.attemptWith commitWith
  dsimp only
  rw [hentered.headSnapshot, hentered.commits, hentered.snapshots]
  cases commit.files.entries.foldlM writeFile
      ((history.enter commit.project commit.branch).headSnapshot commit.project commit.branch) with
  | error defect => exact ⟨rfl, hentered⟩
  | ok snapshot =>
      refine ⟨rfl, rfl, rfl, fun project branch => ?_⟩
      show (Table.insert _ _ _).getD (project, branch) [] =
        (Table.insert _ _ _).getD (project, branch) []
      rw [Table.getD_insert, Table.getD_insert, hentered.revisions]
      split
      · rfl
      · exact hentered.revisions project branch

end History
end Ownership
