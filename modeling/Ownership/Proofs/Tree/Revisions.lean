import Ownership.Proofs.Path.Folders
import Ownership.Proofs.Tables
import Ownership.Site
import Ownership.Tree.History

/-!
# Revisions of a history

A history grows by commits.  Every revision that a branch lists has a snapshot, and a commit leaves
the snapshots of all other revisions and the heads of all other branches as they are.
-/

namespace Ownership
namespace History

variable {digest : String → String} {history next later : History}
  {project branch revision : String} {files : Table String (Option Content)}

def site (history : History) (configs : ProjectConfigs) : Site where
  tree := history.tree
  configs := configs

/-!
# What a commit does
-/

theorem commitWith_eq_ok
    (h : commitWith digest history project branch files = .ok (revision, next)) :
    ∃ snapshot, next = {
      snapshots := history.snapshots.insert (project, revision) snapshot
      branches := history.branches.insert (project, branch)
        (history.revisions project branch ++ [revision])
      commits := history.commits + 1 } := by
  unfold commitWith at h
  cases hfiles : files.entries.foldlM writeFile (history.headSnapshot project branch) with
  | error defect =>
      rw [hfiles] at h
      cases h
  | ok snapshot =>
      rw [hfiles] at h
      cases h
      exact ⟨snapshot, rfl⟩

theorem snapshotAt?_of_commit
    (h : commitWith digest history project branch files = .ok (revision, next)) :
    (∃ snapshot, next.snapshotAt? project revision = some snapshot) ∧
      ∀ project' revision', (project', revision') ≠ (project, revision) →
        next.snapshotAt? project' revision' = history.snapshotAt? project' revision' := by
  rcases commitWith_eq_ok h with ⟨snapshot, rfl⟩
  unfold snapshotAt?
  dsimp only
  refine ⟨⟨snapshot, ?_⟩, fun project' revision' hne => ?_⟩
  · rw [Table.get?_insert, if_pos rfl]
  · rw [Table.get?_insert, if_neg (Ne.symm hne)]

theorem revisions_of_commit
    (h : commitWith digest history project branch files = .ok (revision, next))
    (project' branch' : String) :
    next.revisions project' branch' =
      if (project, branch) = (project', branch') then
        history.revisions project branch ++ [revision]
      else history.revisions project' branch' := by
  rcases commitWith_eq_ok h with ⟨snapshot, rfl⟩
  unfold revisions
  dsimp only
  rw [Table.getD_insert]

/-!
# Histories made by commits
-/

inductive Made (digest : String → String) : History → Prop
  | start : Made digest {}
  | commit {history next : History} {project branch revision : String}
      {files : Table String (Option Content)} : Made digest history →
      commitWith digest history project branch files = .ok (revision, next) → Made digest next

theorem Made.snapshot_of_mem (h : Made digest history)
    (hmem : revision ∈ history.revisions project branch) :
    ∃ snapshot, history.snapshotAt? project revision = some snapshot := by
  induction h generalizing project branch revision with
  | start => cases hmem
  | commit hbefore hcommit ih =>
      rename_i owner _ committed _
      rw [revisions_of_commit hcommit] at hmem
      by_cases hsame : (project, revision) = (owner, committed)
      · injection hsame with hproject hrevision
        rw [hproject, hrevision]
        exact (snapshotAt?_of_commit hcommit).1
      · rw [(snapshotAt?_of_commit hcommit).2 _ _ hsame]
        split at hmem
        · rename_i hbranch
          injection hbranch with hproject _
          rcases List.mem_append.mp hmem with hold | hnew
          · rw [← hproject]
            exact ih hold
          · exact absurd (Prod.ext hproject.symm (List.mem_singleton.mp hnew)) hsame
        · exact ih hmem

theorem Made.snapshot_of_head (h : Made digest history)
    (hhead : history.head? project branch = some revision) :
    ∃ snapshot, history.snapshotAt? project revision = some snapshot :=
  h.snapshot_of_mem (List.mem_of_getLast? hhead)

/-!
# Commits to one branch
-/

/-- Commits to one branch lead from a history to a later one.  No commit gets the name of a revision
that the project has already. -/
inductive CommitsTo (digest : String → String) (project branch : String) :
    History → History → Prop
  | none {history : History} : CommitsTo digest project branch history history
  | commit {history later next : History} {revision : String}
      {files : Table String (Option Content)} : CommitsTo digest project branch history later →
      commitWith digest later project branch files = .ok (revision, next) →
      later.snapshotAt? project revision = .none → CommitsTo digest project branch history next

theorem CommitsTo.snapshotAt? (h : CommitsTo digest project branch history later)
    {project' revision' : String} {snapshot : Snapshot}
    (hold : history.snapshotAt? project' revision' = some snapshot) :
    later.snapshotAt? project' revision' = some snapshot := by
  induction h with
  | none => exact hold
  | commit _ hcommit hnew ih =>
      rw [(snapshotAt?_of_commit hcommit).2, ih]
      intro heq
      cases heq
      rw [ih] at hnew
      cases hnew

theorem CommitsTo.head? (h : CommitsTo digest project branch history later)
    {project' branch' : String} (hother : (project', branch') ≠ (project, branch)) :
    later.head? project' branch' = history.head? project' branch' := by
  induction h with
  | none => rfl
  | commit _ hcommit _ ih =>
      unfold History.head?
      rw [revisions_of_commit hcommit, if_neg (Ne.symm hother)]
      exact ih

/-!
# Reading at a revision
-/

theorem snapshot_eq_ok {snapshot : Snapshot} :
    history.snapshot project revision = .ok snapshot ↔
      history.snapshotAt? project revision = some snapshot := by
  unfold History.snapshot
  cases history.snapshotAt? project revision with
  | none => exact iff_of_false nofun nofun
  | some found => rw [Except.ok.injEq, Option.some.injEq]

theorem contentOf_congr {project' revision' : String}
    (h : later.snapshotAt? project' revision' = history.snapshotAt? project' revision')
    (path : String) :
    later.contentOf project' revision' path = history.contentOf project' revision' path := by
  unfold contentOf History.snapshot
  rw [h]

theorem listFiles_congr {project' revision' : String}
    (h : later.snapshotAt? project' revision' = history.snapshotAt? project' revision') :
    later.listFiles project' revision' = history.listFiles project' revision' := by
  unfold listFiles History.snapshot
  rw [h]

/-- A history fails to show a file for want of the revision, or because the path has no normal
form. -/
theorem failure_of_contentOf {path : String} {failure : Failure}
    (h : history.contentOf project revision path = .error failure) :
    (∃ error, failure = .tree error) ∨ ∃ error, failure = .path error := by
  unfold contentOf History.snapshot at h
  cases hsnapshot : history.snapshotAt? project revision with
  | none =>
      rw [hsnapshot] at h
      cases h
      exact .inl ⟨_, rfl⟩
  | some snapshot =>
      rw [hsnapshot] at h
      cases hnormal : Path.normalize path with
      | error defect =>
          rw [hnormal] at h
          cases h
          exact .inr ⟨defect, rfl⟩
      | ok normal =>
          rw [hnormal] at h
          cases h

theorem contentOf_of_isSolidPath {snapshot : Snapshot} {path : String}
    (hsnapshot : history.snapshotAt? project revision = some snapshot)
    (hpath : Path.IsSolidPath path) :
    history.contentOf project revision path = .ok (snapshot.get? path) := by
  rcases hpath with ⟨parts, rfl, hparts⟩
  unfold contentOf History.snapshot
  rw [hsnapshot, Path.normalize_ofParts hparts]
  rfl

end History
end Ownership
