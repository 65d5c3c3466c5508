import Ownership.Failure

/-!
# Trees

A tree holds the files of projects at revisions.  Branches have a head revision.  This is what
the rest of the library asks a tree for; where its files come from is left open.
-/

namespace Ownership

abbrev Content := List UInt8

structure Tree where
  /-- The head of a branch of a project, if there is such a branch. -/
  branchHead : String → String → Except Failure (Option String)
  /-- Whether a revision belongs to a branch of a project. -/
  containsRevision : String → String → String → Except Failure Bool
  /-- The content of a path in a project at a revision, if there is a file. -/
  contentOf : String → String → String → Except Failure (Option Content)
  /-- The paths of all files of a project at a revision. -/
  listFiles : String → String → Except Failure (List String)

end Ownership
