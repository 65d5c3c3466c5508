import Ownership.LineFormat.Line
import Ownership.Table
import Ownership.Text.DecimalDigit
import Ownership.Text.Order

/-!
# Reading the line format

Reading never fails: a line that says nothing sensible is skipped and noted.  The statements are
gathered into tables, so repeated statements about the same files or the same owner come together,
and the configuration is then written out in one canonical order.
-/

namespace Ownership

/-!
# Skipped lines
-/

inductive SkipReason
  | importWithColons (target : String)
  | importPath (error : PathError)
  | noGlobs
  | invalidGlob (glob : String)
  | invalidEmail (email : String)
  | unrecognized
deriving DecidableEq, Repr

def SkipReason.message : SkipReason → String
  | .importWithColons target =>
      "invalid import (too many ':' separators in " ++ Text.quoted target ++ ")"
  | .importPath error => "invalid import (" ++ error.message ++ ")"
  | .noGlobs => "per-file without path expressions"
  | .invalidGlob glob => "invalid path expression " ++ Text.quoted glob
  | .invalidEmail email => "invalid email " ++ Text.quoted email
  | .unrecognized => "unrecognized line"

structure Skipped where
  line : Nat
  reason : SkipReason
  text : String
deriving DecidableEq, Repr

def Skipped.message (skipped : Skipped) : String :=
  "line " ++ Text.integerText skipped.line ++ ": " ++ skipped.reason.message ++ ": " ++
    Text.quoted skipped.text

namespace LineFormat

/-!
# Owners gathered by email
-/

abbrev Owners := Table String (List Remark)

/-- Appends the remarks that are not there yet. -/
def mergeRemarks (present added : List Remark) : List Remark :=
  added.foldl (fun merged a => if a ∈ merged then merged else merged ++ [a]) present

def addOwner (owners : Owners) (email : String) (remarks : List Remark) : Owners :=
  owners.insert email (mergeRemarks (owners.getD email []) remarks)

def sortedOwners (owners : Owners) : List OwnerRef :=
  (owners.entries.mergeSort fun a b => decide (a.1 ≤ b.1)).map fun (email, remarks) =>
    { email, remarks }

structure Block where
  owners : Owners := {}
  overrides : Bool := false
deriving DecidableEq, Repr

abbrev Blocks := Table (List String) Block

def sortedBlocks (blocks : Blocks) : List (List String × Block) :=
  blocks.entries.mergeSort fun a b => decide (a.1 ≤ b.1)

/-!
# Imports

The target of an import is a path with a project, or a project and a branch, in front of it.  A
path that is not absolute lies below the folder of the configuration.
-/

def readTarget (folder : String) (scope : ImportScope) (target : List Char) :
    Except SkipReason Import :=
  let resolve (project branch : Option String) (path : List Char) : Except SkipReason Import :=
    let result := do
      let path := String.ofList path
      let absolute ← if path.toList.head? = some '/' then pure path else Path.join folder path
      Import.create project branch absolute scope
    result.mapError .importPath
  let name? (s : List Char) := Text.nonempty? (some (String.ofList s))
  match Text.splitOn ':' target with
  | [path] => resolve none none path
  | [project, path] => resolve (name? project) none path
  | [project, branch, path] => resolve (name? project) (name? branch) path
  | _ => .error (.importWithColons (String.ofList target))

def renderImport (imp : Import) : String :=
  let keyword := match imp.scope with
    | .everything => "include "
    | .globalOnly => "file: "
  let place := match Text.nonempty? imp.project, Text.nonempty? imp.branch with
    | none, _ => ""
    | some project, none => project ++ ":"
    | some project, some branch => project ++ ":" ++ branch ++ ":"
  keyword ++ place ++ imp.path

def sortedImports (imports : List Import) : List Import :=
  imports.mergeSort fun a b => decide (renderImport a ≤ renderImport b)

/-!
# Gathering the statements
-/

structure Gathered where
  ignoresParents : Bool := false
  imports : List Import := []
  owners : Owners := {}
  blocks : Blocks := {}
  skipped : List Skipped := []
deriving DecidableEq, Repr

namespace Gathered

def skip (gathered : Gathered) (line : Nat) (text : String) (reason : SkipReason) : Gathered :=
  { gathered with skipped := gathered.skipped ++ [{ line, reason, text }] }

/-- Adds the owners of a statement to a block; invalid emails are skipped one by one. -/
def addBlockOwners (gathered : Gathered) (line : Nat) (text : String) (globs : List String)
    (remarks : List Remark) (emails : List String) : Gathered :=
  emails.foldl
    (fun gathered email =>
      if isOwner email then
        let block := gathered.blocks.getD globs {}
        { gathered with
          blocks := gathered.blocks.insert globs
            { block with owners := addOwner block.owners email remarks } }
      else gathered.skip line text (.invalidEmail email))
    gathered

def addPerFile (gathered : Gathered) (line : Nat) (text : String) (remarks : List Remark)
    (globs owners : List Char) : Gathered :=
  let globs := Text.sortedDistinct ((commaPieces globs).filter fun glob => !glob.isEmpty)
  if globs.isEmpty then gathered.skip line text .noGlobs
  else
    match globs.find? fun glob => !Glob.isValid glob with
    | some glob => gathered.skip line text (.invalidGlob glob)
    | none =>
        let block := gathered.blocks.getD globs {}
        if owners = noParentWords.toList then
          { gathered with blocks := gathered.blocks.insert globs { block with overrides := true } }
        else
          addBlockOwners { gathered with blocks := gathered.blocks.insert globs block } line text
            globs remarks (commaPieces owners)

def addLine (folder : String) (gathered : Gathered) (numbered : List Char × Nat) : Gathered :=
  let (raw, line) := numbered
  let text := String.ofList raw
  let (content, remarks) := content raw
  match readStatement content with
  | .nothing => gathered
  | .noParent => { gathered with ignoresParents := true }
  | .importing scope target =>
      match readTarget folder scope target with
      | .error reason => gathered.skip line text reason
      | .ok imp =>
          if imp ∈ gathered.imports then gathered
          else { gathered with imports := gathered.imports ++ [imp] }
  | .perFile globs owners => gathered.addPerFile line text remarks globs owners
  | .owner email =>
      { gathered with owners := addOwner gathered.owners (String.ofList email) remarks }
  | .unrecognized => gathered.skip line text .unrecognized

/-- The sets in canonical order: the owners of all files, then the blocks that say something. -/
def sets (gathered : Gathered) : List OwnerSet :=
  let forAll := if gathered.owners.entries.isEmpty then []
    else [{ owners := sortedOwners gathered.owners }]
  let telling := (sortedBlocks gathered.blocks).filter fun (_, block) =>
    !block.owners.entries.isEmpty || block.overrides
  forAll ++ telling.map fun (globs, block) =>
    { globs, owners := sortedOwners block.owners, overrides := block.overrides }

def toConfig (gathered : Gathered) (key : ConfigKey) : OwnerConfig where
  key := key
  ignoresParents := gathered.ignoresParents
  sets := gathered.sets
  imports := sortedImports gathered.imports

end Gathered

def gather (folder : String) (text : List Char) : Gathered :=
  ((Text.splitLines text).zipIdx 1).foldl (Gathered.addLine folder) {}

def read (key : ConfigKey) (text : String) : OwnerConfig × List Skipped :=
  let gathered := gather key.folder text.toList
  (gathered.toConfig key, gathered.skipped)

end LineFormat
end Ownership
