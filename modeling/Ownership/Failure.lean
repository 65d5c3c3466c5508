import Ownership.Console.Markup
import Ownership.Document.Check
import Ownership.Format.Registry
import Ownership.LogLevel
import Ownership.Project
import Ownership.Tree.HostFiles

/-!
# Failures

Everything that can go wrong, by cause, with the words in which it is told.
-/

namespace Ownership

/-!
# Broken configurations

A configuration file that cannot be read, and where it is as far as that is known.
-/

structure BrokenConfig where
  message : String
  project : Option String := none
  branch : Option String := none
  filePath : Option String := none
deriving DecidableEq, Repr

namespace BrokenConfig

def place (error : BrokenConfig) : String :=
  ":".intercalate <| [error.project, error.branch, error.filePath].filterMap Text.nonempty?

def describe (error : BrokenConfig) : String :=
  if error.place.isEmpty then error.message
  else "invalid code owner config file " ++ error.place ++ ": " ++ error.message

end BrokenConfig

/-!
# Trees and revisions
-/

inductive TreeError
  | unknownRevision (project revision : String)
  | unreadableFile (path reason : String)
  | noCheckout (root : String)
  | noRepository (project : String)
  | gitNotStarted (reason : String)
  | gitFailed (args : List String) (reason : String)
  | unknownBranch (project branch : String)
  | noRevision (project branch : String)
deriving DecidableEq, Repr

def TreeError.message : TreeError → String
  | .unknownRevision project revision =>
      "unknown revision " ++ revision ++ " in project " ++ project
  | .unreadableFile path reason => "failed to read " ++ path ++ ": " ++ reason
  | .noCheckout root => "checkout not found: " ++ root
  | .noRepository project => "no repository configured for project " ++ project
  | .gitNotStarted reason => "failed to run git: " ++ reason
  | .gitFailed args reason => "git " ++ " ".intercalate args ++ " failed: " ++ reason
  | .unknownBranch project branch => "branch " ++ branch ++ " not found in project " ++ project
  | .noRevision project branch =>
      "no revision of branch " ++ branch ++ " in project " ++ project ++ " to read configs from"

inductive RevisionError
  | malformed
  | unknown
  | unknownBranch (branch : String)
deriving DecidableEq, Repr

def RevisionError.message : RevisionError → String
  | .malformed => "invalid revision"
  | .unknown => "unknown revision"
  | .unknownBranch branch => "unknown branch " ++ branch

def projectComplaint (project reason : String) : String :=
  "invalid code-owners configuration for project " ++ project ++ ": " ++ reason

/-!
# All failures
-/

inductive Failure
  | path (error : PathError)
  | brokenConfig (error : BrokenConfig)
  | inexpressible (reason : Inexpressible)
  | projectConfig (project : String) (error : ApprovalError)
  | revision (error : RevisionError)
  | notCurrentRevision (change : Int) (current : String)
  | tree (error : TreeError)
  | registry (error : RegistryError)
  | document (issues : List Document.Issue)
  | malformedJson
  | malformedText
  /-- A listing of changed files ends within an entry. -/
  | cutListing
  | host (error : HostError) (place : String)
  | markup (error : Markup.Error)
  /-- A level of logging that is none. -/
  | logLevel
deriving DecidableEq, Repr

def Failure.message : Failure → String
  | .path error => error.message
  | .brokenConfig error => error.message
  | .inexpressible reason => reason.message
  | .projectConfig project error => projectComplaint project error.message
  | .revision error => error.message
  | .notCurrentRevision change current =>
      "code owner statuses are only available for the current revision " ++ current ++
        " of change " ++ Text.integerText change
  | .tree error => error.message
  | .registry error => error.message
  | .document _ => "the document does not have the expected form"
  | .malformedJson => "the text is not JSON"
  | .malformedText => "the bytes are not UTF-8"
  | .cutListing => "list index out of range"
  | .host error place => error.message place
  | .markup error => error.message
  | .logLevel => LogLevel.refusal

/-- Failures that the library knows as its own and that are told to users as they are.  All others
are signs of something else gone wrong. -/
def Failure.isExpected : Failure → Bool
  | .path _ => true
  | .brokenConfig _ => true
  | .inexpressible _ => true
  | .projectConfig _ _ => true
  | .revision _ => true
  | .notCurrentRevision _ _ => true
  | .tree _ => true
  | _ => false

/-- A broken rule on one field of a record that the program builds itself. -/
def Failure.field (name : String) (error : PathError) : Failure :=
  .document [{ place := [name], fault := .rule error.message }]

end Ownership
