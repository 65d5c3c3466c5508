import Ownership.Failure

/-!
# Incidents and their causes

A failure may have been caused by another one, or have come up while another one was handled, and
so on.  The links may run in circles.  What is reported to a caller is found along this chain: the
first failure in it that the caller can mend.
-/

namespace Ownership

inductive FailureKind
  | brokenConfig
  | projectConfig
  | path
  | revision
  | unsupportedRevision
  | inexpressible
  | tree
  /-- A value that is not accepted, of no kind of its own. -/
  | value
  | other
deriving DecidableEq, Repr

namespace FailureKind

/-- Failures that lie in the state of a project. -/
def isConflict (kind : FailureKind) : Bool :=
  kind = .brokenConfig || kind = .projectConfig || kind = .path

/-- Failures that lie in the request itself. -/
def isBadRequest (kind : FailureKind) : Bool :=
  kind = .revision || kind = .unsupportedRevision

def isCallers (kind : FailureKind) : Bool := kind.isConflict || kind.isBadRequest

def refusesValue (kind : FailureKind) : Bool :=
  kind = .inexpressible || kind = .path || kind = .revision || kind = .value

end FailureKind

def Failure.kind : Failure → FailureKind
  | .path _ => .path
  | .brokenConfig _ => .brokenConfig
  | .inexpressible _ => .inexpressible
  | .projectConfig _ _ => .projectConfig
  | .revision _ => .revision
  | .notCurrentRevision _ _ => .unsupportedRevision
  | .tree _ => .tree
  | .registry .emptyId => .value
  | .document _ => .value
  | .malformedJson => .value
  | .malformedText => .value
  | .host .badName _ => .value
  | .logLevel => .value
  | .registry (.unknown _) => .other
  | .cutListing => .other
  | .host _ _ => .other
  | .markup _ => .other

/-- One failure of a chain.  Its links are positions in the list of all incidents; a cause that is
named goes before the failure that was being handled. -/
structure Incident where
  kind : FailureKind
  text : String
  cause : Option Nat := none
  context : Option Nat := none
deriving DecidableEq, Repr

namespace Incident

def next? (incident : Incident) : Option Nat := incident.cause.or incident.context

/-!
# The chain

Every incident is visited once, so the walk ends on a circle too.
-/

def follow (incidents : List Incident) (unvisited : List Nat) (place : Nat) : List Incident :=
  if _h : place ∈ unvisited then
    match incidents[place]? with
    | none => []
    | some incident =>
        incident ::
          match incident.next? with
          | none => []
          | some next => follow incidents (unvisited.erase place) next
  else []
termination_by unvisited.length
decreasing_by
  have := List.length_erase_of_mem _h
  have := List.length_pos_of_mem _h
  omega

def chain (incidents : List Incident) (place : Nat) : List Incident :=
  follow incidents (List.range incidents.length) place

/-!
# Reports
-/

def isCallersError (chain : List Incident) : Bool :=
  chain.any fun incident => incident.kind.isCallers

def httpStatus? (chain : List Incident) : Option Nat :=
  if chain.any fun incident => incident.kind.isConflict then some 409
  else if chain.any fun incident => incident.kind.isBadRequest then some 400
  else none

/-- The messages for the caller.  For a broken configuration they point to the help page, if the
project has one. -/
def userMessages (helpUrl : Option String) (chain : List Incident) : List String :=
  match chain.find? fun incident => incident.kind.isCallers with
  | none => []
  | some incident =>
      match incident.kind, Text.nonempty? helpUrl with
      | .brokenConfig, some url => [incident.text, "For help check " ++ url]
      | _, _ => [incident.text]

end Incident

/-- The messages for a failure that stands alone: those for the caller, or else its own text. -/
def Failure.userMessages (helpUrl : Option String) (failure : Failure) : List String :=
  match Incident.userMessages helpUrl [{ kind := failure.kind, text := failure.message }] with
  | [] => [failure.message]
  | messages => messages

end Ownership
