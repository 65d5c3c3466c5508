import Ownership.Approval.Owned

/-!
# Notices to reviewers

When reviewers are added to a change, a message is posted that lists for each of them the touched
files that they own.  Posting is tried again after a passing failure, as often as the settings
allow.  Whatever goes wrong is logged and never reaches whoever added the reviewers.
-/

namespace Ownership
namespace Notice

def tag : String := "autogenerated:code-owners:addReviewer"

/-!
# The message
-/

/-- The paths that a reviewer owns, one more than the limit if there are that many.  A failure that
is to be expected costs the reviewer their part of the message. -/
def ownedForNotice (engine : Engine) (change : Change) (reviewer limit : Int) :
    Walk (List String) := fun session =>
  match engine.ownedPaths change reviewer 0 (some (limit + 1)) session with
  | (.error failure, session) =>
      if failure.isExpected then (.ok [], session) else (.error failure, session)
  | finished => finished

def fileLine (path : String) : Except PathError String := do
  return "* " ++ (← Path.treePath path) ++ "\n"

/-- The part of a message for one reviewer; none for a reviewer who owns nothing. -/
def reviewerPart (engine : Engine) (accounts : Directory) (change : Change)
    (limit reviewer : Int) : Walk (Option String) := do
  let owned ← ownedForNotice engine change reviewer limit
  if owned.isEmpty then return none
  else
    let name := accounts.label reviewer
    let lines ← liftExcept
      (((Text.slice 0 (some limit) owned).mapM fileLine).mapError Failure.path)
    let rest := if limit < owned.length then "(more files)\n" else ""
    return some (name ++ ", who was added as reviewer owns the following files:\n" ++
      String.join lines ++ rest)

def message (engine : Engine) (change : Change) (reviewers : List Int) (limit : Int)
    (accounts : Directory := engine.directory) : Walk String := do
  let parts ← reviewers.mapM (reviewerPart engine accounts change limit)
  return "\n".intercalate (parts.filterMap id)

/-!
# Posting
-/

inductive PostOutcome
  | delivered
  /-- The message may get through later. -/
  | passingFailure
  | finalFailure
deriving DecidableEq, Repr

/-- The dealings with the poster: the messages that it was called with, and those of them that it has
stored. -/
structure Posting where
  sent : List String := []
  stored : List String := []
deriving DecidableEq, Repr

namespace Posting

def calls (posting : Posting) : Nat := posting.sent.length

def delivered (posting : Posting) : Bool := !posting.stored.isEmpty

end Posting

inductive Trouble
  | unbuilt (failure : Failure)
  | passing
  | final
deriving DecidableEq, Repr

def PostOutcome.result : PostOutcome → Except Trouble Unit
  | .delivered => .ok ()
  | .passingFailure => .error .passing
  | .finalFailure => .error .final

def Posting.after (posting : Posting) (text : String) : PostOutcome → Posting
  | .delivered => { sent := posting.sent ++ [text], stored := posting.stored ++ [text] }
  | _ => { posting with sent := posting.sent ++ [text] }

abbrev Delivery := ExceptT Trouble (StateM Posting)

/-- Calls the poster once; `outcome n` is what comes of call number `n`. -/
def callPoster (outcome : Nat → PostOutcome) (text : String) : Delivery Unit := do
  let posting ← get
  let ending := outcome posting.calls
  set (posting.after text ending)
  liftExcept ending.result

/-- Stands for the retry package, whose behaviour is assumed, not modelled: the action is tried again
after a passing failure, `more` times at most, any other failure ends the trying at once, and the last
failure stands. -/
def retrying (action : Delivery Unit) : Nat → Delivery Unit
  | 0 => action
  | more + 1 => tryCatch action fun trouble =>
      match trouble with
      | .passing => retrying action more
      | _ => throw trouble

/-- Posts a message that was built, unless it is empty.  Posting is tried at least once. -/
def deliver (outcome : Nat → PostOutcome) (attempts : Int) (built : Except Failure String) :
    Delivery Unit := do
  let text ← liftExcept (built.mapError Trouble.unbuilt)
  if text.isEmpty then return ()
  else retrying (callPoster outcome text) (attempts.toNat - 1)

/-!
# Adding reviewers
-/

structure Outcome where
  /-- The work was handed to an executor. -/
  scheduled : Bool := false
  posting : Posting := {}
  /-- What was logged about a failure. -/
  logged : Option String := none
  /-- What got through to whoever added the reviewers. -/
  raised : Option Trouble := none
deriving DecidableEq, Repr

def Outcome.posted (outcome : Outcome) : Option String := outcome.posting.sent.head?

def failureNote (change : Change) : String :=
  "failed to post code-owners change message for reviewer on change " ++
    Text.integerText change.number ++ " in project " ++ change.project

/-- Whatever goes wrong is turned into a note for the log. -/
def noted (note : String) (action : Delivery Unit) : Delivery (Option String) :=
  tryCatch (do action; return none) fun _ => return some note

def onReviewersAdded (engine : Engine) (change : Change) (reviewers : List Int)
    (outcome : Nat → PostOutcome) (attempts : Int) (hasExecutor : Bool) (session : Session)
    (accounts : Directory := engine.directory) (configs : ProjectConfigs := engine.site.configs) :
    Outcome × Session :=
  let config := configs.get change.project
  let limit := config.maxPathsInMessages
  if config.isDisabled change.branch || limit ≤ 0 then ({}, session)
  else
    let scheduled := config.asyncMessages && hasExecutor
    let (built, session) := message engine change reviewers limit accounts session
    match (noted (failureNote change) (deliver outcome attempts built)).run {} with
    | (.ok logged, posting) => ({ scheduled, posting, logged }, session)
    | (.error trouble, posting) => ({ scheduled, posting, raised := some trouble }, session)

end Notice
end Ownership
