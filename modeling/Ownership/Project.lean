import Ownership.Change
import Ownership.Table
import Ownership.Text.Blank
import Ownership.Text.DecimalDigit
import Ownership.Text.Quoted
import Ownership.Text.Split

/-!
# Project settings

Every project sets the approval that its files need, the format of its owner configurations and
some limits.  Projects without settings have the default ones.
-/

namespace Ownership

/-!
# Required approvals

An approval is written as a label, a plus sign and the least value that counts.
-/

structure RequiredApproval where
  label : String
  value : Nat
deriving DecidableEq, Repr

inductive ApprovalDefect
  | format
  | value
deriving DecidableEq, Repr

structure ApprovalError where
  text : String
  defect : ApprovalDefect
deriving DecidableEq, Repr

def ApprovalError.message (error : ApprovalError) : String :=
  "approval " ++ Text.quoted error.text ++
    match error.defect with
    | .format => " must have the format '<label>+<value>'"
    | .value => " must have a positive value"

namespace RequiredApproval

def isLabelChar (c : Char) : Bool := c.isAlphanum || c = '_' || c = '-'

def isLabel (s : List Char) : Bool :=
  s.all isLabelChar && s.head?.any Char.isAlphanum

def parse (text : String) : Except ApprovalError RequiredApproval :=
  match Text.cutAt? '+' (Text.trim text.toList) with
  | some (label, digits) =>
      if isLabel label && !digits.isEmpty && digits.all Text.isDecimalDigit then
        let value := Text.decimalValue digits
        if value = 0 then .error ⟨text, .value⟩
        else .ok { label := String.ofList label, value }
      else .error ⟨text, .format⟩
  | none => .error ⟨text, .format⟩

def isMetBy (required : RequiredApproval) (approval : Approval) : Bool :=
  approval.label = required.label && decide ((required.value : Int) ≤ approval.value)

def render (required : RequiredApproval) : String :=
  required.label ++ "+" ++ Text.integerText required.value

end RequiredApproval

/-!
# Settings
-/

structure ProjectConfig where
  requiredApproval : String := "Code-Review+1"
  overrideApproval : Option String := none
  disabled : Bool := false
  disabledBranches : List String := []
  backend : String := "find-owners"
  backendByBranch : Table String String := {}
  fileExtension : Option String := none
  globalOwners : List String := []
  maxPathsInMessages : Int := 100
  asyncMessages : Bool := true
  maxImportDepth : Nat := 5
  helpUrl : Option String := none
deriving DecidableEq, Repr

/-- The name of a branch without the name space of branches in front. -/
def shortBranch (branch : String) : String :=
  match Text.dropPrefix? "refs/heads/".toList branch.toList with
  | some rest => String.ofList rest
  | none => branch

namespace ProjectConfig

def isDisabled (config : ProjectConfig) (branch : String) : Bool :=
  config.disabled || decide (shortBranch branch ∈ config.disabledBranches.map shortBranch)

def backendFor (config : ProjectConfig) (branch : String) : String :=
  let isMeant (entry : String × String) : Bool := shortBranch entry.1 = shortBranch branch
  match config.backendByBranch.entries.find? isMeant with
  | some entry => entry.2
  | none => config.backend

def required (config : ProjectConfig) : Except ApprovalError RequiredApproval :=
  RequiredApproval.parse config.requiredApproval

def override? (config : ProjectConfig) : Except ApprovalError (Option RequiredApproval) :=
  match config.overrideApproval with
  | none => .ok none
  | some text => (RequiredApproval.parse text).map some

end ProjectConfig

structure ProjectConfigs where
  byProject : Table String ProjectConfig := {}
deriving DecidableEq, Repr

namespace ProjectConfigs

def get (configs : ProjectConfigs) (project : String) : ProjectConfig :=
  configs.byProject.getD project {}

def put (configs : ProjectConfigs) (project : String) (config : ProjectConfig) : ProjectConfigs :=
  ⟨configs.byProject.insert project config⟩

end ProjectConfigs
end Ownership
