import Ownership.CommandLine.Arguments
import Ownership.Tree.HostFiles

/-!
# Commands

What can be asked for on the command line.  Options in front of the name of a command concern the
program as a whole.
-/

namespace Ownership
namespace CommandLine

structure Sources where
  checkout : HostPath
  accounts : HostPath
  settings : Option HostPath := none
deriving DecidableEq, Repr

inductive Command
  /-- Reads a configuration and tells which lines were skipped. -/
  | validate (file : HostPath) (format : String)
  /-- Writes a configuration in canonical form, or in another format. -/
  | format (file : HostPath) (format : String) (target : Option String)
  /-- Shows the owners of a path, level by level. -/
  | owners (sources : Sources) (path project : String)
  /-- Shows the statuses of the files of a change. -/
  | status (sources : Sources) (change : HostPath)
  /-- Suggests reviewers for a path of a change, with reasons on demand. -/
  | suggest (sources : Sources) (change : HostPath) (path : String) (limit : Int) (reasons : Bool)
deriving DecidableEq, Repr

def helpFlag : String := "--help"

inductive CommandName
  | validate
  | format
  | owners
  | status
  | suggest
deriving DecidableEq, Repr

namespace CommandName

def all : List CommandName := [.validate, .format, .owners, .status, .suggest]

def text : CommandName → String
  | .validate => "validate"
  | .format => "format"
  | .owners => "owners"
  | .status => "status"
  | .suggest => "suggest"

def ofText? (text : String) : Option CommandName := all.find? fun name => name.text = text

def options : CommandName → Options
  | .validate => { valued := ["--format"], flags := [helpFlag] }
  | .format => { valued := ["--format", "--to"], flags := [helpFlag] }
  | .owners =>
      { valued := ["--checkout", "--path", "--accounts", "--project-config", "--project"]
        flags := [helpFlag] }
  | .status =>
      { valued := ["--checkout", "--change", "--accounts", "--project-config", "--workers"]
        flags := [helpFlag] }
  | .suggest =>
      { valued := ["--checkout", "--change", "--path", "--accounts", "--project-config", "--limit"]
        flags := ["--debug", helpFlag] }

end CommandName

/-!
# Reading commands
-/

def sources (arguments : Arguments) : Except UsageError Sources := do
  return {
    checkout := HostPath.ofString (← arguments.need "--checkout")
    accounts := HostPath.ofString (← arguments.need "--accounts")
    settings := (arguments.value? "--project-config").map HostPath.ofString }

def usualFormat : String := "find-owners"

/-- The command with a name.  Files are evaluated one after another, so the number of workers is
only checked. -/
def Command.ofArguments (name : CommandName) (arguments : Arguments) :
    Except UsageError Command := do
  let format := (arguments.value? "--format").getD usualFormat
  match name with
  | .validate => return .validate (HostPath.ofString (← arguments.operand)) format
  | .format =>
      return .format (HostPath.ofString (← arguments.operand)) format (arguments.value? "--to")
  | .owners =>
      arguments.noOperands
      return .owners (← sources arguments) (← arguments.need "--path")
        ((arguments.value? "--project").getD "local")
  | .status =>
      arguments.noOperands
      let _ ← arguments.integerD "--workers" 1
      return .status (← sources arguments) (HostPath.ofString (← arguments.need "--change"))
  | .suggest =>
      arguments.noOperands
      let limit ← arguments.integerD "--limit" 10
      return .suggest (← sources arguments) (HostPath.ofString (← arguments.need "--change"))
        (← arguments.need "--path") limit (arguments.has "--debug")

def Command.hostPaths : Command → List HostPath
  | .validate file _ => [file]
  | .format file _ _ => [file]
  | .owners sources _ _ => sourcePaths sources
  | .status sources change => change :: sourcePaths sources
  | .suggest sources change _ _ _ => change :: sourcePaths sources
where
  sourcePaths (sources : Sources) : List HostPath :=
    [sources.checkout, sources.accounts] ++ sources.settings.toList

/-!
# Invocations
-/

structure Invocation where
  logLevel : String
  name : CommandName
  arguments : List String
deriving DecidableEq, Repr

/-- Reads the arguments of the program; nothing if help is asked for. -/
def Invocation.ofArguments (arguments : List String) : Except UsageError (Option Invocation) := do
  let outer ← tellApart { valued := ["--log-level"], flags := [helpFlag] } false arguments
  if outer.has helpFlag then return none
  else
    match outer.operands with
    | [] => throw .missingCommand
    | text :: arguments =>
        match CommandName.ofText? text with
        | none => throw (.unknownCommand text)
        | some name =>
            return some { logLevel := (outer.value? "--log-level").getD "WARNING", name, arguments }

def Invocation.command (invocation : Invocation) : Except UsageError (Option Command) := do
  let arguments ← tellApart invocation.name.options true invocation.arguments
  if arguments.has helpFlag then return none
  else some <$> Command.ofArguments invocation.name arguments

end CommandLine
end Ownership
