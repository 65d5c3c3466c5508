import Ownership.Approval.Engine
import Ownership.CommandLine.Command
import Ownership.Console.Screen
import Ownership.Document.File
import Ownership.Incident
import Ownership.Suggestion.Suggester
import Ownership.Tree.Checkout

/-!
# Running commands

A command reads files of the host and shows lines of text.  What it has shown stays shown when it
fails later.  Failures that are to be expected are told in a line and end the command; all others
end it as they are.
-/

namespace Ownership
namespace CommandLine

/-!
# Showing
-/

structure Output where
  text : String := ""
  session : Session := {}

abbrev Showing := ExceptT Failure (StateM Output)

/-- Walks are made in the session that goes with the output. -/
instance : MonadLift Walk Showing where
  monadLift walk := fun output =>
    let (result, session) := walk output.session
    (result, { output with session })

def put (text : String) : Showing Unit :=
  modifyThe Output fun output => { output with text := output.text ++ text }

def say (text : String) : Showing Unit := do
  let shown ← (liftExcept ((Screen.shown text).mapError Failure.markup) : Showing String)
  put (shown ++ "\n")

def sayStyled (style word text : String) : Showing Unit :=
  say ("[" ++ style ++ "]" ++ word ++ "[/" ++ style ++ "] " ++ text)

/-!
# Ending
-/

inductive Ending
  | done
  | helped
  /-- The command failed and has told why. -/
  | failed
  | crashed (failure : Failure)
  /-- A value among the arguments is not accepted. -/
  | refused (message : String)
  | misused (error : UsageError)
deriving DecidableEq, Repr

def Ending.exitCode : Ending → Nat
  | .done => 0
  | .helped => 0
  | .failed => 1
  | .crashed _ => 1
  | .refused _ => 2
  | .misused _ => 2

abbrev Run := ExceptT Ending (StateM Output)

/-- Failures end the command as they are. -/
def crashing (action : Showing α) : Run α := fun output =>
  let (result, output) := action output
  (result.mapError .crashed, output)

def tell (helpUrl : Option String) (failure : Failure) : Showing Unit :=
  (failure.userMessages helpUrl).forM fun message =>
    sayStyled "red" "error" (Markup.escape message)

/-- Failures that are to be expected are told; `announce` may show something before. -/
def reporting (helpUrl : Failure → Option String) (announce : Failure → Showing Unit)
    (action : Showing α) : Run α := fun output =>
  match action output with
  | (.ok value, output) => (.ok value, output)
  | (.error failure, output) =>
      if failure.isExpected then
        (crashing (do announce failure; tell (helpUrl failure) failure) >>=
          fun _ => throw Ending.failed) output
      else (.error (.crashed failure), output)

def reportingPlainly (helpUrl : Option String) (action : Showing α) : Run α :=
  reporting (fun _ => helpUrl) (fun _ => return ()) action

/-!
# Reading files
-/

def readText (files : HostFiles) (path : HostPath) : Run String := do
  let host {α : Type} (result : Except HostError α) : Run α :=
    crashing (liftExcept (result.mapError fun error => Failure.host error path.toString))
  if ← host (files.isFile path) then
    let content ← host (files.read path)
    crashing (liftExcept (Document.fileText content))
  else throw (.refused ("file does not exist: " ++ path.toString))

def readDocument (reader : Document.Reader α) (files : HostFiles) (path : HostPath) : Run α := do
  let text ← readText files path
  crashing (liftExcept (Document.parse reader text))

def readSettings (files : HostFiles) : Option HostPath → Run ProjectConfig
  | none => return {}
  | some path => crashing do
      let content ← (liftExcept ((files.read path).mapError fun error =>
        Failure.host error path.toString) : Showing _)
      liftExcept (Document.parseFile Document.projectConfig content)

/-!
# Configurations
-/

def backendNamed (name : String) : Run Backend :=
  match Registry.builtIn.get name with
  | .ok backend => return backend
  | .error _ =>
      throw (.refused ("unknown format: " ++ name ++ ". valid: " ++
        ", ".intercalate Registry.builtIn.available))

/-- The branch that files of the host are taken to be on. -/
def localBranch : String := "master"

/-- The key of a configuration that belongs to no tree. -/
def loneKey (file : HostPath) : ConfigKey :=
  { project := "local", branch := localBranch, folder := "/", fileName := some file.fileName }

def readConfig (backend : Backend) (file : HostPath) (text : String) :
    Showing (OwnerConfig × List Skipped) :=
  liftExcept ((backend.format.read (loneKey file) text).mapError fun error =>
    Failure.brokenConfig { message := error.message })

def counted (count : Nat) (noun : String) : String := Text.integerText count ++ " " ++ noun

def runValidate (files : HostFiles) (file : HostPath) (format : String) : Run Unit := do
  let backend ← backendNamed format
  let text ← readText files file
  let (config, skipped) ← reportingPlainly none (readConfig backend file text)
  crashing do
    skipped.forM fun line => sayStyled "yellow" "skipped" (Markup.escape line.message)
    sayStyled "bold" "ok" (", ".intercalate [counted config.sets.length "owner set(s)",
      counted config.imports.length "import(s)", counted skipped.length "skipped line(s)"])

def runFormat (files : HostFiles) (file : HostPath) (format : String) (target : Option String) :
    Run Unit := do
  let source ← backendNamed format
  let target ← backendNamed ((Text.nonempty? target).getD format)
  let text ← readText files file
  reportingPlainly none do
    let (config, _) ← readConfig source file text
    let written ← (liftExcept ((target.format.write config).mapError Failure.inexpressible) :
      Showing String)
    put (String.ofList (Screen.withoutSequences written.toList))

/-!
# Owners
-/

def siteOf (files : HostFiles) (sources : Sources) (project : String) (config : ProjectConfig) :
    Site where
  tree := ({ files, root := sources.checkout } : Checkout).tree
  configs := ({} : ProjectConfigs).put project config

def sayLevel (directory : Directory) (path : String) (level : Hierarchy.Level) : Showing Unit := do
  let resolver : Resolver := { directory, enforces := false }
  let owners ← (liftExcept ((resolver.pathOwners level.config path).mapError Failure.path) :
    Showing PathOwners)
  let ids := owners.accounts.mergeSort fun a b => decide (a ≤ b)
  let names := ids.map directory.label ++ if owners.everybody then ["*"] else []
  let text := if names.isEmpty then "-" else ", ".intercalate names
  sayStyled "bold" (Markup.escape level.folder) (Markup.escape text)
  owners.unresolved.forM fun email =>
    say ("  [yellow]unresolved[/yellow] " ++ Markup.escape email)

def runOwners (files : HostFiles) (sources : Sources) (path project : String) : Run Unit := do
  let config ← readSettings files sources.settings
  let accounts ← readDocument Document.accounts files sources.accounts
  let place : Hierarchy.Place :=
    { project, branch := localBranch, revision := Checkout.revision, path }
  reportingPlainly config.helpUrl do
    Hierarchy.visitLevels (m := Showing) (siteOf files sources project config) place ()
      fun _ level => do
        sayLevel accounts.directory path level
        return .yield ()
  crashing do
    (← getThe Output).session.diagnostics.values.forM fun message =>
      sayStyled "yellow" "warning" (Markup.escape message)

/-!
# Changes
-/

def statusStyle (status : OwnerStatus) : String :=
  if status = .approved then "green" else "yellow"

def sayStatus (status : PathStatus) : Showing Unit :=
  let reason := match Text.nonempty? status.reason with
    | some reason => " (" ++ Markup.escape reason ++ ")"
    | none => ""
  sayStyled (statusStyle status.status) status.status.name (Markup.escape status.path ++ reason)

def isSettingsFailure : Failure → Bool
  | .projectConfig _ _ => true
  | _ => false

def runStatus (files : HostFiles) (sources : Sources) (change : HostPath) : Run Unit := do
  let config ← readSettings files sources.settings
  let document ← readDocument Document.changeDocument files change
  let accounts ← readDocument Document.accounts files sources.accounts
  let engine : Engine :=
    { site := siteOf files sources document.change.project config
      directory := accounts.directory
      permissions := accounts.permissions
      changedFiles := fun _ revision _ => .ok (document.filesAt revision) }
  let announce (failure : Failure) : Showing Unit :=
    if isSettingsFailure failure then
      say "[red]code owners disabled: invalid project configuration[/red]"
    else return ()
  let helpUrl (failure : Failure) : Option String :=
    if isSettingsFailure failure then none else config.helpUrl
  let statuses ← reporting helpUrl announce
    (engine.fileStatuses document.change none : Walk (List FileStatus))
  crashing do
    (statuses.flatMap FileStatus.pathStatuses).forM sayStatus
    sayStyled "bold" "submittable" (if statuses.all FileStatus.isApproved then "yes" else "no")

def suggestedLabel (owner : SuggestedOwner) : String :=
  ((Text.nonempty? owner.displayName).or (Text.nonempty? owner.email)).getD
    (accountWords owner.accountId)

def runSuggest (files : HostFiles) (sources : Sources) (change : HostPath) (path : String)
    (limit : Int) (reasons : Bool) : Run Unit := do
  let config ← readSettings files sources.settings
  let document ← readDocument Document.changeDocument files change
  let accounts ← readDocument Document.accounts files sources.accounts
  let suggester : Suggester :=
    { site := siteOf files sources document.change.project config, directory := accounts.directory }
  let result ← reportingPlainly config.helpUrl
    (suggester.suggestForChange document.change path limit : Walk SuggestionResult)
  crashing do
    result.owners.forM fun owner =>
      say (Number.Double.fixedPlaces 3 owner.score ++ " " ++ Markup.escape (suggestedLabel owner))
    if result.everybody then say "[bold]owned by all users[/bold]"
    if reasons then
      result.notes.forM fun note => say ("[dim]" ++ Markup.escape note ++ "[/dim]")

/-!
# The program
-/

def run (files : HostFiles) : Command → Run Unit
  | .validate file format => runValidate files file format
  | .format file format target => runFormat files file format target
  | .owners sources path project => runOwners files sources path project
  | .status sources change => runStatus files sources change
  | .suggest sources change path limit reasons =>
      runSuggest files sources change path limit reasons

/-- What the program does with its arguments: how it ends, and what it shows until then. -/
def perform (files : HostFiles) (arguments : List String) : Ending × Output :=
  match Invocation.ofArguments arguments with
  | .error error => (.misused error, {})
  | .ok none => (.helped, {})
  | .ok (some invocation) =>
      if (LogLevel.ofName? invocation.logLevel).isNone then (.crashed .logLevel, {})
      else
        match invocation.command with
        | .error error => (.misused error, {})
        | .ok none => (.helped, {})
        | .ok (some command) =>
            match run files command {} with
            | (.ok _, output) => (.done, output)
            | (.error ending, output) => (ending, output)

end CommandLine
end Ownership
