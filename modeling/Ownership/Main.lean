import Ownership.CommandLine.Run

/-!
# The program

Reads the files that a command names, has the command run on them, and shows what comes out.
-/

namespace Ownership
namespace CommandLine

def hostPathsOf (arguments : List String) : List HostPath :=
  match Invocation.ofArguments arguments with
  | .ok (some invocation) =>
      match invocation.command with
      | .ok (some command) => command.hostPaths
      | _ => []
  | _ => []

/-- What is told about an ending, apart from what the command shows itself. -/
def Ending.note? : Ending → Option String
  | .done => none
  | .failed => none
  | .helped =>
      some ("usage: [--log-level LEVEL] COMMAND [OPTIONS] [FILE], where COMMAND is one of " ++
        ", ".intercalate (CommandName.all.map CommandName.text))
  | .crashed failure => some ("error: " ++ failure.message)
  | .refused message => some ("error: " ++ message)
  | .misused error => some ("error: " ++ error.message)

end CommandLine

/-- Adds what a path of the host leads to, with everything below a directory. -/
partial def loadHost (files : HostFiles) (place : String) : IO HostFiles := do
  let path := (← IO.currentDir) / place
  if ← path.isDir then
    let entries ← path.readDir
    entries.foldlM (fun files entry => loadHost files entry.path.toString)
      (files.addDirectory (HostPath.ofString place))
  else if ← path.pathExists then
    return files.addFile (HostPath.ofString place) (← IO.FS.readBinFile path).toList
  else return files

end Ownership

open Ownership in
def main (arguments : List String) : IO UInt32 := do
  let base := (HostPath.ofString (← IO.currentDir).toString).parts
  let places := (CommandLine.hostPathsOf arguments).map HostPath.toString
  let files ← places.foldlM loadHost { base }
  let (ending, output) := CommandLine.perform files arguments
  IO.print output.text
  for warning in output.session.warnings do
    IO.eprintln ("warning: " ++ warning)
  if let some note := ending.note? then IO.eprintln note
  return UInt32.ofNat ending.exitCode
