import Ownership.Table
import Ownership.Text.Order
import Ownership.Text.Quoted
import Ownership.Text.Split
import Ownership.Text.Utf8

/-!
# Files of the host

The files of the machine that a program sees from its working directory, and the paths by which
they are reached.  A host path may be relative, and two dots climb.  Slashes in a row and single
dots say nothing and are left out, except that exactly two slashes in front stay.
-/

namespace Ownership

/-!
# Host paths
-/

structure HostPath where
  /-- The slashes in front. -/
  root : String := ""
  parts : List String := []
deriving DecidableEq, Repr

namespace HostPath

def ofString (path : String) : HostPath :=
  let s := path.toList
  let slashes := (s.takeWhile (· = '/')).length
  let parts := (Text.splitOn '/' s).filter fun part => decide (part ≠ [] ∧ part ≠ ['.'])
  { root := if slashes = 0 then "" else if slashes = 2 then "//" else "/"
    parts := parts.map String.ofList }

def toString (path : HostPath) : String :=
  if path.root.isEmpty && path.parts.isEmpty then "." else path.root ++ "/".intercalate path.parts

def append (path : HostPath) (relative : String) : HostPath :=
  { path with parts := path.parts ++ (ofString relative).parts }

def fileName (path : HostPath) : String := path.parts.getLast?.getD ""

end HostPath

/-!
# Directories and files

All places are given by their components from the root down.  The working directory, which relative
paths start from, and the directories above it are always there.
-/

inductive HostError
  | notFound
  | notDirectory
  | isDirectory
  | nameTooLong
  | badName
deriving DecidableEq, Repr

/-- What is said about a path that cannot be used: the number and the words of the error, and the
path.  A path that the host cannot even take in is not named. -/
def HostError.message (error : HostError) (path : String) : String :=
  let named (words : String) : String := words ++ ": " ++ Text.quoted path
  match error with
  | .notFound => named "[Errno 2] No such file or directory"
  | .notDirectory => named "[Errno 20] Not a directory"
  | .isDirectory => named "[Errno 21] Is a directory"
  | .nameTooLong => named "[Errno 36] File name too long"
  | .badName => "embedded null byte"

inductive HostNode
  | file (content : List UInt8)
  | directory
deriving DecidableEq, Repr

structure HostFiles where
  /-- The working directory. -/
  base : List String := []
  nodes : Table (List String) HostNode := {}
deriving DecidableEq, Repr

namespace HostFiles

def nodeAt? (files : HostFiles) (place : List String) : Option HostNode :=
  if place.isPrefixOf files.base then some .directory else files.nodes.get? place

def start (files : HostFiles) (path : HostPath) : List String :=
  if path.root.isEmpty then files.base else []

def insert (files : HostFiles) (place : List String) (node : HostNode) : HostFiles :=
  { files with nodes := files.nodes.insert place node }

/-- Puts in the directories above a place, from the top down. -/
def addParents (files : HostFiles) (place : List String) : HostFiles :=
  (List.range place.length).foldl
    (fun files count =>
      let parent := place.take count
      if (files.nodeAt? parent).isSome then files else files.insert parent .directory)
    files

/-- The place that a path means where every component of it is a directory. -/
def meant (files : HostFiles) (path : HostPath) : List String :=
  path.parts.foldl (fun place part => if part = ".." then place.dropLast else place ++ [part])
    (files.start path)

def addDirectory (files : HostFiles) (path : HostPath) : HostFiles :=
  let place := files.meant path
  let files := files.addParents place
  if (files.nodeAt? place).isSome then files else files.insert place .directory

def addFile (files : HostFiles) (path : HostPath) (content : List UInt8) : HostFiles :=
  let place := files.meant path
  (files.addParents place).insert place (.file content)

/-!
# Following a path

A path is followed one component at a time, and every component but the last has to be a
directory.  Names have a greatest length, and so have whole paths.
-/

def follow (files : HostFiles) : List String → List String → Except HostError (List String)
  | place, [] => .ok place
  | place, part :: rest =>
      match files.nodeAt? place with
      | none => .error .notFound
      | some (.file _) => .error .notDirectory
      | some .directory =>
          if part = ".." then files.follow place.dropLast rest
          else if 255 < part.utf8ByteSize then .error .nameTooLong
          else if (files.nodeAt? (place ++ [part])).isSome then files.follow (place ++ [part]) rest
          else .error .notFound

def find (files : HostFiles) (path : HostPath) : Except HostError (List String × HostNode) :=
  let text := path.toString
  if text.toList.contains '\x00' then .error .badName
  else if 4096 ≤ text.utf8ByteSize then .error .nameTooLong
  else do
    let place ← files.follow (files.start path) path.parts
    match files.nodeAt? place with
    | some node => return (place, node)
    | none => throw .notFound

/-- Whether a file is there; only names that are too long make the question fail. -/
def isFile (files : HostFiles) (path : HostPath) : Except HostError Bool :=
  match files.find path with
  | .ok (_, .file _) => .ok true
  | .ok (_, .directory) => .ok false
  | .error .nameTooLong => .error .nameTooLong
  | .error _ => .ok false

def read (files : HostFiles) (path : HostPath) : Except HostError (List UInt8) :=
  match files.find path with
  | .ok (_, .file content) => .ok content
  | .ok (_, .directory) => .error .isDirectory
  | .error error => .error error

/-- The place of the directory that a path leads to; only names that are too long make the question
fail. -/
def directory? (files : HostFiles) (path : HostPath) : Except HostError (Option (List String)) :=
  match files.find path with
  | .ok (place, .directory) => .ok (some place)
  | .error .nameTooLong => .error .nameTooLong
  | _ => .ok none

/-- The files below a directory by their components, in order. -/
def filesBelow (files : HostFiles) (place : List String) : List (List String) :=
  let below := files.nodes.entries.filterMap fun (path, node) =>
    match node with
    | .file _ =>
        if place.isPrefixOf path && path.length ≠ place.length then some (path.drop place.length)
        else none
    | .directory => none
  below.mergeSort fun a b => decide (a ≤ b)

end HostFiles
end Ownership
