import Ownership.Format
import Ownership.Table
import Ownership.Text.LowerCase

/-!
# Registered formats

Formats are registered under identifiers, each with the file that its configurations live in by
default.  An identifier may have aliases, which are looked up first.  Blanks around an identifier
and the case of its letters do not count.
-/

namespace Ownership

structure Registration where
  format : Format
  fileName : String
deriving DecidableEq, Repr

structure Backend where
  id : String
  format : Format
  fileName : String
deriving DecidableEq, Repr

namespace Backend

def fileNameFor (backend : Backend) (extension : Option String) : String :=
  match Text.nonempty? extension with
  | some text => backend.fileName ++ "." ++ text
  | none => backend.fileName

end Backend

inductive RegistryError
  | emptyId
  /-- The identifier as it was given. -/
  | unknown (id : String)
deriving DecidableEq, Repr

def RegistryError.message : RegistryError → String
  | .emptyId => "backend_id cannot be empty"
  | .unknown id => "unknown code owner backend: " ++ id

structure Registry where
  backends : Table String Registration := {}
  aliases : Table String String := {}
deriving DecidableEq, Repr

namespace Registry

/-- The form in which identifiers are compared. -/
def fold (id : String) : String := String.ofList (Text.lower (Text.trim id.toList))

def register (registry : Registry) (id : String) (registration : Registration)
    (aliases : List String) : Except RegistryError Registry :=
  let id := fold id
  if id.isEmpty then .error .emptyId
  else .ok {
    backends := registry.backends.insert id registration
    aliases := ((aliases.map fold).filter fun name => !name.isEmpty).foldl
      (fun table name => table.insert name id) registry.aliases }

def available (registry : Registry) : List String := Text.sorted registry.backends.keys

def canonicalId (registry : Registry) (id : String) : Except RegistryError String :=
  let folded := fold id
  let name := registry.aliases.getD folded folded
  if registry.backends.contains name then .ok name else .error (.unknown id)

def get (registry : Registry) (id : String) : Except RegistryError Backend := do
  let name ← registry.canonicalId id
  match registry.backends.get? name with
  | some registration =>
      return { id := name, format := registration.format, fileName := registration.fileName }
  | none => throw (.unknown id)

/-- The two formats under the identifiers and aliases that they always have. -/
def builtIn : Registry where
  backends := Table.ofList [
    ("find-owners", { format := .lines, fileName := "OWNERS" }),
    ("proto", { format := .blocks, fileName := "OWNERS_METADATA" })]
  aliases := Table.ofList [
    ("find_owners", "find-owners"), ("owners", "find-owners"), ("line", "find-owners"),
    ("textproto", "proto"), ("structured", "proto")]

end Registry
end Ownership
