import Ownership.OwnerConfig
import Ownership.Text.Lines

/-!
# The lines of the line format

A line of the format is one statement.  Remarks such as `#{KEY}` and `#{KEY:value}` are taken
out of it first, wherever they stand; what is left is cut at the first `#` and trimmed.  The
content then is, in this order of trial: nothing, the flag that cuts off the folders above, an
import, a statement for some files, or an owner of all files.
-/

namespace Ownership
namespace LineFormat

/-!
# Remarks
-/

def isKeyStart (c : Char) : Bool := c.isAlpha || c = '_'

def isKeyChar (c : Char) : Bool := c.isAlphanum || c = '_' || c = '-'

def readRemark? : List Char → Option (Remark × List Char)
  | '{' :: c :: rest =>
      if isKeyStart c then
        let key := String.ofList (c :: rest.takeWhile isKeyChar)
        match rest.dropWhile isKeyChar with
        | '}' :: behind => some ({ key }, behind)
        | ':' :: more =>
            (Text.cutAt? '}' more).map fun (value, behind) =>
              ({ key, value := some (String.ofList value) }, behind)
        | _ => none
      else none
  | _ => none

theorem length_of_readRemark? {s behind : List Char} {remark : Remark}
    (h : readRemark? s = some (remark, behind)) : behind.length < s.length := by
  simp only [readRemark?] at h
  split at h
  · rename_i c rest
    have hdrop := (List.dropWhile_sublist isKeyChar (l := rest)).length_le
    split at h
    · split at h
      · rename_i found hfound
        simp only [Option.some.injEq, Prod.mk.injEq] at h
        rw [hfound, h.2] at hdrop
        simp only [List.length_cons] at hdrop ⊢
        omega
      · rename_i more hmore
        simp only [Option.map_eq_some_iff, Prod.mk.injEq, Prod.exists] at h
        obtain ⟨value, after, hcut, -, rfl⟩ := h
        have := Text.length_of_cutAt? hcut
        rw [hmore] at hdrop
        simp only [List.length_cons] at hdrop ⊢
        omega
      · cases h
    · cases h
  · cases h

/-- The line with a space for every remark, and the remarks in order. -/
def splitRemarks (line : List Char) : List Char × List Remark :=
  match line with
  | [] => ([], [])
  | '#' :: rest =>
      match _h : readRemark? rest with
      | some (remark, behind) =>
          let (text, remarks) := splitRemarks behind
          (' ' :: text, remark :: remarks)
      | none =>
          let (text, remarks) := splitRemarks rest
          ('#' :: text, remarks)
  | c :: rest =>
      let (text, remarks) := splitRemarks rest
      (c :: text, remarks)
termination_by line.length
decreasing_by
  all_goals first
    | (have hlen := length_of_readRemark? _h; simp only [List.length_cons]; omega)
    | (simp only [List.length_cons]; omega)

def content (line : List Char) : List Char × List Remark :=
  let (text, remarks) := splitRemarks line
  (Text.trim (text.takeWhile (· ≠ '#')), remarks)

/-!
# Statements
-/

/-- The words that cut a configuration, or the files of a statement, off from the folders above. -/
def noParentWords : String := "set noparent"

def includeWord : String := "include"

def fileWord : String := "file:"

def perFileWord : String := "per-file"

inductive Statement
  | nothing
  | noParent
  | importing (scope : ImportScope) (target : List Char)
  | perFile (globs : List Char) (owners : List Char)
  | owner (email : List Char)
  | unrecognized
deriving DecidableEq, Repr

def isOwner (email : String) : Bool := email = everybody || Email.isValid email

/-- An import names its target behind a keyword: one word that ends the line. -/
def readImport? (line : List Char) : Option (ImportScope × List Char) :=
  let target (scope : ImportScope) (rest : List Char) :=
    let word := Text.trimLeft rest
    if word.isEmpty || word.any Text.isBlank then none else some (scope, word)
  match Text.dropPrefix? includeWord.toList line with
  | some (c :: rest) => if Text.isBlank c then target .everything rest else none
  | some [] => none
  | none => (Text.dropPrefix? fileWord.toList line).bind (target .globalOnly)

/-- A statement for some files has path expressions before the first equals sign.  Behind the
keyword stands at least one blank, and at least one more character before the sign. -/
def readPerFile? (line : List Char) : Option (List Char × List Char) := do
  let rest ← Text.dropPrefix? perFileWord.toList line
  let (globs, owners) ← Text.cutAt? '=' rest
  match globs with
  | blank :: c :: more => if Text.isBlank blank then some (c :: more, Text.trim owners) else none
  | _ => none

def readStatement (line : List Char) : Statement :=
  if line.isEmpty then .nothing
  else if line = noParentWords.toList then .noParent
  else match readImport? line with
    | some (scope, target) => .importing scope target
    | none =>
      match readPerFile? line with
      | some (globs, owners) => .perFile globs owners
      | none =>
        if isOwner (String.ofList line) then .owner line else .unrecognized

def commaPieces (s : List Char) : List String :=
  (Text.splitOn ',' s).map fun piece => String.ofList (Text.trim piece)

end LineFormat
end Ownership
