import Ownership.Proofs.Memory
import Ownership.Proofs.Text.Encoding
import Ownership.Proofs.Text.Pieces
import Ownership.Tree.GitRepository

/-!
# Listings of changed files

A listing has two or three fields for an entry, and only the first letter of the first field tells
how many.  Reading takes exactly the fields of one entry before it goes on to the next, so entries
that are passed over do not shift those behind them.
-/

namespace Ownership
namespace GitTree

/-!
# Entries
-/

/-- An entry of a listing, with the names that it has there. -/
inductive Entry
  | added (name : String)
  | modified (name : String)
  | retyped (name : String)
  | deleted (name : String)
  | renamed (score old new : String)
  | copied (score old new : String)
  | other (letter : Char) (name : String)
deriving DecidableEq, Repr

namespace Entry

def status : Entry → String
  | added _ => "A"
  | modified _ => "M"
  | retyped _ => "T"
  | deleted _ => "D"
  | renamed score _ _ => "R" ++ score
  | copied score _ _ => "C" ++ score
  | other letter _ => String.singleton letter

def names : Entry → List String
  | added name => [name]
  | modified name => [name]
  | retyped name => [name]
  | deleted name => [name]
  | renamed _ old new => [old, new]
  | copied _ old new => [old, new]
  | other _ name => [name]

def fields (entry : Entry) : List String := entry.status :: entry.names

/-- The changed file that an entry tells of; `place` gives the path for a name. -/
def file? (place : String → String) : Entry → Option ChangedFile
  | added name => some { newPath := place name, kind := .added }
  | modified name => some { oldPath := place name, newPath := place name, kind := .modified }
  | retyped name => some { oldPath := place name, newPath := place name, kind := .modified }
  | deleted name => some { oldPath := place name, kind := .deleted }
  | renamed _ old new => some { oldPath := place old, newPath := place new, kind := .renamed }
  | copied _ old new => some { oldPath := place old, newPath := place new, kind := .copied }
  | other _ _ => none

def letters : List Char := ['A', 'M', 'T', 'D', 'R', 'C']

/-- No field is empty or holds a zero character, and names have normal forms. -/
structure IsSound (place : String → String) (entry : Entry) : Prop where
  fields : ∀ field ∈ entry.fields, field ≠ "" ∧ '\x00' ∉ field.toList
  places : ∀ name ∈ entry.names, Path.normalize ("/" ++ name) = .ok (place name)
  unknown : ∀ letter name, entry = other letter name → letter ∉ letters

end Entry

/-- The listing of some entries: every field with a zero byte behind it. -/
def listing (entries : List Entry) : Content :=
  (entries.flatMap Entry.fields).flatMap fun field => Text.Utf8.encode field ++ [0]

variable {git : GitTree} {place : String → String} {entry : Entry} {entries : List Entry}
  {kind : ChangeKind} {status name : String} {rest : List String}

/-!
# Fields
-/

theorem fieldBytes_append {field : Content} (hne : field ≠ []) (hfree : 0 ∉ field) (rest : Content) :
    fieldBytes (field ++ [0] ++ rest) = field :: fieldBytes rest := by
  unfold fieldBytes
  rw [List.append_assoc, List.singleton_append, Text.splitOn_append hfree,
    List.filter_cons_of_pos (by simpa using hne)]

theorem fieldBytes_of_fields {fields : List String}
    (h : ∀ field ∈ fields, field ≠ "" ∧ '\x00' ∉ field.toList) :
    fieldBytes (fields.flatMap fun field => Text.Utf8.encode field ++ [0]) =
      fields.map Text.Utf8.encode := by
  induction fields with
  | nil => rfl
  | cons field rest ih =>
      have hfield := h field List.mem_cons_self
      rw [List.flatMap_cons, fieldBytes_append (fun hnil => hfield.1
        (Text.Utf8.encode_eq_nil_iff.mp hnil)) (Text.Utf8.zero_notMem_encode hfield.2),
        ih fun other hother => h other (List.mem_cons_of_mem field hother), List.map_cons]

theorem fields_listing
    (h : ∀ entry ∈ entries, ∀ field ∈ entry.fields, field ≠ "" ∧ '\x00' ∉ field.toList) :
    fields (listing entries) = .ok (entries.flatMap Entry.fields) := by
  unfold fields listing
  rw [fieldBytes_of_fields, List.mapM_map]
  · apply (mapM_of_all_ok (g := id) _).trans
    · rw [List.map_id]
    · intro field _
      dsimp only [Function.comp]
      rw [Text.Utf8.decode_encode]
      rfl
  · intro field hfield
    rcases List.mem_flatMap.mp hfield with ⟨entry, hentry, hfield⟩
    exact h entry hentry field hfield

/-!
# One entry
-/

theorem checkedName_of_normalize (field : String) {name? : Option String}
    (h : ∀ name ∈ name?, Path.normalize ("/" ++ name) = .ok (place name)) :
    checkedName field name? = pure (name?.map place) := by
  cases name? with
  | none => rfl
  | some name =>
      unfold checkedName
      dsimp only
      rw [h name rfl]
      rfl

theorem checkedFile_of_complete {old new : Option String}
    (hcomplete : ChangedFile.missingPath? ⟨old, new, kind⟩ = none) :
    Document.checkedFile (pure old) (pure new) (pure kind) = pure ⟨old, new, kind⟩ := by
  show Document.Check.andThen ⟨.ok (ChangedFile.mk old new kind)⟩ _ = _
  dsimp only [Document.Check.andThen]
  rw [hcomplete]

theorem changedFile_of_normalize {old new : Option String}
    (hold : ∀ name ∈ old, Path.normalize ("/" ++ name) = .ok (place name))
    (hnew : ∀ name ∈ new, Path.normalize ("/" ++ name) = .ok (place name))
    (hcomplete : ChangedFile.missingPath? ⟨old.map place, new.map place, kind⟩ = none) :
    changedFile kind old new = .ok ⟨old.map place, new.map place, kind⟩ := by
  unfold changedFile
  rw [checkedName_of_normalize "old_path" hold, checkedName_of_normalize "new_path" hnew,
    checkedFile_of_complete hcomplete]
  rfl

theorem kindOf?_letter_append (letter : String) (score : String)
    (hletter : letter = "R" ∨ letter = "C") : kindOf? (letter ++ score) = kindOf? letter := by
  unfold kindOf?
  rw [String.toList_append]
  rcases hletter with rfl | rfl
  · rfl
  · rfl

theorem kindOf?_singleton {letter : Char} (h : letter ∉ Entry.letters) :
    kindOf? (String.singleton letter) = none := by
  unfold kindOf?
  rw [String.toList_singleton]
  split
  all_goals simp_all [Entry.letters]

theorem readEntries_of_one (hkind : kindOf? status = some kind)
    (hone : ¬(kind = .renamed ∨ kind = .copied))
    (hname : Path.normalize ("/" ++ name) = .ok (place name)) (rest : List String) :
    readEntries (status :: name :: rest) = (readEntries rest).map fun files =>
      { oldPath := if kind = .added then none else some (place name)
        newPath := if kind = .deleted then none else some (place name), kind } :: files := by
  have hfile : changedFile kind (if kind = .added then none else some name)
      (if kind = .deleted then none else some name) =
        .ok ⟨if kind = .added then none else some (place name),
          if kind = .deleted then none else some (place name), kind⟩ := by
    have hsome : ∀ other ∈ some name, Path.normalize ("/" ++ other) = .ok (place other) := by
      rintro _ ⟨⟩
      exact hname
    cases kind with
    | added => exact changedFile_of_normalize nofun hsome rfl
    | modified => exact changedFile_of_normalize hsome hsome rfl
    | deleted => exact changedFile_of_normalize hsome nofun rfl
    | renamed => exact changedFile_of_normalize hsome hsome rfl
    | copied => exact changedFile_of_normalize hsome hsome rfl
  rw [readEntries, hkind]
  dsimp only
  rw [if_neg hone, hfile]
  exact bind_pure_comp _ (readEntries rest)

theorem readEntries_of_two {old new : String} (hkind : kindOf? status = some kind)
    (htwo : kind = .renamed ∨ kind = .copied)
    (hold : Path.normalize ("/" ++ old) = .ok (place old))
    (hnew : Path.normalize ("/" ++ new) = .ok (place new)) (rest : List String) :
    readEntries (status :: old :: new :: rest) = (readEntries rest).map fun files =>
      { oldPath := some (place old), newPath := some (place new), kind } :: files := by
  have hfile : changedFile kind (some old) (some new) =
      .ok ⟨some (place old), some (place new), kind⟩ := by
    apply changedFile_of_normalize
    · intro name hname
      cases hname
      exact hold
    · intro name hname
      cases hname
      exact hnew
    · cases kind <;> rfl
  rw [readEntries, hkind]
  dsimp only
  rw [if_pos htwo, hfile]
  exact bind_pure_comp _ (readEntries rest)

theorem readEntries_of_unknown (hkind : kindOf? status = none) :
    readEntries (status :: name :: rest) = readEntries rest := by
  rw [readEntries, hkind]

/-- Reading an entry takes its own fields and leaves those of the others. -/
theorem readEntries_append (h : entry.IsSound place) (rest : List String) :
    readEntries (entry.fields ++ rest) =
      (readEntries rest).map ((entry.file? place).toList ++ ·) := by
  have hplaces := h.places
  cases entry with
  | added name =>
      have hkind : kindOf? "A" = some .added := by decide
      exact readEntries_of_one hkind (by decide) (hplaces name List.mem_cons_self) rest
  | modified name =>
      have hkind : kindOf? "M" = some .modified := by decide
      exact readEntries_of_one hkind (by decide) (hplaces name List.mem_cons_self) rest
  | retyped name =>
      have hkind : kindOf? "T" = some .modified := by decide
      exact readEntries_of_one hkind (by decide) (hplaces name List.mem_cons_self) rest
  | deleted name =>
      have hkind : kindOf? "D" = some .deleted := by decide
      exact readEntries_of_one hkind (by decide) (hplaces name List.mem_cons_self) rest
  | renamed score old new =>
      have hkind : kindOf? ("R" ++ score) = some .renamed := kindOf?_letter_append "R" score (.inl rfl)
      exact readEntries_of_two hkind (.inl rfl) (hplaces old List.mem_cons_self)
        (hplaces new (List.mem_cons_of_mem old List.mem_cons_self)) rest
  | copied score old new =>
      have hkind : kindOf? ("C" ++ score) = some .copied := kindOf?_letter_append "C" score (.inr rfl)
      exact readEntries_of_two hkind (.inr rfl) (hplaces old List.mem_cons_self)
        (hplaces new (List.mem_cons_of_mem old List.mem_cons_self)) rest
  | other letter name =>
      have hkind := kindOf?_singleton (h.unknown letter name rfl)
      show readEntries (String.singleton letter :: name :: rest) = _
      rw [readEntries_of_unknown hkind]
      cases readEntries rest with
      | error failure => rfl
      | ok files => rfl

/-!
# Whole listings
-/

theorem readEntries_flatMap (h : ∀ entry ∈ entries, entry.IsSound place) :
    readEntries (entries.flatMap Entry.fields) = .ok (entries.filterMap (Entry.file? place)) := by
  induction entries with
  | nil => rfl
  | cons entry entries ih =>
      rw [List.flatMap_cons, readEntries_append (h entry List.mem_cons_self),
        ih fun other hother => h other (List.mem_cons_of_mem entry hother), List.filterMap_cons]
      cases entry.file? place with
      | none => rfl
      | some file => rfl

def commandLine (repository : HostPath) (args : List String) : List String :=
  ["git", "-C", repository.toString] ++ args

theorem run_command {project : String} {repository : HostPath} {args : List String} {code : Int}
    {output complaint : Content} (hrepository : git.repositories.get? project = some repository)
    (hrun : git.run (commandLine repository args) = .ended code output complaint)
    (lines : List (List String)) :
    (git.command project args).run lines =
      (.ok (code, output, complaint), lines ++ [commandLine repository args]) := by
  unfold command
  rw [hrepository]
  unfold commandLine at hrun
  dsimp only
  rw [hrun]
  rfl

theorem run_output {project : String} {repository : HostPath} {args : List String}
    {output complaint : Content} (hrepository : git.repositories.get? project = some repository)
    (hrun : git.run (commandLine repository args) = .ended 0 output complaint)
    (lines : List (List String)) :
    (git.output project args).run lines =
      (.ok output, lines ++ [commandLine repository args]) := by
  unfold GitTree.output
  rw [exceptT_bind_of_ok (run_command hrepository hrun lines)]
  rfl

theorem run_changedFiles {project : String} {repository : HostPath} {revision : String}
    {base : Option String} {complaint : Content}
    (hrepository : git.repositories.get? project = some repository)
    (hrun : git.run (commandLine repository (diffArgs revision base)) =
      .ended 0 (listing entries) complaint)
    (hfields : ∀ entry ∈ entries, ∀ field ∈ entry.fields, field ≠ "" ∧ '\x00' ∉ field.toList)
    (lines : List (List String)) :
    (git.changedFiles project revision base).run lines =
      (readEntries (entries.flatMap Entry.fields),
        lines ++ [commandLine repository (diffArgs revision base)]) := by
  unfold changedFiles
  rw [exceptT_bind_of_ok (run_output hrepository hrun lines), fields_listing hfields]
  show (liftExcept (readEntries (entries.flatMap Entry.fields)) : GitAction _).run _ = _
  cases readEntries (entries.flatMap Entry.fields) with
  | error failure => rfl
  | ok files => rfl

/-- A listing with names in normal form gives a file for each entry with a known letter, in order. -/
theorem changedFiles_of_listing {project : String} {repository : HostPath} {revision : String}
    {base : Option String} {complaint : Content}
    (hrepository : git.repositories.get? project = some repository)
    (hrun : git.run (commandLine repository (diffArgs revision base)) =
      .ended 0 (listing entries) complaint)
    (hsound : ∀ entry ∈ entries, entry.IsSound fun name => "/" ++ name)
    (lines : List (List String)) :
    (git.changedFiles project revision base).run lines =
      (.ok (entries.filterMap (Entry.file? fun name => "/" ++ name)),
        lines ++ [commandLine repository (diffArgs revision base)]) := by
  rw [run_changedFiles hrepository hrun (fun entry hentry => (hsound entry hentry).fields) lines,
    readEntries_flatMap hsound]

/-!
# An orchard
-/

def orchardEntries : List Entry :=
  [.renamed "100" "apple" "tree/apple", .other 'X' "pear", .deleted "leaf", .copied "75" "root" "plum",
    .retyped "gate"]

def orchard : GitTree where
  repositories := ⟨[("orchard", HostPath.ofString "r")]⟩
  run _ := .ended 0 (listing orchardEntries) []

theorem orchardEntries_sound : ∀ entry ∈ orchardEntries, entry.IsSound fun name => "/" ++ name := by
  have hfields : ∀ entry ∈ orchardEntries, ∀ field ∈ entry.fields,
      field ≠ "" ∧ '\x00' ∉ field.toList := by decide
  have hplaces : ∀ entry ∈ orchardEntries, ∀ name ∈ entry.names,
      (Path.normalize ("/" ++ name)).toOption = some ("/" ++ name) := by decide +kernel
  intro entry hentry
  refine ⟨hfields entry hentry, fun name hname => ?_, ?_⟩
  · exact Walk.eq_ok_of_toOption (hplaces entry hentry name hname)
  · rintro letter name rfl
    simp only [orchardEntries, List.mem_cons, reduceCtorEq, Entry.other.injEq, List.not_mem_nil,
      or_false, false_or] at hentry
    rw [hentry.1]
    decide

theorem orchard_changedFiles : (orchard.changedFiles "orchard" "tip" none).run [] =
    (.ok [
      { oldPath := some "/apple", newPath := some "/tree/apple", kind := .renamed },
      { oldPath := some "/leaf", kind := .deleted },
      { oldPath := some "/root", newPath := some "/plum", kind := .copied },
      { oldPath := some "/gate", newPath := some "/gate", kind := .modified }],
    [["git", "-C", "r", "diff-tree", "--no-commit-id", "-r", "-M", "-C", "--name-status", "-z",
      "--root", "tip"]]) := by
  have hrepository : orchard.repositories.get? "orchard" = some (HostPath.ofString "r") := rfl
  have hrun : orchard.run (commandLine (HostPath.ofString "r") (diffArgs "tip" none)) =
      .ended 0 (listing orchardEntries) [] := rfl
  rw [changedFiles_of_listing hrepository hrun orchardEntries_sound []]
  rfl

end GitTree
end Ownership
