import Ownership.Hierarchy.Imports
import Ownership.Proofs.BlockFormat.Contents
import Ownership.Proofs.Faithful
import Ownership.Proofs.LineFormat.Imports
import Ownership.Proofs.LineFormat.Sayings
import Ownership.Proofs.Path.Folders

/-!
# Where imports point to

The target of an import is one word, so it holds no blanks.  Below a solid folder the path of each
target is solid then, and looking it up cannot fail for want of a normal form.  The block format has
no imports at all.
-/

namespace Ownership

open Ownership.Path

def OwnerConfig.SolidImports (config : OwnerConfig) : Prop :=
  ∀ imp ∈ config.imports, IsSolidPath imp.path

/-- A file that can be looked up: its folder is solid and so is its name. -/
structure ConfigKey.IsSolid (key : ConfigKey) (defaultFileName : String) : Prop where
  folder : IsSolidPath key.folder
  name : Path.IsSolid (key.lookupName defaultFileName).toList

namespace LineFormat

variable {folder : String} {target : List Char} {scope : ImportScope} {imp : Import}

/-!
# Imports of a text
-/

theorem isSolidPath_of_resolveImport {project branch : Option String} {path : List Char}
    (hfolder : IsSolidPath folder) (hpath : ∀ c ∈ path, Text.isBlank c = false)
    (h : resolveImport folder scope project branch path = .ok imp) : IsSolidPath imp.path := by
  have hletters : ∀ c ∈ (String.ofList path).toList, Text.isBlank c = false := by
    rw [String.toList_ofList]
    exact hpath
  unfold resolveImport at h
  dsimp only at h
  split at h
  · exact isSolidPath_of_no_blank hletters (create_eq_ok h).2.2.2
  · cases hjoin : Path.join folder (String.ofList path) with
    | error defect =>
        rw [hjoin] at h
        cases h
    | ok joined =>
        rw [hjoin] at h
        have hsolid := isSolidPath_of_join hfolder hletters hjoin
        rcases hsolid with ⟨parts, rfl, hparts⟩
        -- a solid path is not changed by normalizing it once more
        have hsame := (create_eq_ok h).2.2.2
        rw [normalize_ofParts hparts] at hsame
        exact ⟨parts, (Except.ok.inj hsame).symm, hparts⟩

theorem isSolidPath_of_readTarget (hfolder : IsSolidPath folder)
    (hfree : ∀ c ∈ target, Text.isBlank c = false) (h : readTarget folder scope target = .ok imp) :
    IsSolidPath imp.path := by
  have hresolved : ∀ project branch piece, piece ∈ Text.splitOn ':' target →
      (resolveImport folder scope project branch piece).mapError SkipReason.importPath = .ok imp →
        IsSolidPath imp.path := by
    intro project branch piece hpiece hok
    apply isSolidPath_of_resolveImport hfolder _ (resolveImport_of_mapError hok)
    exact fun c hc => hfree c (Text.mem_piece hpiece hc).1
  rw [readTarget_eq] at h
  split at h
  · rename_i piece hpieces
    exact hresolved _ _ piece (by simp [hpieces]) h
  · rename_i first piece hpieces
    exact hresolved _ _ piece (by simp [hpieces]) h
  · rename_i first second piece hpieces
    exact hresolved _ _ piece (by simp [hpieces]) h
  · cases h

theorem solid_imports_gather (hfolder : IsSolidPath folder) (text : List Char) :
    ∀ imp ∈ (gather folder text).imports, IsSolidPath imp.path := by
  intro imp himp
  rw [gather_eq] at himp
  change imp ∈ ((Text.splitLines text).filterMap (saidImport? folder)).eraseDups at himp
  rw [List.mem_eraseDups, List.mem_filterMap] at himp
  rcases himp with ⟨raw, _, hsaid⟩
  rcases saidImport?_iff.mp hsaid with ⟨scope, target, hform, htarget⟩
  exact isSolidPath_of_readTarget hfolder hform.isWord.2 htarget

end LineFormat

/-!
# Imports of a file
-/

namespace Loader

variable {backend : Backend} {key : ConfigKey} {content : Content} {config : OwnerConfig}

theorem readContent_eq_some (h : readContent backend key content = .ok (some config)) :
    (∃ text, (LineFormat.read key text).1 = config) ∨
      ∃ text, BlockFormat.read key text = .ok config := by
  unfold readContent at h
  dsimp only at h
  split at h
  · cases h
  · rename_i text _
    split at h
    · cases h
    · rename_i found skipped hread
      cases h
      unfold Format.read at hread
      split at hread
      · exact .inl ⟨text, congrArg Prod.fst (Except.ok.inj hread)⟩
      · cases hblocks : BlockFormat.read key text with
        | error defect =>
            rw [hblocks] at hread
            cases hread
        | ok plain =>
            rw [hblocks] at hread
            cases hread
            exact .inr ⟨text, hblocks⟩

theorem key_of_readContent (h : readContent backend key content = .ok (some config)) :
    config.key = key := by
  rcases readContent_eq_some h with ⟨text, rfl⟩ | ⟨text, hblocks⟩
  · rfl
  · exact (BlockFormat.plain_of_read hblocks).1

theorem key_of_readFresh {tree : Tree} {revision : String}
    (h : readFresh tree backend key revision = .ok (.ok (some config))) : config.key = key := by
  rcases except_bind_eq_ok.mp h with ⟨content?, _, hread⟩
  cases content? with
  | none => cases hread
  | some content => exact key_of_readContent (Except.ok.inj hread)

theorem solidImports_of_readContent (hfolder : IsSolidPath key.folder)
    (h : readContent backend key content = .ok (some config)) : config.SolidImports := by
  intro imp himp
  rcases readContent_eq_some h with ⟨text, rfl⟩ | ⟨text, hblocks⟩
  · exact LineFormat.solid_imports_gather hfolder _ imp (List.mem_mergeSort.mp himp)
  · rw [(BlockFormat.plain_of_read hblocks).2.1] at himp
    cases himp

end Loader

/-!
# The file of an import
-/

namespace Hierarchy

variable {imp : Import} {defaultFileName : String}

theorem create_of_isSolidPath {folder : String} (h : IsSolidPath folder)
    (project branch : String) (fileName : Option String) :
    ConfigKey.create project branch folder fileName = .ok { project, branch, folder, fileName } := by
  rcases h with ⟨parts, rfl, hparts⟩
  unfold ConfigKey.create
  rw [normalizeFolder_ofParts hparts]
  rfl

/-- The root has no name, so that importing it is importing its default file. -/
theorem importKey_of_isSolidPath (h : IsSolidPath imp.path)
    (hdefault : Path.IsSolid defaultFileName.toList) (project branch : String) :
    ∃ key, importKey imp project branch = .ok key ∧ key.project = project ∧ key.branch = branch ∧
      key.IsSolid defaultFileName := by
  rcases h with ⟨parts, hpath, hparts⟩
  have hfolder : IsSolidPath (ofParts parts.dropLast) :=
    ⟨_, rfl, fun part hpart => hparts part (List.dropLast_subset parts hpart)⟩
  refine ⟨{ project, branch, folder := ofParts parts.dropLast
            fileName := some (Path.fileName imp.path) }, ?_, rfl, rfl, hfolder, ?_⟩
  · unfold importKey
    rw [hpath, parentFolder_ofParts hparts]
    change (ConfigKey.create project branch (ofParts parts.dropLast) _).mapError _ = _
    rw [create_of_isSolidPath hfolder]
    rfl
  · unfold Path.fileName
    rw [hpath, toList_ofParts]
    cases parts using List.reverseRecOn with
    | nil => exact hdefault
    | append_singleton above last =>
        have hlast := hparts last (by simp)
        rw [lastPart_append above hlast.slash_notMem]
        unfold ConfigKey.lookupName Text.nonempty?
        rw [Option.filter_some, if_pos, Option.getD_some, String.toList_ofList]
        · exact hlast
        · simpa using hlast.nonempty

end Hierarchy

/-!
# The path of a file
-/

namespace ConfigKey

variable {key : ConfigKey} {defaultFileName : String}

theorem filePath_ofParts {parts : List (List Char)} (hfolder : key.folder = ofParts parts)
    (hparts : ∀ part ∈ parts, IsComponent part) :
    key.filePath defaultFileName =
      ofParts (parts ++ [(key.lookupName defaultFileName).toList]) := by
  apply String.toList_inj.mp
  rw [toList_filePath, toList_ofParts, ofComponents_append_singleton, hfolder]
  cases parts using List.reverseRecOn with
  | nil =>
      have hroot : ofParts [] = "/" := rfl
      rw [if_pos hroot]
      rfl
  | append_singleton above last =>
      rw [if_neg (ofParts_ne_root above (hparts last (by simp)).nonempty), toList_ofParts,
        ofComponents_eq_slashed (by simp)]

theorem IsSolid.isSolidPath (h : key.IsSolid defaultFileName) :
    IsSolidPath (key.filePath defaultFileName) := by
  rcases h.folder with ⟨parts, hfolder, hparts⟩
  refine ⟨parts ++ [(key.lookupName defaultFileName).toList],
    filePath_ofParts hfolder fun part hpart => (hparts part hpart).toIsComponent, ?_⟩
  intro part hpart
  rcases List.mem_append.mp hpart with hpart | hpart
  · exact hparts part hpart
  · rw [List.mem_singleton.mp hpart]
    exact h.name

end ConfigKey
end Ownership
