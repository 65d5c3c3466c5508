import Mathlib.Data.List.Sort
import Ownership.Proofs.LineFormat.Forms
import Ownership.Proofs.Text.Sorting

/-!
# Statements that are read as written

Which statement a content is shows in its first word: imports and statements for some files begin
with a keyword, and an owner has no blank, so no keyword can stand in front of it.  Only `file:`
needs no blank behind it, so an owner must not begin with it.
-/

namespace Ownership
namespace LineFormat

variable {line s target globs owners pattern right : List Char} {row other : List String}
  {email glob : String} {c : Char} {scope : ImportScope}

/-!
# Owners and path expressions that can be written
-/

/-- An owner that can have a line of its own. -/
structure StandsAlone (email : String) : Prop where
  owner : isOwner email = true
  free : '#' ∉ email.toList
  notFile : Text.dropPrefix? fileWord.toList email.toList = none

/-- An owner that can stand among others behind the equals sign. -/
structure StandsInList (email : String) : Prop where
  owner : isOwner email = true
  free : ∀ c ∈ email.toList, c ≠ '#' ∧ c ≠ ','

/-- A path expression that can stand among others before the equals sign. -/
structure WritableGlob (glob : String) : Prop where
  nonempty : glob ≠ ""
  trimmed : Text.Trimmed glob.toList
  free : ∀ c ∈ glob.toList, c ≠ '#' ∧ c ≠ ',' ∧ c ≠ '=' ∧ Text.isLineBoundary c = false
  valid : Glob.isValid glob = true

theorem not_isBlank_of_isOwner (h : isOwner email = true) (hc : c ∈ email.toList) :
    Text.isBlank c = false := by
  unfold isOwner at h
  rw [Bool.or_eq_true, decide_eq_true_eq] at h
  rcases h with rfl | hvalid
  · have hstar : c = '*' := by simpa [everybody] using hc
    rw [hstar]
    decide
  · unfold Email.isValid at hvalid
    rw [Bool.and_eq_true, Bool.not_eq_true', List.any_eq_false] at hvalid
    exact Bool.not_eq_true _ ▸ hvalid.1 c hc

theorem ne_empty_of_isOwner (h : isOwner email = true) : email ≠ "" := by
  intro hempty
  rw [hempty] at h
  revert h
  decide

theorem toList_ne_nil (h : email ≠ "") : email.toList ≠ [] := by
  intro hnil
  exact h (String.toList_eq_nil_iff.mp hnil)

theorem StandsAlone.trimmed (h : StandsAlone email) : Text.Trimmed email.toList :=
  Text.trimmed_of_no_blank fun _ hc => not_isBlank_of_isOwner h.owner hc

theorem StandsInList.trimmed (h : StandsInList email) : Text.Trimmed email.toList :=
  Text.trimmed_of_no_blank fun _ hc => not_isBlank_of_isOwner h.owner hc

/-!
# Contents without a blank
-/

theorem readImport?_of_no_blank (hblank : ∀ c ∈ line, Text.isBlank c = false)
    (hfile : Text.dropPrefix? fileWord.toList line = none) : readImport? line = none := by
  rw [Option.eq_none_iff_forall_ne_some]
  rintro ⟨scope, target⟩ hread
  have hform := readImport?_iff.mp hread
  cases hform with
  | @everything blanks word hsome hblanks hword =>
      rcases List.exists_mem_of_ne_nil blanks hsome with ⟨c, hc⟩
      have hother := hblank c (by simp [hc])
      rw [hblanks c hc] at hother
      cases hother
  | globalOnly hblanks hword =>
      rw [Text.dropPrefix?_append] at hfile
      cases hfile

theorem readPerFile?_of_no_blank (hblank : ∀ c ∈ line, Text.isBlank c = false) :
    readPerFile? line = none := by
  rw [Option.eq_none_iff_forall_ne_some]
  rintro ⟨pattern, right⟩ hread
  have hform := readPerFile?_iff.mp hread
  cases hform with
  | @cut blank pattern right hfirst hsome hfree =>
      have hother := hblank blank (by simp)
      rw [hfirst] at hother
      cases hother

theorem ne_noParentWords_of_no_blank (hblank : ∀ c ∈ line, Text.isBlank c = false) :
    line ≠ noParentWords.toList := by
  intro heq
  have hspace : Text.isBlank ' ' = false := hblank ' ' (by rw [heq]; decide)
  revert hspace
  decide

/-!
# What a content is read as
-/

/-- An owner that is not the keyword of an import and its word. -/
structure OwnerForm (line : List Char) (email : String) : Prop where
  letters : line = email.toList
  owner : isOwner email = true
  other : ∀ scope target, ¬ ImportForm line scope target

theorem readStatement_noParent : readStatement noParentWords.toList = .noParent := by decide

theorem readStatement_importing (h : readStatement line = .importing scope target) :
    readImport? line = some (scope, target) := by
  unfold readStatement at h
  split at h
  · cases h
  split at h
  · cases h
  split at h
  · rename_i hread
    cases h
    exact hread
  split at h
  · cases h
  split at h
  · cases h
  · cases h

theorem readStatement_perFile_eq (h : readStatement line = .perFile globs owners) :
    readPerFile? line = some (globs, owners) := by
  unfold readStatement at h
  split at h
  · cases h
  split at h
  · cases h
  split at h
  · cases h
  split at h
  · rename_i hread
    cases h
    exact hread
  split at h
  · cases h
  · cases h

theorem readStatement_owner_eq (h : readStatement line = .owner s) :
    s = line ∧ isOwner (String.ofList line) = true ∧ readImport? line = none := by
  unfold readStatement at h
  split at h
  · cases h
  split at h
  · cases h
  split at h
  · cases h
  rename_i himport
  split at h
  · cases h
  split at h
  · rename_i howner
    cases h
    exact ⟨rfl, howner, himport⟩
  · cases h

theorem readStatement_nothing_iff : readStatement line = .nothing ↔ line = [] := by
  constructor
  · intro h
    unfold readStatement at h
    split at h
    · rename_i hempty
      exact List.isEmpty_iff.mp hempty
    · grind
  · intro h
    rw [h]
    rfl

theorem readStatement_noParent_iff : readStatement line = .noParent ↔
    line = noParentWords.toList := by
  constructor
  · intro h
    unfold readStatement at h
    grind
  · intro h
    rw [h]
    exact readStatement_noParent

theorem not_flag_of_head {first : Char} (h : line.head? = some first) (hfirst : first ≠ 's') :
    line.isEmpty = false ∧ line ≠ noParentWords.toList := by
  rcases List.head?_eq_some_iff.mp h with ⟨more, rfl⟩
  refine ⟨rfl, ?_⟩
  intro heq
  exact hfirst (List.cons.inj heq).1

theorem readStatement_importing_iff : readStatement line = .importing scope target ↔
    ImportForm line scope target := by
  constructor
  · intro h
    exact readImport?_iff.mp (readStatement_importing h)
  · intro h
    have hplain : line.isEmpty = false ∧ line ≠ noParentWords.toList := by
      rcases head_of_importForm h with hhead | hhead
      · exact not_flag_of_head hhead (by decide)
      · exact not_flag_of_head hhead (by decide)
    unfold readStatement
    rw [hplain.1, if_neg Bool.false_ne_true, if_neg hplain.2, readImport?_iff.mpr h]

theorem readStatement_perFile_iff : readStatement line = .perFile pattern right ↔
    PerFileForm line pattern right := by
  constructor
  · intro h
    exact readPerFile?_iff.mp (readStatement_perFile_eq h)
  · intro h
    have hhead := head_of_perFileForm h
    have hplain := not_flag_of_head hhead (by decide)
    have himport : readImport? line = none := by
      rw [Option.eq_none_iff_forall_ne_some]
      intro found hfound
      have hform : ImportForm line found.1 found.2 := readImport?_iff.mp hfound
      have hother := head_of_importForm hform
      rw [hhead] at hother
      revert hother
      decide
    unfold readStatement
    rw [hplain.1, if_neg Bool.false_ne_true, if_neg hplain.2, himport]
    dsimp only
    rw [readPerFile?_iff.mpr h]

theorem readStatement_owner_iff {letters : List Char} : readStatement line = .owner letters ↔
    OwnerForm line (String.ofList letters) := by
  constructor
  · intro h
    rcases readStatement_owner_eq h with ⟨rfl, howner, himport⟩
    refine ⟨String.toList_ofList.symm, howner, ?_⟩
    intro scope target hform
    rw [readImport?_iff.mpr hform] at himport
    cases himport
  · intro h
    rcases h with ⟨hletters, howner, hother⟩
    rw [String.toList_ofList] at hletters
    subst hletters
    have hblank : ∀ c ∈ line, Text.isBlank c = false := by
      intro c hc
      apply not_isBlank_of_isOwner howner
      rw [String.toList_ofList]
      exact hc
    have hempty : line.isEmpty = false := by
      rw [List.isEmpty_eq_false_iff]
      rintro rfl
      exact ne_empty_of_isOwner howner rfl
    have himport : readImport? line = none := by
      rw [Option.eq_none_iff_forall_ne_some]
      intro found hfound
      exact hother found.1 found.2 (readImport?_iff.mp hfound)
    unfold readStatement
    rw [hempty, if_neg Bool.false_ne_true, if_neg (ne_noParentWords_of_no_blank hblank), himport]
    dsimp only
    rw [readPerFile?_of_no_blank hblank]
    dsimp only
    rw [howner, if_pos rfl]

theorem ownerForm_iff : OwnerForm line email ↔ readStatement line = .owner email.toList := by
  rw [readStatement_owner_iff, String.ofList_toList]

/-!
# Reading what was written
-/

theorem readStatement_owner (h : StandsAlone email) :
    readStatement email.toList = .owner email.toList := by
  have hblank : ∀ c ∈ email.toList, Text.isBlank c = false :=
    fun c hc => not_isBlank_of_isOwner h.owner hc
  rw [← ownerForm_iff]
  refine ⟨rfl, h.owner, ?_⟩
  intro scope target hform
  have hnone := readImport?_of_no_blank hblank h.notFile
  rw [readImport?_iff.mpr hform] at hnone
  cases hnone

theorem readStatement_perFile (hne : globs ≠ []) (hfree : '=' ∉ globs) :
    readStatement (perFileWord.toList ++ ' ' :: (globs ++ '=' :: right)) =
      .perFile globs (Text.trim right) :=
  readStatement_perFile_iff.mpr (.cut (by decide) hne hfree)

/-!
# Reading imports
-/

def importKeyword : ImportScope → List Char
  | .everything => includeWord.toList ++ [' ']
  | .globalOnly => fileWord.toList ++ [' ']

theorem readImport?_keyword (scope : ImportScope) {word : List Char}
    (hhead : ∀ c ∈ word.head?, Text.isBlank c = false) :
    readImport? (importKeyword scope ++ word) =
      if word.isEmpty || word.any Text.isBlank then none else some (scope, word) := by
  have hword : Text.trimLeft word = word := Text.trimLeft_of_head hhead
  cases scope with
  | everything =>
      have hdrop : Text.dropPrefix? includeWord.toList (importKeyword .everything ++ word) =
          some (' ' :: word) := Text.dropPrefix?_append _ _
      unfold readImport?
      rw [hdrop]
      change (if (Text.trimLeft word).isEmpty || (Text.trimLeft word).any Text.isBlank then none
        else some (ImportScope.everything, Text.trimLeft word)) = _
      rw [hword]
  | globalOnly =>
      have hinclude : Text.dropPrefix? includeWord.toList (importKeyword .globalOnly ++ word) =
          none := rfl
      have hdrop : Text.dropPrefix? fileWord.toList (importKeyword .globalOnly ++ word) =
          some (' ' :: word) := Text.dropPrefix?_append _ _
      unfold readImport?
      rw [hinclude, hdrop]
      change (if (Text.trimLeft word).isEmpty || (Text.trimLeft word).any Text.isBlank then none
        else some (ImportScope.globalOnly, Text.trimLeft word)) = _
      rw [hword]

theorem readImport?_written (scope : ImportScope) (hne : target ≠ [])
    (hblank : ∀ c ∈ target, Text.isBlank c = false) :
    readImport? (importKeyword scope ++ target) = some (scope, target) := by
  have hempty : target.isEmpty = false := List.isEmpty_eq_false_iff.mpr hne
  have hany : target.any Text.isBlank = false := by
    rw [List.any_eq_false]
    intro c hc
    rw [hblank c hc]
    exact Bool.false_ne_true
  rw [readImport?_keyword scope (Text.trimmed_of_no_blank hblank).1, hempty, hany]
  rfl

theorem readStatement_importKeyword (scope : ImportScope) (rest : List Char) :
    readStatement (importKeyword scope ++ rest) =
      match readImport? (importKeyword scope ++ rest) with
      | some (found, target) => .importing found target
      | none => .unrecognized := by
  have hempty : (importKeyword scope ++ rest).isEmpty = false := by
    cases scope with
    | everything => rfl
    | globalOnly => rfl
  have hflag : importKeyword scope ++ rest ≠ noParentWords.toList := by
    intro heq
    cases scope with
    | everything => exact absurd (List.cons.inj heq).1 (by decide)
    | globalOnly => exact absurd (List.cons.inj heq).1 (by decide)
  have hperFile : readPerFile? (importKeyword scope ++ rest) = none := by
    cases scope with
    | everything => rfl
    | globalOnly => rfl
  have howner : isOwner (String.ofList (importKeyword scope ++ rest)) = false := by
    rw [← Bool.not_eq_true]
    intro htrue
    have hspace : Text.isBlank ' ' = false := by
      apply not_isBlank_of_isOwner htrue
      rw [String.toList_ofList]
      apply List.mem_append_left
      cases scope with
      | everything => decide
      | globalOnly => decide
    revert hspace
    decide
  unfold readStatement
  rw [hempty, if_neg Bool.false_ne_true, if_neg hflag, hperFile]
  dsimp only
  rw [howner]
  rfl

theorem readStatement_import (scope : ImportScope) (hne : target ≠ [])
    (hblank : ∀ c ∈ target, Text.isBlank c = false) :
    readStatement (importKeyword scope ++ target) = .importing scope target := by
  rw [readStatement_importKeyword, readImport?_written scope hne hblank]

/-!
# What was read
-/

theorem readImport?_eq_some (h : readImport? line = some (scope, target)) :
    target ≠ [] ∧ ∀ c ∈ target, Text.isBlank c = false ∧ c ∈ line := by
  have hform := readImport?_iff.mp h
  cases hform with
  | everything hsome hblanks hword =>
      refine ⟨hword.1, ?_⟩
      intro c hc
      exact ⟨hword.2 c hc, by simp [hc]⟩
  | globalOnly hblanks hword =>
      refine ⟨hword.1, ?_⟩
      intro c hc
      exact ⟨hword.2 c hc, by simp [hc]⟩

theorem readPerFile?_eq_some (h : readPerFile? line = some (globs, owners)) :
    '=' ∉ globs ∧ (∀ c ∈ globs, c ∈ line) ∧ ∀ c ∈ owners, c ∈ line := by
  have hform := readPerFile?_iff.mp h
  cases hform with
  | cut hblank hsome hfree =>
      refine ⟨hfree, ?_, ?_⟩
      · intro c hc
        simp [hc]
      · intro c hc
        simp [Text.mem_of_mem_trim hc]

/-- An owner that was read as one can stand alone: it would have been an import otherwise. -/
theorem standsAlone_of_read (hfree : '#' ∉ line) (h : readStatement line = .owner s) :
    StandsAlone (String.ofList s) := by
  rcases readStatement_owner_eq h with ⟨rfl, howner, himport⟩
  refine ⟨howner, ?_, ?_⟩
  · rw [String.toList_ofList]
    exact hfree
  have hblank : ∀ c ∈ s, Text.isBlank c = false := by
    intro c hc
    apply not_isBlank_of_isOwner howner
    rw [String.toList_ofList]
    exact hc
  rw [String.toList_ofList, Option.eq_none_iff_forall_ne_some]
  intro rest hdrop
  rw [Text.dropPrefix?_eq_some hdrop] at hblank howner himport
  have hword : IsWord rest := by
    constructor
    · -- the keyword by itself is no owner
      rintro rfl
      revert howner
      decide
    · intro c hc
      exact hblank c (List.mem_append_right _ hc)
  have hform : ImportForm (fileWord.toList ++ rest) .globalOnly rest :=
    .globalOnly (List.forall_mem_nil _) hword
  rw [readImport?_iff.mpr hform] at himport
  cases himport

/-!
# Rows between commas
-/

theorem mem_commaPieces {piece : String} (h : piece ∈ commaPieces s) :
    Text.Trimmed piece.toList ∧ ∀ c ∈ piece.toList, c ≠ ',' ∧ c ∈ s := by
  rcases List.mem_map.mp h with ⟨letters, hletters, rfl⟩
  rw [String.toList_ofList]
  refine ⟨Text.trimmed_trim letters, ?_⟩
  intro c hc
  have hpiece := Text.mem_piece hletters (Text.mem_of_mem_trim hc)
  exact ⟨hpiece.2, hpiece.1⟩

theorem commaPieces_joined {pieces : List String} (hne : pieces ≠ [])
    (htrim : ∀ piece ∈ pieces, Text.Trimmed piece.toList)
    (hfree : ∀ piece ∈ pieces, ',' ∉ piece.toList) :
    commaPieces (",".intercalate pieces).toList = pieces := by
  have hsplit : Text.splitOn ',' (Text.joinWith ',' (pieces.map String.toList)) =
      pieces.map String.toList := by
    apply Text.splitOn_joinWith
    · simpa using hne
    · intro piece hpiece
      rcases List.mem_map.mp hpiece with ⟨text, htext, rfl⟩
      exact hfree text htext
  unfold commaPieces
  rw [String.toList_intercalate]
  change (Text.splitOn ',' (Text.joinWith ',' (pieces.map String.toList))).map _ = _
  rw [hsplit, List.map_map]
  have hpieces : ∀ piece ∈ pieces,
      ((fun letters => String.ofList (Text.trim letters)) ∘ String.toList) piece = piece := by
    intro piece hpiece
    change String.ofList (Text.trim piece.toList) = piece
    rw [Text.trim_of_trimmed (htrim piece hpiece), String.ofList_toList]
  rw [List.map_congr_left hpieces]
  exact List.map_id pieces

/-!
# Rows
-/

/-- The path expressions between commas, in order and each once: there are some, and all of them are
valid. -/
structure IsRow (pattern : List Char) (row : List String) : Prop where
  mem : ∀ glob, glob ∈ row ↔ glob ≠ "" ∧ glob ∈ commaPieces pattern
  sorted : row.Pairwise (· < ·)
  some : row ≠ []
  valid : ∀ glob ∈ row, Glob.isValid glob = true

def namedRow (pattern : List Char) : List String :=
  Text.sortedDistinct ((commaPieces pattern).filter fun glob => !glob.isEmpty)

theorem mem_namedRow {glob : String} :
    glob ∈ namedRow pattern ↔ glob ≠ "" ∧ glob ∈ commaPieces pattern := by
  unfold namedRow
  rw [Text.mem_sortedDistinct, List.mem_filter, Bool.not_eq_true', ← Bool.not_eq_true,
    String.isEmpty_iff, and_comm]

theorem pairwise_namedRow (pattern : List Char) : (namedRow pattern).Pairwise (· < ·) :=
  Text.pairwise_sortedDistinct _

theorem isRow_iff : IsRow pattern row ↔
    row = namedRow pattern ∧ row ≠ [] ∧ ∀ glob ∈ row, Glob.isValid glob = true := by
  constructor
  · intro h
    refine ⟨?_, h.some, h.valid⟩
    apply h.sorted.eq_of_mem_iff (pairwise_namedRow pattern)
    intro glob
    rw [h.mem, mem_namedRow]
  · intro h
    rcases h with ⟨rfl, hsome, hvalid⟩
    exact ⟨fun _ => mem_namedRow, pairwise_namedRow pattern, hsome, hvalid⟩

theorem isRow_unique (h : IsRow pattern row) (hother : IsRow pattern other) : other = row := by
  rw [(isRow_iff.mp h).1, (isRow_iff.mp hother).1]

end LineFormat
end Ownership
