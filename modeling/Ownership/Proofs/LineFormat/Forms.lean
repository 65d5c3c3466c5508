import Ownership.Proofs.LineFormat.Content

/-!
# The forms of statements

An import is a keyword and one word, and a statement for some files has path expressions between its
keyword and the first equals sign.  Each of the two is read from exactly the lines of its form.
-/

namespace Ownership
namespace LineFormat

/-!
# Forms
-/

def IsWord (word : List Char) : Prop := word ≠ [] ∧ ∀ c ∈ word, Text.isBlank c = false

/-- A keyword of imports and one word behind it.  Only `file:` can stand right in front of the
word. -/
inductive ImportForm : List Char → ImportScope → List Char → Prop
  | everything {blanks word : List Char} (hsome : blanks ≠ [])
      (hblanks : ∀ c ∈ blanks, Text.isBlank c = true) (hword : IsWord word) :
      ImportForm (includeWord.toList ++ (blanks ++ word)) .everything word
  | globalOnly {blanks word : List Char} (hblanks : ∀ c ∈ blanks, Text.isBlank c = true)
      (hword : IsWord word) : ImportForm (fileWord.toList ++ (blanks ++ word)) .globalOnly word

/-- A keyword, a blank, something that goes up to the first equals sign, and the rest. -/
inductive PerFileForm : List Char → List Char → List Char → Prop
  | cut {blank : Char} {pattern right : List Char} (hblank : Text.isBlank blank = true)
      (hsome : pattern ≠ []) (hfree : '=' ∉ pattern) :
      PerFileForm (perFileWord.toList ++ blank :: (pattern ++ '=' :: right)) pattern
        (Text.trim right)

variable {line target word rest pattern right : List Char} {scope asked : ImportScope}
  {c : Char}

/-!
# Imports
-/

theorem trimLeft_blanks {blanks : List Char} (hblanks : ∀ c ∈ blanks, Text.isBlank c = true)
    (hword : IsWord word) : Text.trimLeft (blanks ++ word) = word := by
  have hhead : Text.trimLeft word = word :=
    Text.trimLeft_of_head (Text.trimmed_of_no_blank hword.2).1
  unfold Text.trimLeft at hhead ⊢
  rw [List.dropWhile_append_of_pos hblanks, hhead]

theorem word_iff :
    (if (Text.trimLeft rest).isEmpty || (Text.trimLeft rest).any Text.isBlank then none
      else some (asked, Text.trimLeft rest)) = some (scope, target) ↔
    scope = asked ∧ IsWord target ∧
      ∃ blanks, (∀ c ∈ blanks, Text.isBlank c = true) ∧ rest = blanks ++ target := by
  constructor
  · intro h
    split at h
    · cases h
    · rename_i hnot
      cases h
      rw [Bool.not_eq_true, Bool.or_eq_false_iff, List.any_eq_false] at hnot
      refine ⟨rfl, ⟨List.isEmpty_eq_false_iff.mp hnot.1, ?_⟩, rest.takeWhile Text.isBlank, ?_, ?_⟩
      · intro c hc
        exact Bool.not_eq_true _ ▸ hnot.2 c hc
      · intro c hc
        exact List.mem_takeWhile_imp hc
      · exact List.takeWhile_append_dropWhile.symm
  · intro h
    rcases h with ⟨rfl, hword, blanks, hblanks, rfl⟩
    have hempty : target.isEmpty = false := List.isEmpty_eq_false_iff.mpr hword.1
    have hany : target.any Text.isBlank = false := by
      rw [List.any_eq_false]
      intro c hc
      rw [hword.2 c hc]
      exact Bool.false_ne_true
    rw [trimLeft_blanks hblanks hword, hempty, hany]
    rfl

theorem readImport?_iff : readImport? line = some (scope, target) ↔
    ImportForm line scope target := by
  constructor
  · intro h
    unfold readImport? at h
    dsimp only at h
    split at h
    · rename_i first rest hdrop
      split at h
      · rename_i hblank
        rcases word_iff.mp h with ⟨rfl, hword, blanks, hblanks, rfl⟩
        rw [Text.dropPrefix?_eq_some hdrop]
        refine .everything (List.cons_ne_nil first blanks) ?_ hword
        intro c hc
        rcases List.mem_cons.mp hc with rfl | hc
        · exact hblank
        · exact hblanks c hc
      · cases h
    · cases h
    · rcases Option.bind_eq_some_iff.mp h with ⟨rest, hdrop, h⟩
      rcases word_iff.mp h with ⟨rfl, hword, blanks, hblanks, rfl⟩
      rw [Text.dropPrefix?_eq_some hdrop]
      exact .globalOnly hblanks hword
  · intro h
    unfold readImport?
    dsimp only
    cases h with
    | @everything blanks word hsome hblanks hword =>
        cases blanks with
        | nil => exact absurd rfl hsome
        | cons first blanks =>
            rw [List.forall_mem_cons] at hblanks
            rw [List.cons_append, Text.dropPrefix?_append]
            dsimp only
            rw [if_pos hblanks.1]
            exact word_iff.mpr ⟨rfl, hword, blanks, hblanks.2, rfl⟩
    | @globalOnly blanks word hblanks hword =>
        have hinclude : Text.dropPrefix? includeWord.toList
            (fileWord.toList ++ (blanks ++ target)) = none := rfl
        rw [hinclude, Text.dropPrefix?_append]
        exact word_iff.mpr ⟨rfl, hword, blanks, hblanks, rfl⟩

theorem ImportForm.isWord (h : ImportForm line scope target) : IsWord target := by
  cases h with
  | everything hsome hblanks hword => exact hword
  | globalOnly hblanks hword => exact hword

theorem head_of_importForm (h : ImportForm line scope target) :
    line.head? = some 'i' ∨ line.head? = some 'f' := by
  cases h with
  | everything => exact .inl rfl
  | globalOnly => exact .inr rfl

/-!
# Statements for some files
-/

theorem readPerFile?_cut {blank : Char} (hblank : Text.isBlank blank = true)
    (hne : pattern ≠ []) (hfree : '=' ∉ pattern) :
    readPerFile? (perFileWord.toList ++ blank :: (pattern ++ '=' :: right)) =
      some (pattern, Text.trim right) := by
  have hcut : Text.cutAt? '=' (blank :: (pattern ++ '=' :: right)) =
      some (blank :: pattern, right) := by
    apply Text.cutAt?_append (s := blank :: pattern)
    rw [List.mem_cons, not_or]
    refine ⟨?_, hfree⟩
    rintro rfl
    revert hblank
    decide
  unfold readPerFile?
  rw [Text.dropPrefix?_append]
  change (Text.cutAt? '=' (blank :: (pattern ++ '=' :: right)) >>= _) = _
  rw [hcut]
  cases pattern with
  | nil => exact absurd rfl hne
  | cons first more => exact if_pos hblank

theorem readPerFile?_iff : readPerFile? line = some (pattern, right) ↔
    PerFileForm line pattern right := by
  constructor
  · intro h
    unfold readPerFile? at h
    rcases Option.bind_eq_some_iff.mp h with ⟨rest, hdrop, hrest⟩
    rcases Option.bind_eq_some_iff.mp hrest with ⟨⟨before, behind⟩, hcut, hparts⟩
    rcases Text.eq_append_of_cutAt? hcut with ⟨rfl, hfree⟩
    rw [Text.dropPrefix?_eq_some hdrop]
    dsimp only at hparts
    split at hparts
    · split at hparts
      · rename_i hblank
        cases hparts
        rw [List.mem_cons, not_or] at hfree
        exact .cut hblank (List.cons_ne_nil _ _) hfree.2
      · cases hparts
    · cases hparts
  · intro h
    cases h with
    | cut hblank hsome hfree => exact readPerFile?_cut hblank hsome hfree

theorem head_of_perFileForm (h : PerFileForm line pattern right) : line.head? = some 'p' := by
  cases h
  rfl

end LineFormat
end Ownership
