import Ownership.Path
import Ownership.Proofs.Text.Pieces

/-!
# Normal forms of paths

A normal form is a slash and the components between slashes, none of which is empty or made of dots
alone.  Normalizing gives a normal form, and it leaves one alone whose ends are not blank.
-/

namespace Ownership
namespace Path

variable {path form folder name normal : String} {letters : List Char} {c : Char}

/-!
# Components of a normal form
-/

/-- A component that normalizing keeps as it is. -/
structure IsComponent (part : List Char) : Prop where
  nonempty : part ≠ []
  notDot : part ≠ ['.']
  notDots : part ≠ ['.', '.']
  free : ∀ c ∈ part, c ≠ '/' ∧ c ≠ '\\'

def IsNormal (letters : List Char) : Prop :=
  ∃ parts, letters = ofComponents parts ∧ ∀ part ∈ parts, IsComponent part

theorem mem_unifySlashes (h : c ∈ unifySlashes letters) : c ≠ '\\' ∧ (c = '/' ∨ c ∈ letters) := by
  have hmapped := Text.mem_of_mem_trim h
  rcases List.mem_map.mp hmapped with ⟨original, horiginal, rfl⟩
  split
  · exact ⟨by decide, .inl rfl⟩
  · rename_i hne
    exact ⟨hne, .inr horiginal⟩

theorem unifySlashes_of_free (hfree : '\\' ∉ letters) (htrim : Text.Trimmed letters) :
    unifySlashes letters = letters := by
  have hsame : (letters.map fun c => if c = '\\' then '/' else c) = letters := by
    apply (List.map_congr_left ?_).trans (List.map_id letters)
    intro c hc
    have hne : c ≠ '\\' := by
      intro heq
      exact hfree (heq ▸ hc)
    exact if_neg hne
  unfold unifySlashes
  rw [hsame, Text.trim_of_trimmed htrim]

theorem components_ofComponents {parts : List (List Char)} (h : ∀ part ∈ parts, IsComponent part) :
    components (ofComponents parts) = parts := by
  have hkeep : parts.filter (fun part => decide (part ≠ [] ∧ part ≠ ['.'])) = parts := by
    rw [List.filter_eq_self]
    intro part hpart
    exact decide_eq_true ⟨(h part hpart).nonempty, (h part hpart).notDot⟩
  unfold components ofComponents
  rw [Text.splitOn, if_pos rfl, List.filter_cons_of_neg (by simp)]
  cases parts with
  | nil => rfl
  | cons first others =>
      rw [Text.splitOn_joinWith (List.cons_ne_nil first others), hkeep]
      intro part hpart hslash
      exact ((h part hpart).free '/' hslash).1 rfl

/-!
# Normalizing
-/

theorem mem_component {part : List Char} (hpart : part ∈ components (unifySlashes letters))
    (hc : c ∈ part) : c ≠ '/' ∧ c ∈ unifySlashes letters := by
  have hpiece := Text.mem_piece (List.mem_filter.mp hpart).1 hc
  exact ⟨hpiece.2, hpiece.1⟩

theorem isComponent_of_mem {part : List Char} (hpart : part ∈ components (unifySlashes letters))
    (hclimbs : ['.', '.'] ∉ components (unifySlashes letters)) : IsComponent part := by
  have hkept := of_decide_eq_true (List.mem_filter.mp hpart).2
  refine ⟨hkept.1, hkept.2, fun heq => hclimbs (heq ▸ hpart), ?_⟩
  intro c hc
  exact ⟨(mem_component hpart hc).1, (mem_unifySlashes (mem_component hpart hc).2).1⟩

theorem normalForm_eq_ok {result : List Char} (h : normalForm letters = .ok result) :
    IsNormal result ∧ ∀ c ∈ result, c = '/' ∨ c ∈ letters := by
  unfold normalForm at h
  dsimp only at h
  split at h
  · cases h
  split at h
  · cases h
  rename_i _ hclimbs
  cases h
  constructor
  · exact ⟨_, rfl, fun part hmem => isComponent_of_mem hmem hclimbs⟩
  · intro c hc
    rcases List.mem_cons.mp hc with rfl | hc
    · exact .inl rfl
    rcases Text.mem_joinWith hc with rfl | ⟨part, hmem, hc⟩
    · exact .inl rfl
    · exact (mem_unifySlashes (mem_component hmem hc).2).2

theorem normalForm_of_isNormal (h : IsNormal letters) (htrim : Text.Trimmed letters) :
    normalForm letters = .ok letters := by
  rcases h with ⟨parts, rfl, hparts⟩
  have hfree : '\\' ∉ ofComponents parts := by
    intro hmem
    rcases List.mem_cons.mp hmem with hslash | hmem
    · revert hslash
      decide
    rcases Text.mem_joinWith hmem with hslash | ⟨part, hpart, hc⟩
    · revert hslash
      decide
    · exact ((hparts part hpart).free '\\' hc).2 rfl
  have hclimbs : ['.', '.'] ∉ parts := fun hmem => (hparts _ hmem).notDots rfl
  have habsolute : ¬(ofComponents parts).head? ≠ some '/' := not_not_intro rfl
  unfold normalForm
  dsimp only
  rw [unifySlashes_of_free hfree htrim, components_ofComponents hparts, if_neg habsolute,
    if_neg hclimbs]

/-!
# Paths as strings
-/

theorem normalize_eq_ok (h : normalize path = .ok normal) :
    IsNormal normal.toList ∧ ∀ c ∈ normal.toList, c = '/' ∨ c ∈ path.toList := by
  unfold normalize at h
  split at h
  · rename_i result hresult
    cases h
    rw [String.toList_ofList]
    exact normalForm_eq_ok hresult
  · cases h

theorem normalize_of_isNormal (h : IsNormal path.toList) (htrim : Text.Trimmed path.toList) :
    normalize path = .ok path := by
  unfold normalize
  rw [normalForm_of_isNormal h htrim]
  dsimp only
  rw [String.ofList_toList]

theorem head_of_isNormal (h : IsNormal letters) : letters.head? = some '/' := by
  rcases h with ⟨parts, rfl, _⟩
  rfl

theorem normalizeFolder_eq_ok (h : normalizeFolder folder = .ok normal) :
    IsNormal normal.toList ∧ ∀ c ∈ normal.toList, c = '/' ∨ c ∈ folder.toList := by
  unfold normalizeFolder at h
  split at h
  · exact normalize_eq_ok h
  · refine ⟨(normalize_eq_ok h).1, ?_⟩
    intro c hc
    rcases (normalize_eq_ok h).2 c hc with hslash | hmem
    · exact .inl hslash
    · simpa using hmem

theorem join_eq_ok (h : join folder name = .ok normal) :
    IsNormal normal.toList ∧
      ∀ c ∈ normal.toList, c = '/' ∨ c ∈ folder.toList ∨ c ∈ name.toList := by
  unfold join at h
  cases hbase : normalizeFolder folder with
  | error defect =>
      rw [hbase] at h
      cases h
  | ok base =>
      rw [hbase] at h
      change (if base = "/" then normalize ("/" ++ name) else normalize (base ++ "/" ++ name)) = _ at h
      have hfolder := (normalizeFolder_eq_ok hbase).2
      split at h
      · refine ⟨(normalize_eq_ok h).1, ?_⟩
        intro c hc
        rcases (normalize_eq_ok h).2 c hc with hslash | hmem
        · exact .inl hslash
        · simp only [String.toList_append, List.mem_append] at hmem
          rcases hmem with hslash | hname
          · exact .inl (List.mem_singleton.mp hslash)
          · exact .inr (.inr hname)
      · refine ⟨(normalize_eq_ok h).1, ?_⟩
        intro c hc
        rcases (normalize_eq_ok h).2 c hc with hslash | hmem
        · exact .inl hslash
        · simp only [String.toList_append, List.mem_append] at hmem
          rcases hmem with (hmem | hslash) | hname
          · exact (hfolder c hmem).imp_right .inl
          · exact .inl (List.mem_singleton.mp hslash)
          · exact .inr (.inr hname)

end Path
end Ownership
