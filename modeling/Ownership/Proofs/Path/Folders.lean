import Mathlib.Data.List.Infix
import Mathlib.Data.List.Nodup
import Ownership.Path.Ancestors
import Ownership.Proofs.Path.NormalForms

/-!
# The folders above a path

A path is looked up by climbing from folder to folder, and every step normalizes once more what is
in normal form already.  This changes nothing as long as no component ends with a blank.  A blank at
the very end of a path is lost at the second time, and with it the last component if it becomes
empty or dots.
-/

namespace Ownership
namespace Path

variable {parts above rest : List (List Char)} {part last : List Char}

/-!
# Slashes in front of components
-/

def slashed (parts : List (List Char)) : List Char := parts.flatMap fun part => '/' :: part

theorem slashed_append (parts others : List (List Char)) :
    slashed (parts ++ others) = slashed parts ++ slashed others :=
  List.flatMap_append

theorem slashed_singleton (part : List Char) : slashed [part] = '/' :: part :=
  List.flatMap_singleton ..

theorem ofComponents_eq_slashed (h : parts ≠ []) : ofComponents parts = slashed parts := by
  unfold ofComponents Text.joinWith
  induction parts with
  | nil => exact absurd rfl h
  | cons first others ih =>
      cases others with
      | nil => rw [List.intercalate_singleton, slashed_singleton]
      | cons next others =>
          have hlater := ih (List.cons_ne_nil next others)
          rw [List.intercalate_cons_cons, List.append_assoc, List.singleton_append, hlater]
          rfl

theorem ofComponents_append_singleton (above : List (List Char)) (last : List Char) :
    ofComponents (above ++ [last]) = slashed above ++ '/' :: last := by
  rw [ofComponents_eq_slashed (by simp), slashed_append, slashed_singleton]

theorem components_slashed (h : ∀ part ∈ parts, '/' ∉ part) :
    components (slashed parts) = parts.filter fun part => decide (part ≠ [] ∧ part ≠ ['.']) := by
  cases parts with
  | nil => rfl
  | cons first others =>
      have hne := List.cons_ne_nil first others
      rw [← ofComponents_eq_slashed hne]
      unfold components ofComponents
      rw [Text.splitOn, if_pos rfl, Text.splitOn_joinWith hne h,
        List.filter_cons_of_neg (by simp)]

/-!
# Solid components
-/

/-- A component that keeps its end when it stands at the end of a path. -/
structure IsSolid (part : List Char) : Prop extends IsComponent part where
  solid : ∀ c ∈ part.getLast?, Text.isBlank c = false

theorem IsComponent.slash_notMem (h : IsComponent part) : '/' ∉ part := fun hmem =>
  (h.free '/' hmem).1 rfl

def ofParts (parts : List (List Char)) : String := String.ofList (ofComponents parts)

@[simp] theorem toList_ofParts (parts : List (List Char)) :
    (ofParts parts).toList = ofComponents parts :=
  String.toList_ofList

theorem length_ofParts_append_singleton (hlast : last ≠ []) (h : above <+: parts) :
    (ofParts above).length < (ofParts (parts ++ [last])).length := by
  have hpos := List.length_pos_iff.mpr hlast
  rw [← String.length_toList, ← String.length_toList, toList_ofParts, toList_ofParts,
    ofComponents_append_singleton, List.length_append, List.length_cons]
  by_cases hroot : above = []
  · rw [hroot]
    change 1 < _
    omega
  · rcases h with ⟨rest, rfl⟩
    rw [ofComponents_eq_slashed hroot, slashed_append, List.length_append]
    omega

theorem ofParts_ne_root (above : List (List Char)) (h : last ≠ []) :
    ofParts (above ++ [last]) ≠ "/" := by
  intro heq
  have hlonger := length_ofParts_append_singleton h (List.nil_prefix (l := above))
  rw [heq] at hlonger
  revert hlonger
  decide

theorem exists_parts {path normal : String} (h : normalize path = .ok normal) :
    ∃ parts, normal = ofParts parts ∧ ∀ part ∈ parts, IsComponent part := by
  rcases (normalize_eq_ok h).1 with ⟨parts, hform, hparts⟩
  exact ⟨parts, String.toList_inj.mp (hform.trans (toList_ofParts parts).symm), hparts⟩

theorem trimmed_ofComponents (h : ∀ part ∈ parts, IsSolid part) :
    Text.Trimmed (ofComponents parts) := by
  refine ⟨fun c hc => ?_, fun c hc => ?_⟩
  · cases hc
    decide
  · induction parts using List.reverseRecOn with
    | nil =>
        cases hc
        decide
    | append_singleton above last _ =>
        have hlast := h last (by simp)
        rw [ofComponents_append_singleton, List.getLast?_append_of_ne_nil _ (by simp),
          List.getLast?_cons_of_ne_nil hlast.nonempty] at hc
        exact hlast.solid c hc

theorem isNormal_ofComponents (h : ∀ part ∈ parts, IsSolid part) :
    IsNormal (ofComponents parts) :=
  ⟨parts, rfl, fun part hpart => (h part hpart).toIsComponent⟩

theorem normalize_ofParts (h : ∀ part ∈ parts, IsSolid part) :
    normalize (ofParts parts) = .ok (ofParts parts) := by
  apply normalize_of_isNormal
  · rw [toList_ofParts]
    exact isNormal_ofComponents h
  · rw [toList_ofParts]
    exact trimmed_ofComponents h

theorem normalizeFolder_ofParts (h : ∀ part ∈ parts, IsSolid part) :
    normalizeFolder (ofParts parts) = .ok (ofParts parts) := by
  have habsolute : (ofParts parts).toList.head? = some '/' := by
    rw [toList_ofParts]
    rfl
  unfold normalizeFolder
  rw [if_pos habsolute]
  exact normalize_ofParts h

/-!
# Normalizing a second time
-/

theorem unify_slashed {c : Char} (h : ∀ part ∈ parts, IsComponent part) (hc : c ∈ slashed parts) :
    (if c = '\\' then '/' else c) = c := by
  refine if_neg ?_
  rcases List.mem_flatMap.mp hc with ⟨part, hpart, hc⟩
  rcases List.mem_cons.mp hc with rfl | hc
  · decide
  · exact ((h part hpart).free c hc).2

theorem unifySlashes_ofComponents (habove : ∀ part ∈ above, IsComponent part)
    (hlast : IsComponent last) :
    unifySlashes (ofComponents (above ++ [last])) = slashed (above ++ [Text.trimRight last]) := by
  have hparts : ∀ part ∈ above ++ [last], IsComponent part := by
    intro part hpart
    rcases List.mem_append.mp hpart with hpart | hpart
    · exact habove part hpart
    · rw [List.mem_singleton.mp hpart]
      exact hlast
  have hkept : ∀ c ∈ slashed above ++ '/' :: last, (if c = '\\' then '/' else c) = c := by
    intro c hc
    apply unify_slashed hparts
    rw [slashed_append, slashed_singleton]
    exact hc
  have hends : Text.Trimmed (slashed above ++ ['/']) := by
    refine ⟨fun c hc => ?_, fun c hc => ?_⟩
    · cases above <;> cases hc <;> decide
    · rw [List.getLast?_concat] at hc
      cases hc
      decide
  unfold unifySlashes
  rw [ofComponents_append_singleton, List.map_congr_left hkept, List.map_id', slashed_append,
    slashed_singleton, ← List.singleton_append, ← List.append_assoc,
    Text.trim_append (by simp) hends, List.append_assoc, List.singleton_append]

/-- The components that are left when the last one has lost the blanks at its end. -/
def settle (above : List (List Char)) (last : List Char) : List (List Char) :=
  above ++ [Text.trimRight last].filter fun part => decide (part ≠ [] ∧ part ≠ ['.'])

/-- Only the end of the last component can change, and then it may have to go. -/
theorem normalForm_again (habove : ∀ part ∈ above, IsComponent part) (hlast : IsComponent last) :
    normalForm (ofComponents (above ++ [last])) =
      if Text.trimRight last = ['.', '.'] then .error .climbs
      else .ok (ofComponents (settle above last)) := by
  have hmem : ∀ c ∈ Text.trimRight last, c ∈ last := fun c hc =>
    (List.rdropWhile_prefix Text.isBlank last).mem hc
  have hfree : ∀ part ∈ above ++ [Text.trimRight last], '/' ∉ part := by
    intro part hpart
    rcases List.mem_append.mp hpart with hpart | hpart
    · exact (habove part hpart).slash_notMem
    · rw [List.mem_singleton.mp hpart]
      exact fun hslash => hlast.slash_notMem (hmem '/' hslash)
  have hkept : above.filter (fun part => decide (part ≠ [] ∧ part ≠ ['.'])) = above := by
    rw [List.filter_eq_self]
    intro part hpart
    exact decide_eq_true ⟨(habove part hpart).nonempty, (habove part hpart).notDot⟩
  have hclimbs : ['.', '.'] ∈ settle above last ↔ Text.trimRight last = ['.', '.'] := by
    constructor
    · intro hparts
      rcases List.mem_append.mp hparts with hpart | hpart
      · exact absurd rfl (habove _ hpart).notDots
      · exact (List.mem_singleton.mp (List.mem_filter.mp hpart).1).symm
    · intro hdots
      unfold settle
      rw [hdots]
      exact List.mem_append_right _ (by decide)
  have habsolute : (slashed (above ++ [Text.trimRight last])).head? = some '/' := by
    cases above <;> rfl
  have hcomponents : components (slashed (above ++ [Text.trimRight last])) = settle above last := by
    rw [components_slashed hfree, List.filter_append, hkept]
    rfl
  unfold normalForm
  dsimp only
  rw [unifySlashes_ofComponents habove hlast, habsolute, if_neg (not_not_intro rfl), hcomponents]
  simp only [hclimbs]

theorem normalize_again (habove : ∀ part ∈ above, IsSolid part) (hlast : IsComponent last)
    (hdots : Text.trimRight last ≠ ['.', '.']) :
    ∃ rest, normalize (ofParts (above ++ [last])) = .ok (ofParts (above ++ rest)) ∧
      rest.length ≤ 1 ∧ ∀ part ∈ rest, IsSolid part := by
  refine ⟨[Text.trimRight last].filter fun part => decide (part ≠ [] ∧ part ≠ ['.']), ?_,
    List.length_filter_le _ _, ?_⟩
  · unfold normalize
    rw [toList_ofParts,
      normalForm_again (fun part hpart => (habove part hpart).toIsComponent) hlast, if_neg hdots]
    rfl
  · intro part hpart
    rcases List.mem_filter.mp hpart with ⟨hmem, hkept⟩
    rcases List.mem_singleton.mp hmem with rfl
    rcases of_decide_eq_true hkept with ⟨hnonempty, hdot⟩
    refine ⟨⟨hnonempty, hdot, hdots, fun c hc => ?_⟩, fun c hc => Text.last_trimRight hc⟩
    exact hlast.free c ((List.rdropWhile_prefix Text.isBlank last).mem hc)

theorem normalize_below (habove : ∀ part ∈ above, IsComponent part) (hlast : IsSolid last) :
    normalize (ofParts (above ++ [last])) = .ok (ofParts (above ++ [last])) := by
  have hkept : Text.trimRight last = last := Text.trimRight_of_last hlast.solid
  have hfilter : [last].filter (fun part => decide (part ≠ [] ∧ part ≠ ['.'])) = [last] :=
    List.filter_cons_of_pos (decide_eq_true ⟨hlast.nonempty, hlast.notDot⟩)
  have hform := normalForm_again habove hlast.toIsComponent
  unfold settle at hform
  rw [hkept, hfilter, if_neg hlast.notDots] at hform
  unfold normalize
  rw [toList_ofParts, hform]
  rfl

/-!
# Folders
-/

theorem dropWhile_slash (above : List (List Char)) (h : '/' ∉ last) :
    (slashed above ++ '/' :: last).reverse.dropWhile (fun c => decide (c ≠ '/')) =
      '/' :: (slashed above).reverse := by
  rw [List.reverse_append, List.reverse_cons, List.append_assoc, List.dropWhile_append_of_pos]
  · rfl
  · intro c hc
    refine decide_eq_true fun heq => h ?_
    rw [← heq]
    exact List.mem_reverse.mp hc

theorem folderPart_append (above : List (List Char)) (h : '/' ∉ last) :
    folderPart (ofComponents (above ++ [last])) = ofComponents above := by
  unfold folderPart
  rw [ofComponents_append_singleton, dropWhile_slash above h, List.drop_one, List.tail_cons]
  cases above with
  | nil => rfl
  | cons first others =>
      rw [ofComponents_eq_slashed (List.cons_ne_nil first others)]
      cases hreverse : (slashed (first :: others)).reverse with
      | nil => simp [slashed] at hreverse
      | cons c letters =>
          dsimp only
          rw [← hreverse, List.reverse_reverse]

theorem lastPart_append (above : List (List Char)) (h : '/' ∉ last) :
    lastPart (ofComponents (above ++ [last])) = last := by
  unfold lastPart
  rw [ofComponents_append_singleton, List.reverse_append, List.reverse_cons, List.append_assoc,
    List.takeWhile_append_of_pos]
  · simp
  · intro c hc
    refine decide_eq_true fun heq => h ?_
    rw [← heq]
    exact List.mem_reverse.mp hc

theorem parentFolder_ofParts (h : ∀ part ∈ parts, IsSolid part) :
    parentFolder (ofParts parts) = .ok (ofParts parts.dropLast) := by
  unfold parentFolder
  rw [normalize_ofParts h]
  change Except.ok (String.ofList (folderPart (ofParts parts).toList)) = _
  rw [toList_ofParts]
  cases parts using List.reverseRecOn with
  | nil => rfl
  | append_singleton above last =>
      rw [folderPart_append above (h last (by simp)).slash_notMem, List.dropLast_concat]
      rfl

def foldersAbove (parts : List (List Char)) : List String :=
  parts.dropLast.inits.reverse.map ofParts

theorem inits_append_singleton (above : List (List Char)) (last : List Char) :
    (above ++ [last]).inits = above.inits ++ [above ++ [last]] := by
  rw [List.inits_append]
  rfl

theorem climb_ofParts (h : ∀ part ∈ parts, IsSolid part) :
    climb (ofParts parts) = .ok (parts.inits.reverse.map ofParts) := by
  induction parts using List.reverseRecOn with
  | nil =>
      have hroot : ofParts [] = "/" := rfl
      rw [climb, dif_pos hroot]
      rfl
  | append_singleton above last ih =>
      have hlast := h last (by simp)
      have habove : ∀ part ∈ above, IsSolid part := fun part hpart =>
        h part (List.mem_append_left _ hpart)
      have hparent := parentFolder_ofParts h
      rw [List.dropLast_concat] at hparent
      rw [climb, dif_neg (ofParts_ne_root above hlast.nonempty)]
      split
      · rename_i error herror
        rw [hparent] at herror
        cases herror
      · rename_i parent hfound
        rw [hparent] at hfound
        cases hfound
        rw [ih habove, inits_append_singleton, List.reverse_concat, List.map_cons]

theorem ancestorFolders_ofParts (h : ∀ part ∈ parts, IsSolid part) :
    ancestorFolders (ofParts parts) = .ok (foldersAbove parts) := by
  unfold ancestorFolders
  rw [parentFolder_ofParts h]
  exact climb_ofParts fun part hpart => h part (List.dropLast_subset parts hpart)

/-- All that a path needs for its folders is that normalizing it again makes all its components
solid. -/
theorem ancestorFolders_of_normalize {path : String} (hpath : normalize path = .ok (ofParts parts))
    (h : ∀ part ∈ parts, IsSolid part) : ancestorFolders path = .ok (foldersAbove parts) := by
  rw [← ancestorFolders_ofParts h]
  unfold ancestorFolders parentFolder
  rw [hpath, normalize_ofParts h]

theorem mem_foldersAbove {folder : String} :
    folder ∈ foldersAbove parts ↔ ∃ above, above <+: parts.dropLast ∧ ofParts above = folder := by
  unfold foldersAbove
  simp only [List.mem_map, List.mem_reverse, List.mem_inits _ _]

theorem exists_below (h : above <+: parts.dropLast) :
    ∃ rest, parts = above ++ rest ∧ (above = [] ∨ rest ≠ []) := by
  cases parts using List.reverseRecOn with
  | nil =>
      rcases List.prefix_nil.mp h with rfl
      exact ⟨[], rfl, .inl rfl⟩
  | append_singleton before last =>
      rw [List.dropLast_concat] at h
      rcases h with ⟨between, rfl⟩
      exact ⟨between ++ [last], List.append_assoc .., .inr (by simp)⟩

theorem ofParts_inj {others : List (List Char)} (h : ∀ part ∈ parts, IsComponent part)
    (hothers : ∀ part ∈ others, IsComponent part) (heq : ofParts parts = ofParts others) :
    parts = others := by
  have hletters := congrArg String.toList heq
  rw [toList_ofParts, toList_ofParts] at hletters
  rw [← components_ofComponents h, hletters, components_ofComponents hothers]

theorem nodup_inits (parts : List (List Char)) : parts.inits.Nodup := by
  induction parts with
  | nil => exact List.nodup_singleton []
  | cons first others ih =>
      rw [List.inits_cons, List.nodup_cons]
      refine ⟨?_, ih.map fun above other heq => (List.cons.inj heq).2⟩
      intro hmem
      rcases List.mem_map.mp hmem with ⟨above, _, heq⟩
      cases heq

theorem nodup_foldersAbove (h : ∀ part ∈ parts, IsComponent part) :
    (foldersAbove parts).Nodup := by
  unfold foldersAbove
  have hsub : ∀ above ∈ parts.dropLast.inits.reverse, ∀ part ∈ above, IsComponent part := by
    intro above habove part hpart
    have hbeginning := (List.mem_inits _ _).mp (List.mem_reverse.mp habove)
    exact h part (List.dropLast_subset parts (hbeginning.mem hpart))
  apply List.Nodup.map_on
  · intro above habove others hothers heq
    exact ofParts_inj (hsub above habove) (hsub others hothers) heq
  · exact List.nodup_reverse.mpr (nodup_inits _)

/-!
# Folders of any path

A climb through folders that end with blanks is not that of their normal forms, but every folder that
it goes through has one.
-/

theorem isNormal_parentFolder {path parent : String} (h : parentFolder path = .ok parent) :
    IsNormal parent.toList := by
  unfold parentFolder at h
  cases hnormal : normalize path with
  | error error =>
      rw [hnormal] at h
      cases h
  | ok normal =>
      rw [hnormal] at h
      cases h
      rcases (normalize_eq_ok hnormal).1 with ⟨parts, hform, hparts⟩
      rw [String.toList_ofList, hform]
      cases parts using List.reverseRecOn with
      | nil => exact ⟨[], rfl, hparts⟩
      | append_singleton above last =>
          rw [folderPart_append above (hparts last (by simp)).slash_notMem]
          exact ⟨above, rfl, fun part hpart => hparts part (List.mem_append_left _ hpart)⟩

theorem normalizeFolder_of_parentFolder {folder parent : String} (hfolder : IsNormal folder.toList)
    (h : parentFolder folder = .ok parent) : ∃ normal, normalizeFolder folder = .ok normal := by
  unfold normalizeFolder
  rw [if_pos (head_of_isNormal hfolder)]
  unfold parentFolder at h
  cases hnormal : normalize folder with
  | error error =>
      rw [hnormal] at h
      cases h
  | ok normal => exact ⟨normal, rfl⟩

theorem normalizeFolder_of_mem_climb {folder other : String} {folders : List String}
    (hfolder : IsNormal folder.toList) (h : climb folder = .ok folders) (hother : other ∈ folders) :
    ∃ normal, normalizeFolder other = .ok normal := by
  fun_induction climb folder generalizing folders with
  | case1 =>
      cases h
      rw [List.mem_singleton.mp hother]
      exact ⟨"/", @normalizeFolder_ofParts [] (by simp)⟩
  | case2 => cases h
  | case3 => cases h
  | case4 folder hroot parent hparent above hclimb ih =>
      cases h
      rcases List.mem_cons.mp hother with rfl | habove
      · exact normalizeFolder_of_parentFolder hfolder hparent
      · exact ih (isNormal_parentFolder hparent) hclimb habove

theorem normalizeFolder_of_mem_ancestorFolders {path folder : String} {folders : List String}
    (h : ancestorFolders path = .ok folders) (hfolder : folder ∈ folders) :
    ∃ normal, normalizeFolder folder = .ok normal := by
  unfold ancestorFolders at h
  cases hparent : parentFolder path with
  | error error =>
      rw [hparent] at h
      cases h
  | ok parent =>
      rw [hparent] at h
      exact normalizeFolder_of_mem_climb (isNormal_parentFolder hparent) h hfolder

/-!
# Paths below a folder
-/

theorem relativeTo_ofParts {path : String} (hpath : normalize path = .ok (ofParts (above ++ rest)))
    (habove : ∀ part ∈ above, IsSolid part) (hbelow : above = [] ∨ rest ≠ []) :
    relativeTo (ofParts above) path = .ok (String.ofList (Text.joinWith '/' rest)) := by
  unfold relativeTo
  rw [hpath, normalizeFolder_ofParts habove]
  cases above using List.reverseRecOn with
  | nil =>
      have hroot : ofParts [] = "/" := rfl
      dsimp only [bind, Except.bind]
      rw [if_pos hroot, toList_ofParts]
      rfl
  | append_singleton folders last =>
      have hlast := habove last (by simp)
      have hrest : rest ≠ [] := hbelow.resolve_left (by simp)
      dsimp only [bind, Except.bind]
      rw [if_neg (ofParts_ne_root folders hlast.nonempty), toList_ofParts, toList_ofParts,
        ofComponents_eq_slashed (by simp), ofComponents_eq_slashed (by simp),
        slashed_append _ rest, ← ofComponents_eq_slashed hrest]
      unfold ofComponents
      rw [List.append_cons _ '/' (Text.joinWith '/' rest), Text.dropPrefix?_append]
      rfl

/-!
# Solid paths

A name without blanks keeps a solid folder solid, whatever it is made of.
-/

/-- A path in normal form that normalizing leaves alone, and all folders above it. -/
def IsSolidPath (path : String) : Prop :=
  ∃ parts, path = ofParts parts ∧ ∀ part ∈ parts, IsSolid part

theorem solid_of_no_blank (h : IsComponent part) (hblank : ∀ c ∈ part, Text.isBlank c = false) :
    IsSolid part :=
  ⟨h, fun c hc => hblank c (List.mem_of_mem_getLast? hc)⟩

theorem unifySlashes_below {name : List Char} (habove : ∀ part ∈ above, IsComponent part)
    (hname : ∀ c ∈ name, Text.isBlank c = false) :
    ∃ pieces, unifySlashes (slashed above ++ '/' :: name) = slashed (above ++ pieces) ∧
      ∀ piece ∈ pieces, ∀ c ∈ piece, c ≠ '/' ∧ c ≠ '\\' ∧ Text.isBlank c = false := by
  let unified := name.map fun c => if c = '\\' then '/' else c
  have hunified : ∀ c ∈ unified, c ≠ '\\' ∧ Text.isBlank c = false := by
    intro c hc
    rcases List.mem_map.mp hc with ⟨letter, hletter, rfl⟩
    split
    · decide
    · rename_i hne
      exact ⟨hne, hname letter hletter⟩
  have hkept : ∀ c ∈ slashed above ++ ['/'], (if c = '\\' then '/' else c) = c := by
    intro c hc
    rcases List.mem_append.mp hc with hmem | hmem
    · exact unify_slashed habove hmem
    · rw [List.mem_singleton.mp hmem]
      decide
  have htrimmed : Text.Trimmed (slashed above ++ ['/'] ++ unified) := by
    refine ⟨fun c hc => ?_, fun c hc => ?_⟩
    · cases above <;> cases hc <;> decide
    · rcases List.mem_append.mp (List.mem_of_mem_getLast? hc) with hmem | hmem
      · cases hlast : unified.getLast? with
        | none =>
            rw [List.getLast?_eq_none_iff.mp hlast, List.append_nil, List.getLast?_concat] at hc
            cases hc
            decide
        | some letter =>
            rw [List.getLast?_append, hlast] at hc
            cases hc
            exact (hunified _ (List.mem_of_getLast? hlast)).2
      · exact (hunified c hmem).2
  refine ⟨Text.splitOn '/' unified, ?_, fun piece hpiece c hc => ?_⟩
  · have hpieces : '/' :: unified = slashed (Text.splitOn '/' unified) := by
      rw [← ofComponents_eq_slashed (Text.splitOn_ne_nil '/' unified)]
      unfold ofComponents
      rw [Text.joinWith_splitOn]
    unfold unifySlashes
    rw [List.append_cons _ '/' name, List.map_append, List.map_congr_left hkept, List.map_id',
      Text.trim_of_trimmed htrimmed, slashed_append, ← hpieces, ← List.append_cons]
  · have hmem := Text.mem_piece hpiece hc
    exact ⟨hmem.2, hunified c hmem.1⟩

theorem solid_of_normalize_below {path normal : String} {name : List Char}
    (hpath : path.toList = slashed above ++ '/' :: name) (habove : ∀ part ∈ above, IsSolid part)
    (hname : ∀ c ∈ name, Text.isBlank c = false) (h : normalize path = .ok normal) :
    IsSolidPath normal := by
  rcases unifySlashes_below (fun part hpart => (habove part hpart).toIsComponent) hname with
    ⟨pieces, hunified, hpieces⟩
  have hfree : ∀ part ∈ above ++ pieces, '/' ∉ part := by
    intro part hpart
    rcases List.mem_append.mp hpart with hpart | hpart
    · exact (habove part hpart).slash_notMem
    · exact fun hslash => (hpieces part hpart '/' hslash).1 rfl
  unfold normalize normalForm at h
  dsimp only at h
  rw [hpath, hunified, components_slashed hfree] at h
  split at h
  · rename_i form hform
    split at hform
    · cases hform
    split at hform
    · cases hform
    rename_i hclimbs
    cases hform
    cases h
    refine ⟨_, rfl, fun part hpart => ?_⟩
    rcases List.mem_filter.mp hpart with ⟨hmem, hkept⟩
    rcases List.mem_append.mp hmem with hmem | hmem
    · exact habove part hmem
    · have hdots : part ≠ ['.', '.'] := fun heq => hclimbs (heq ▸ hpart)
      refine solid_of_no_blank ⟨(of_decide_eq_true hkept).1, (of_decide_eq_true hkept).2, hdots,
        fun c hc => ?_⟩ fun c hc => ?_
      · exact ⟨(hpieces part hmem c hc).1, (hpieces part hmem c hc).2.1⟩
      · exact (hpieces part hmem c hc).2.2
  · cases h

theorem isSolidPath_of_join {folder name normal : String} (hfolder : IsSolidPath folder)
    (hname : ∀ c ∈ name.toList, Text.isBlank c = false) (h : join folder name = .ok normal) :
    IsSolidPath normal := by
  rcases hfolder with ⟨above, rfl, habove⟩
  unfold join at h
  rw [normalizeFolder_ofParts habove] at h
  dsimp only [bind, Except.bind] at h
  split at h
  · have hletters : ("/" ++ name).toList = slashed [] ++ '/' :: name.toList := by
      rw [String.toList_append]
      rfl
    exact solid_of_normalize_below hletters (by simp) hname h
  · rename_i hroot
    have hne : above ≠ [] := by
      intro hnil
      rw [hnil] at hroot
      exact hroot rfl
    refine solid_of_normalize_below ?_ habove hname h
    rw [String.toList_append, String.toList_append, toList_ofParts, ofComponents_eq_slashed hne,
      List.append_assoc]
    rfl

theorem isSolidPath_of_no_blank {path normal : String}
    (hblank : ∀ c ∈ path.toList, Text.isBlank c = false) (h : normalize path = .ok normal) :
    IsSolidPath normal := by
  rcases normalize_eq_ok h with ⟨⟨parts, hform, hparts⟩, hmem⟩
  refine ⟨parts, String.toList_inj.mp (by rw [hform, toList_ofParts]), fun part hpart => ?_⟩
  refine solid_of_no_blank (hparts part hpart) fun c hc => ?_
  have hletter : c ∈ normal.toList := by
    rw [hform, ofComponents_eq_slashed (List.ne_nil_of_mem hpart)]
    exact List.mem_flatMap.mpr ⟨part, hpart, List.mem_cons_of_mem _ hc⟩
  rcases hmem c hletter with rfl | hin
  · decide
  · exact hblank c hin

end Path
end Ownership
