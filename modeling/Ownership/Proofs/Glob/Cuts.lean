import Mathlib.Data.List.Forall2
import Ownership.Proofs.Glob.Elements

/-!
# Cutting a path into pieces

A pattern selects a path if the path can be cut into one piece for each element, in order, such that
each element takes its piece.  The matcher finds out by trying what each element can leave of the
path; it only departs from this reading at line feeds, across which `**` does not run.
-/

namespace Ownership
namespace Glob

/-!
# Classes
-/

inductive ClassPart
  | range (low high : Char)
  | single (c : Char)

namespace ClassPart

def Has : ClassPart → Char → Prop
  | .range low high, c => low ≤ c ∧ c ≤ high
  | .single d, c => c = d

def IsReversed : ClassPart → Prop
  | .range low high => high < low
  | .single _ => False

def bounds : ClassPart → Char × Char
  | .range low high => (low, high)
  | .single c => (c, c)

end ClassPart

/-- The parts of a class from left to right: `x-y` is a range and all else is literal. -/
inductive ReadsClass : List Char → List ClassPart → Prop
  | nothing : ReadsClass [] []
  | range {low high : Char} {rest : List Char} {parts : List ClassPart}
      (hrest : ReadsClass rest parts) :
      ReadsClass (low :: '-' :: high :: rest) (.range low high :: parts)
  | single {c : Char} {rest : List Char} {parts : List ClassPart}
      (hsingle : ∀ high behind, rest ≠ '-' :: high :: behind) (hrest : ReadsClass rest parts) :
      ReadsClass (c :: rest) (.single c :: parts)

def ClassHas (body : List Char) (c : Char) : Prop :=
  ∃ parts, ReadsClass body parts ∧ ∃ part ∈ parts, part.Has c

variable {pattern path rest piece body : List Char} {element : Element}
  {elements : List Element} {parts : List ClassPart} {part : ClassPart} {takes : Char → Bool}
  {c : Char}

theorem classRanges_of_readsClass (h : ReadsClass body parts) :
    classRanges body = parts.map ClassPart.bounds := by
  induction h with
  | nothing => rfl
  | range hrest ih => rw [classRanges, ih]; rfl
  | single hsingle hrest ih =>
      rw [classRanges, ih]
      · rfl
      · intro high behind heq
        exact hsingle high behind heq

theorem exists_readsClass (body : List Char) : ∃ parts, ReadsClass body parts := by
  fun_induction classRanges body with
  | case1 low high behind ih =>
      rcases ih with ⟨parts, hparts⟩
      exact ⟨.range low high :: parts, .range hparts⟩
  | case2 c behind hsingle ih =>
      rcases ih with ⟨parts, hparts⟩
      exact ⟨.single c :: parts, .single hsingle hparts⟩
  | case3 => exact ⟨[], .nothing⟩

theorem ClassPart.has_iff : part.Has c ↔ part.bounds.1 ≤ c ∧ c ≤ part.bounds.2 := by
  cases part with
  | range low high => exact Iff.rfl
  | single d =>
      constructor
      · intro h
        rw [h]
        exact ⟨Std.le_refl d, Std.le_refl d⟩
      · intro h
        exact Std.le_antisymm h.2 h.1

theorem ClassPart.isReversed_iff : part.IsReversed ↔ ¬ part.bounds.1 ≤ part.bounds.2 := by
  cases part with
  | range low high => exact Std.not_le.symm
  | single c =>
      constructor
      · intro h
        cases h
      · intro h
        exact h (Std.le_refl c)

theorem classHas_iff : classHas body c = true ↔ ClassHas body c := by
  have hread : ∀ parts, ReadsClass body parts →
      (classHas body c = true ↔ ∃ part ∈ parts, part.Has c) := by
    intro parts hparts
    unfold classHas
    rw [classRanges_of_readsClass hparts, List.any_map, List.any_eq_true]
    apply exists_congr
    intro part
    rw [ClassPart.has_iff]
    simp
  constructor
  · intro h
    rcases exists_readsClass body with ⟨parts, hparts⟩
    exact ⟨parts, hparts, (hread parts hparts).mp h⟩
  · intro h
    rcases h with ⟨parts, hparts, hpart⟩
    exact (hread parts hparts).mpr hpart

/-!
# What an element takes
-/

def Element.Takes : Element → List Char → Prop
  | .folders, piece => piece = [] ∨ piece.getLast? = some '/'
  | .anything, _ => True
  | .withinComponent, piece => '/' ∉ piece
  | .oneChar, piece => ∃ c, piece = [c] ∧ c ≠ '/'
  | .charClass false body, piece => ∃ c, piece = [c] ∧ ClassHas body c
  | .charClass true body, piece => ∃ c, piece = [c] ∧ ¬ ClassHas body c
  | .choice choices, piece => piece ∈ choices
  | .literal c, piece => piece = [c]

def Element.IsDoubleStar (element : Element) : Prop := element = .folders ∨ element = .anything

/-- The piece is taken where it stands: `**` does not run across line feeds. -/
def Element.TakesInLine (element : Element) (piece : List Char) : Prop :=
  element.Takes piece ∧ (element.IsDoubleStar → '\n' ∉ piece)

theorem mem_restsWhile :
    rest ∈ restsWhile takes path ↔ ∃ piece, path = piece ++ rest ∧ ∀ c ∈ piece, takes c = true := by
  induction path with
  | nil =>
      rw [restsWhile, List.mem_singleton]
      constructor
      · intro h
        exact ⟨[], h.symm, fun c hc => by cases hc⟩
      · intro h
        rcases h with ⟨piece, hpath, _⟩
        exact (List.append_eq_nil_iff.mp hpath.symm).2
  | cons first path ih =>
      rw [restsWhile, List.mem_cons, List.mem_ite_nil_right, ih]
      constructor
      · intro h
        rcases h with rfl | ⟨hfirst, piece, rfl, hpiece⟩
        · exact ⟨[], rfl, fun c hc => by cases hc⟩
        · refine ⟨first :: piece, rfl, ?_⟩
          intro c hc
          rcases List.mem_cons.mp hc with rfl | hlater
          · exact hfirst
          · exact hpiece c hlater
      · intro h
        rcases h with ⟨piece, hpath, hpiece⟩
        cases piece with
        | nil => exact .inl hpath.symm
        | cons c piece =>
            rw [List.cons_append, List.cons.injEq] at hpath
            refine .inr ⟨?_, piece, hpath.2, fun d hd => hpiece d (List.mem_cons_of_mem c hd)⟩
            rw [hpath.1]
            exact hpiece c List.mem_cons_self

theorem mem_restAfterChar :
    rest ∈ restAfterChar takes path ↔ ∃ c, path = [c] ++ rest ∧ takes c = true := by
  cases path with
  | nil => simp [restAfterChar]
  | cons first path =>
      rw [restAfterChar, List.mem_ite_nil_right, List.mem_singleton]
      constructor
      · intro h
        exact ⟨first, by rw [h.2]; rfl, h.1⟩
      · intro h
        rcases h with ⟨c, hpath, hc⟩
        rw [List.singleton_append, List.cons.injEq] at hpath
        exact ⟨hpath.1 ▸ hc, hpath.2.symm⟩

theorem takesInLine_iff_takes (h : ¬ element.IsDoubleStar) :
    element.TakesInLine piece ↔ element.Takes piece :=
  and_iff_left fun hstar => absurd hstar h

theorem takesInLine_anything : Element.anything.TakesInLine piece ↔ '\n' ∉ piece := by
  constructor
  · intro h
    exact h.2 (.inr rfl)
  · intro h
    exact ⟨trivial, fun _ => h⟩

theorem takesInLine_folders :
    Element.folders.TakesInLine piece ↔
      piece = [] ∨ ∃ folders, piece = folders ++ ['/'] ∧ '\n' ∉ folders := by
  constructor
  · intro h
    have hline : '\n' ∉ piece := h.2 (.inl rfl)
    rcases h.1 with hnil | hlast
    · exact .inl hnil
    · rcases List.getLast?_eq_some_iff.mp hlast with ⟨folders, rfl⟩
      exact .inr ⟨folders, rfl, fun hmem => hline (List.mem_append_left _ hmem)⟩
  · intro h
    rcases h with rfl | ⟨folders, rfl, hline⟩
    · exact ⟨.inl rfl, fun _ hmem => by cases hmem⟩
    · refine ⟨.inr List.getLast?_concat, ?_⟩
      intro _ hmem
      rcases List.mem_append.mp hmem with hmem | hmem
      · exact hline hmem
      · exact absurd hmem (by decide)

/-!
# What an element leaves
-/

theorem forall_ne_iff : (∀ d ∈ piece, decide (d ≠ c) = true) ↔ c ∉ piece := by
  constructor
  · intro h hmem
    exact of_decide_eq_true (h c hmem) rfl
  · intro h d hd
    exact decide_eq_true fun heq => h (heq ▸ hd)

theorem mem_rests_folders :
    rest ∈ Element.folders.rests path ↔
      ∃ piece, path = piece ++ rest ∧ Element.folders.TakesInLine piece := by
  rw [Element.rests, List.mem_cons, List.mem_filterMap]
  constructor
  · intro h
    rcases h with rfl | ⟨behind, hbehind, hslash⟩
    · exact ⟨[], rfl, takesInLine_folders.mpr (.inl rfl)⟩
    · rcases mem_restsWhile.mp hbehind with ⟨folders, rfl, hfolders⟩
      rw [Text.dropPrefix?_eq_some hslash, ← List.append_assoc]
      exact ⟨folders ++ ['/'], rfl,
        takesInLine_folders.mpr (.inr ⟨folders, rfl, forall_ne_iff.mp hfolders⟩)⟩
  · intro h
    rcases h with ⟨piece, rfl, htakes⟩
    rcases takesInLine_folders.mp htakes with rfl | ⟨folders, rfl, hline⟩
    · exact .inl rfl
    · refine .inr ⟨['/'] ++ rest, ?_, Text.dropPrefix?_append ['/'] rest⟩
      exact mem_restsWhile.mpr
        ⟨folders, List.append_assoc folders ['/'] rest, forall_ne_iff.mpr hline⟩

theorem mem_restAfterChar_iff (htakes : ∀ piece, element.Takes piece ↔
      ∃ c, piece = [c] ∧ takes c = true) :
    rest ∈ restAfterChar takes path ↔ ∃ piece, path = piece ++ rest ∧ element.Takes piece := by
  rw [mem_restAfterChar]
  constructor
  · intro h
    rcases h with ⟨c, hpath, hc⟩
    exact ⟨[c], hpath, (htakes [c]).mpr ⟨c, rfl, hc⟩⟩
  · intro h
    rcases h with ⟨piece, hpath, hpiece⟩
    rcases (htakes piece).mp hpiece with ⟨c, rfl, hc⟩
    exact ⟨c, hpath, hc⟩

/-- What an element can leave of a path is what stands behind the pieces that it takes. -/
theorem mem_rests :
    rest ∈ element.rests path ↔ ∃ piece, path = piece ++ rest ∧ element.TakesInLine piece := by
  by_cases hstar : element.IsDoubleStar
  · rcases hstar with rfl | rfl
    · exact mem_rests_folders
    · rw [Element.rests, mem_restsWhile]
      simp only [forall_ne_iff, takesInLine_anything]
  · simp only [takesInLine_iff_takes hstar]
    cases element with
    | folders => exact absurd (.inl rfl) hstar
    | anything => exact absurd (.inr rfl) hstar
    | withinComponent =>
        rw [Element.rests, mem_restsWhile]
        simp only [forall_ne_iff, Element.Takes]
    | oneChar =>
        apply mem_restAfterChar_iff
        intro piece
        simp [Element.Takes]
    | charClass negated body =>
        apply mem_restAfterChar_iff
        intro piece
        cases negated with
        | false => simp [Element.Takes, classHas_iff]
        | true => simp [Element.Takes, ← classHas_iff]
    | choice choices =>
        rw [Element.rests, List.mem_filterMap]
        constructor
        · intro h
          rcases h with ⟨text, htext, hdrop⟩
          exact ⟨text, Text.dropPrefix?_eq_some hdrop, htext⟩
        · intro h
          rcases h with ⟨text, rfl, htext⟩
          exact ⟨text, htext, Text.dropPrefix?_append text rest⟩
    | literal c =>
        apply mem_restAfterChar_iff
        intro piece
        simp [Element.Takes]

/-!
# Whole paths
-/

def Cuts (takes : Element → List Char → Prop) (elements : List Element) (path : List Char) : Prop :=
  ∃ pieces, pieces.flatten = path ∧ List.Forall₂ takes elements pieces

theorem cuts_nil {takes : Element → List Char → Prop} : Cuts takes [] path ↔ path = [] := by
  constructor
  · intro h
    rcases h with ⟨pieces, hpath, hpieces⟩
    cases hpieces
    exact hpath.symm
  · intro h
    exact ⟨[], h.symm, .nil⟩

theorem cuts_cons {takes : Element → List Char → Prop} :
    Cuts takes (element :: elements) path ↔
      ∃ piece behind, path = piece ++ behind ∧ takes element piece ∧ Cuts takes elements behind := by
  constructor
  · intro h
    rcases h with ⟨pieces, rfl, hpieces⟩
    cases hpieces with
    | cons hpiece hpieces => exact ⟨_, _, rfl, hpiece, _, rfl, hpieces⟩
  · intro h
    rcases h with ⟨piece, behind, rfl, hpiece, pieces, rfl, hpieces⟩
    exact ⟨piece :: pieces, rfl, .cons hpiece hpieces⟩

theorem cuts_append {takes : Element → List Char → Prop} {others : List Element} :
    Cuts takes (elements ++ others) path ↔
      ∃ ahead behind, path = ahead ++ behind ∧ Cuts takes elements ahead ∧
        Cuts takes others behind := by
  induction elements generalizing path with
  | nil => simp [cuts_nil]
  | cons element elements ih =>
      rw [List.cons_append, cuts_cons]
      constructor
      · intro h
        rcases h with ⟨piece, rest, rfl, hpiece, hrest⟩
        rcases ih.mp hrest with ⟨ahead, behind, rfl, hahead, hbehind⟩
        exact ⟨piece ++ ahead, behind, (List.append_assoc _ _ _).symm,
          cuts_cons.mpr ⟨piece, ahead, rfl, hpiece, hahead⟩, hbehind⟩
      · intro h
        rcases h with ⟨ahead, behind, rfl, hahead, hbehind⟩
        rcases cuts_cons.mp hahead with ⟨piece, rest, rfl, hpiece, hrest⟩
        exact ⟨piece, rest ++ behind, List.append_assoc _ _ _, hpiece,
          ih.mpr ⟨rest, behind, rfl, hrest, hbehind⟩⟩

theorem matchElements_iff :
    matchElements elements path = true ↔ Cuts Element.TakesInLine elements path := by
  induction elements generalizing path with
  | nil => rw [matchElements, List.isEmpty_iff, cuts_nil]
  | cons element elements ih =>
      rw [matchElements, List.any_eq_true, cuts_cons]
      constructor
      · intro h
        rcases h with ⟨behind, hbehind, hmatch⟩
        rcases mem_rests.mp hbehind with ⟨piece, hpath, hpiece⟩
        exact ⟨piece, behind, hpath, hpiece, ih.mp hmatch⟩
      · intro h
        rcases h with ⟨piece, behind, hpath, hpiece, hcuts⟩
        exact ⟨behind, mem_rests.mpr ⟨piece, hpath, hpiece⟩, ih.mpr hcuts⟩

/-- On a single line nothing stops `**`. -/
theorem cuts_inLine_iff (h : '\n' ∉ path) :
    Cuts Element.TakesInLine elements path ↔ Cuts Element.Takes elements path := by
  constructor
  · intro hcuts
    rcases hcuts with ⟨pieces, hpath, hpieces⟩
    exact ⟨pieces, hpath, hpieces.imp fun _ _ htakes => htakes.1⟩
  · intro hcuts
    rcases hcuts with ⟨pieces, rfl, hpieces⟩
    refine ⟨pieces, rfl, ?_⟩
    induction hpieces with
    | nil => exact .nil
    | cons hpiece hpieces ih =>
        rw [List.flatten_cons, List.mem_append, not_or] at h
        exact .cons ⟨hpiece, fun _ => h.1⟩ (ih h.2)

/-!
# Reversed ranges
-/

/-- A class with a range that ends before it begins. -/
def Element.IsReversed : Element → Prop
  | .charClass _ body => ∃ parts, ReadsClass body parts ∧ ∃ part ∈ parts, part.IsReversed
  | _ => False

theorem Element.isValid_iff : element.isValid = true ↔ ¬ element.IsReversed := by
  cases element with
  | charClass negated body =>
      have hread : ∀ parts, ReadsClass body parts →
          ((classRanges body).all (fun range => decide (range.1 ≤ range.2)) = true ↔
            ¬ ∃ part ∈ parts, part.IsReversed) := by
        intro parts hparts
        rw [classRanges_of_readsClass hparts, List.all_map, List.all_eq_true]
        simp [ClassPart.isReversed_iff]
      constructor
      · intro h hreversed
        rcases hreversed with ⟨parts, hparts, hpart⟩
        exact (hread parts hparts).mp h hpart
      · intro h
        rcases exists_readsClass body with ⟨parts, hparts⟩
        exact (hread parts hparts).mpr fun hpart => h ⟨parts, hparts, hpart⟩
  | _ => exact ⟨fun _ h => h, fun _ => rfl⟩

theorem isValid_iff {pattern : String} :
    isValid pattern = true ↔ ∀ element ∈ Glob.elements pattern, ¬ element.IsReversed := by
  unfold isValid
  rw [List.all_eq_true]
  simp only [Element.isValid_iff]

/-!
# What a pattern selects
-/

theorem selects_iff_cuts_inLine {pattern path : String} :
    selects pattern path = true ↔ (∀ element ∈ Glob.elements pattern, ¬ element.IsReversed) ∧
      Cuts Element.TakesInLine (Glob.elements pattern) path.toList := by
  unfold selects
  rw [Bool.and_eq_true, isValid_iff, matchElements_iff]

/-- A pattern is read from left to right, behind the slashes in front of it, in exactly one way.
It selects a path on a single line exactly if the path can be cut into consecutive pieces that the
elements take one after the other.  With a reversed range in a class it is invalid and selects
nothing. -/
theorem selects_iff_cut (pattern path : String) (hline : '\n' ∉ path.toList) :
    ∃ elements,
      (∀ others, Reads (pattern.toList.dropWhile (· = '/')) others [] ↔ others = elements) ∧
      (selects pattern path = true ↔
        (∀ element ∈ elements, ¬ element.IsReversed) ∧ Cuts Element.Takes elements path.toList) ∧
      ((∃ element ∈ elements, element.IsReversed) →
        isValid pattern = false ∧ ∀ other, selects pattern other = false) := by
  refine ⟨Glob.elements pattern, fun others => reads_iff, ?_, ?_⟩
  · rw [selects_iff_cuts_inLine, cuts_inLine_iff hline]
  · intro hreversed
    rcases hreversed with ⟨element, hmem, hreversed⟩
    have hinvalid : isValid pattern = false := by
      rw [← Bool.not_eq_true, isValid_iff]
      intro hall
      exact hall element hmem hreversed
    refine ⟨hinvalid, ?_⟩
    intro other
    unfold selects
    rw [hinvalid]
    rfl

def crowdedPattern : String := "//**/[!a-c]?[x-z_]\x7bon,two\x7d*[]**.l[!]n\x7b["

def crowdedPath : String := "en/old/deytwo[]b/c.l[!]n\x7b["

theorem crowdedPattern_cuts : '\n' ∉ crowdedPath.toList ∧ selects crowdedPattern crowdedPath = true ∧
    ∃ elements, Reads (crowdedPattern.toList.dropWhile (· = '/')) elements [] ∧
      Cuts Element.Takes elements crowdedPath.toList := by
  have hline : '\n' ∉ crowdedPath.toList := by decide
  have hselects : selects crowdedPattern crowdedPath = true := by decide +kernel
  rcases selects_iff_cut crowdedPattern crowdedPath hline with ⟨elements, hreads, hcut, _⟩
  exact ⟨hline, hselects, elements, (hreads elements).mpr rfl, (hcut.mp hselects).2⟩

end Glob
end Ownership
