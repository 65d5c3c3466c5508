import Mathlib.Algebra.Order.Ring.Nat
import Ownership.Proofs.Glob.Cuts

/-!
# Slashes of a selected path

A pattern without double stars and choices stays within the folders that it writes down, up to its
classes: a class is the one element that may take a slash where the pattern has none.  So a selected
path has the slashes of the pattern and besides at most one for each class that a slash belongs to.
-/

namespace Ownership
namespace Glob

variable {pattern path rest piece : List Char} {element : Element} {elements : List Element}

/-!
# Plain patterns
-/

/-- A pattern without double stars and without braces that holds no slash between a bracket and the
next closing one. -/
structure IsPlain (pattern : List Char) : Prop where
  stars : ¬ ['*', '*'] <:+: pattern
  braces : '{' ∉ pattern
  brackets : ∀ before inside behind, pattern = before ++ '[' :: (inside ++ ']' :: behind) →
    ']' ∉ inside → '/' ∉ inside

theorem IsPlain.of_isSuffix (h : IsPlain pattern) (hrest : rest <:+ pattern) : IsPlain rest where
  stars := fun hstars => h.stars (hstars.trans hrest.isInfix)
  braces := fun hbrace => h.braces (hrest.subset hbrace)
  brackets := by
    rcases hrest with ⟨ahead, rfl⟩
    intro before inside behind hsplit
    apply h.brackets (ahead ++ before) inside behind
    rw [hsplit, List.append_assoc]

theorem IsPlain.cons {c : Char} (h : IsPlain rest) (hc : c ∉ ['*', '[', '{']) :
    IsPlain (c :: rest) := by
  simp only [List.mem_cons, List.not_mem_nil, or_false, not_or] at hc
  rcases hc with ⟨hstar, hbracket, hbrace⟩
  refine ⟨?_, ?_, ?_⟩
  · intro hstars
    rcases List.infix_cons_iff.mp hstars with hfront | hbehind
    · exact hstar (List.cons_prefix_cons.mp hfront).1.symm
    · exact h.stars hbehind
  · rw [List.mem_cons, not_or]
    exact ⟨Ne.symm hbrace, h.braces⟩
  · intro before inside behind hsplit
    cases before with
    | nil => exact absurd (List.cons.inj hsplit).1 hbracket
    | cons d before => exact h.brackets before inside behind (List.cons.inj hsplit).2

theorem isPlain_of_no_slash (hstars : ¬ ['*', '*'] <:+: pattern) (hbraces : '{' ∉ pattern)
    (hslash : '/' ∉ pattern) : IsPlain pattern where
  stars := hstars
  braces := hbraces
  brackets := by
    intro before inside behind hsplit _ hmem
    apply hslash
    rw [hsplit]
    simp [hmem]

/-!
# What an element does with slashes
-/

namespace Element

/-- The elements of a plain pattern. -/
def IsPlain : Element → Prop
  | .folders => False
  | .anything => False
  | .choice _ => False
  | _ => True

def slashes (element : Element) : Nat := if element = .literal '/' then 1 else 0

def crosses : Element → Bool
  | .charClass negated body => classHas body '/' != negated
  | _ => false

theorem takes_slash (h : element.crosses = true) : element.TakesInLine ['/'] := by
  cases element with
  | charClass negated body =>
      have hplain : ¬ (Element.charClass negated body).IsDoubleStar := by
        intro hstar
        rcases hstar with hfolders | hanything
        · cases hfolders
        · cases hanything
      rw [takesInLine_iff_takes hplain]
      cases negated with
      | false => exact ⟨'/', rfl, classHas_iff.mp (by simpa [crosses] using h)⟩
      | true =>
          refine ⟨'/', rfl, fun hclass => ?_⟩
          rw [crosses, classHas_iff.mpr hclass] at h
          cases h
  | _ => cases h

theorem crosses_of_takes {negated : Bool} {body : List Char}
    (h : (Element.charClass negated body).Takes ['/']) :
    (Element.charClass negated body).crosses = true := by
  cases negated with
  | false =>
      rcases h with ⟨c, hslash, hclass⟩
      cases hslash
      rw [crosses, classHas_iff.mpr hclass]
      rfl
  | true =>
      rcases h with ⟨c, hslash, hclass⟩
      cases hslash
      rw [crosses, Bool.eq_false_iff.mpr fun hhas => hclass (classHas_iff.mp hhas)]
      rfl

/-- A piece has the slash that its element writes, and no other unless it is one of a class. -/
theorem count_slash_of_takes (hplain : element.IsPlain) (h : element.Takes piece) :
    element.slashes ≤ piece.count '/' ∧
      piece.count '/' ≤ element.slashes + element.crosses.toNat := by
  cases element with
  | folders => cases hplain
  | anything => cases hplain
  | choice choices => cases hplain
  | withinComponent =>
      rw [List.count_eq_zero.mpr h]
      exact ⟨Nat.le_refl 0, Nat.zero_le _⟩
  | oneChar =>
      rcases h with ⟨c, rfl, hc⟩
      rw [List.count_singleton, beq_false_of_ne hc]
      exact ⟨Nat.le_refl 0, Nat.zero_le _⟩
  | literal c =>
      rcases h with rfl
      unfold slashes
      by_cases hslash : c = '/' <;> simp [hslash]
  | charClass negated body =>
      refine ⟨Nat.zero_le _, ?_⟩
      have hone : ∃ c, piece = [c] := by
        cases negated with
        | false => exact h.imp fun c hc => hc.1
        | true => exact h.imp fun c hc => hc.1
      rcases hone with ⟨c, rfl⟩
      by_cases hslash : c = '/'
      · rw [hslash] at h ⊢
        rw [crosses_of_takes h]
        exact Nat.le_add_left 1 _
      · rw [List.count_singleton, beq_false_of_ne hslash]
        exact Nat.zero_le _

end Element

/-!
# Slashes of a pattern and of its elements
-/

theorem Front.isSuffix (h : Front pattern element rest) : rest <:+ pattern := by
  cases h with
  | folders => exact ⟨['*', '*', '/'], rfl⟩
  | anything h => exact ⟨['*', '*'], rfl⟩
  | withinComponent h => exact ⟨['*'], rfl⟩
  | oneChar => exact ⟨['?'], rfl⟩
  | ofClass hne hmark hfree =>
      rename_i body
      exact ⟨'[' :: (body ++ [']']), by simp⟩
  | outsideClass hne hfree =>
      rename_i body
      exact ⟨'[' :: '!' :: (body ++ [']']), by simp⟩
  | choice hne hcommas hfree =>
      rename_i choices
      exact ⟨'{' :: (Text.joinWith ',' choices ++ ['}']), by simp⟩
  | bracket h => exact ⟨['['], rfl⟩
  | brace h => exact ⟨['{'], rfl⟩
  | character h =>
      rename_i c
      exact ⟨[c], rfl⟩

theorem Front.count_slash (h : Front pattern element rest) (hplain : IsPlain pattern) :
    element.IsPlain ∧ pattern.count '/' = element.slashes + rest.count '/' := by
  cases h with
  | folders => exact absurd ⟨[], _, rfl⟩ hplain.stars
  | anything h => exact absurd ⟨[], _, rfl⟩ hplain.stars
  | withinComponent h => exact ⟨trivial, by simp [Element.slashes]⟩
  | oneChar => exact ⟨trivial, by simp [Element.slashes]⟩
  | ofClass hne hmark hfree =>
      rename_i body
      have hbody : '/' ∉ body := hplain.brackets [] body rest rfl hfree
      exact ⟨trivial, by simp [Element.slashes, List.count_eq_zero.mpr hbody]⟩
  | outsideClass hne hfree =>
      rename_i body
      have hclosed : ']' ∉ '!' :: body := by
        rw [List.mem_cons, not_or]
        exact ⟨by decide, hfree⟩
      have hbody : '/' ∉ '!' :: body := hplain.brackets [] ('!' :: body) rest rfl hclosed
      rw [List.mem_cons, not_or] at hbody
      exact ⟨trivial, by simp [Element.slashes, List.count_eq_zero.mpr hbody.2]⟩
  | choice hne hcommas hfree => exact absurd List.mem_cons_self hplain.braces
  | bracket h => exact ⟨trivial, by simp [Element.slashes]⟩
  | brace h => exact absurd List.mem_cons_self hplain.braces
  | character h =>
      rename_i c
      refine ⟨trivial, ?_⟩
      unfold Element.slashes
      by_cases hslash : c = '/' <;> simp [hslash, Nat.add_comm]

theorem Reads.count_slash (h : Reads pattern elements rest) (hplain : IsPlain pattern) :
    (∀ element ∈ elements, element.IsPlain) ∧
      pattern.count '/' = (elements.map Element.slashes).sum + rest.count '/' := by
  induction h with
  | nothing rest => simp
  | element hfront hmore ih =>
      rcases hfront.count_slash hplain with ⟨helement, hcount⟩
      rcases ih (hplain.of_isSuffix hfront.isSuffix) with ⟨helements, hcounts⟩
      refine ⟨List.forall_mem_cons.mpr ⟨helement, helements⟩, ?_⟩
      rw [List.map_cons, List.sum_cons, hcount, hcounts, Nat.add_assoc]

/-!
# Slashes of a path that is cut
-/

theorem count_slash_of_cuts (hplain : ∀ element ∈ elements, element.IsPlain)
    (h : Cuts Element.TakesInLine elements path) :
    (elements.map Element.slashes).sum ≤ path.count '/' ∧
      path.count '/' ≤ (elements.map Element.slashes).sum + elements.countP Element.crosses := by
  induction elements generalizing path with
  | nil =>
      rw [cuts_nil.mp h]
      exact ⟨Nat.le_refl 0, Nat.le_refl 0⟩
  | cons element elements ih =>
      rcases cuts_cons.mp h with ⟨piece, behind, rfl, hpiece, hbehind⟩
      rcases List.forall_mem_cons.mp hplain with ⟨helement, helements⟩
      have hfirst := Element.count_slash_of_takes helement hpiece.1
      have hothers := ih helements hbehind
      have hone : (if element.crosses = true then 1 else 0) = element.crosses.toNat := by
        cases element.crosses <;> rfl
      rw [List.count_append, List.map_cons, List.sum_cons, List.countP_cons, hone]
      omega

/-- A class that a slash belongs to can take one in place of whatever it takes of a path. -/
theorem exists_cuts_more_slashes (hplain : ∀ element ∈ elements, element.IsPlain)
    (h : Cuts Element.TakesInLine elements path) (hmem : element ∈ elements)
    (hcrosses : element.crosses = true) :
    ∃ other, Cuts Element.TakesInLine elements other ∧
      (elements.map Element.slashes).sum < other.count '/' := by
  rcases List.append_of_mem hmem with ⟨front, back, rfl⟩
  rcases cuts_append.mp h with ⟨ahead, rest, rfl, hahead, hrest⟩
  rcases cuts_cons.mp hrest with ⟨piece, behind, rfl, _, hbehind⟩
  refine ⟨ahead ++ (['/'] ++ behind), ?_, ?_⟩
  · exact cuts_append.mpr ⟨ahead, ['/'] ++ behind, rfl, hahead,
      cuts_cons.mpr ⟨['/'], behind, rfl, Element.takes_slash hcrosses, hbehind⟩⟩
  · have hfront := count_slash_of_cuts (fun e he => hplain e (List.mem_append_left _ he)) hahead
    have hback := count_slash_of_cuts
      (fun e he => hplain e (List.mem_append_right _ (List.mem_cons_of_mem _ he))) hbehind
    have hnone : element.slashes = 0 := by
      cases element with
      | charClass negated body => rfl
      | _ => cases hcrosses
    simp only [List.map_append, List.map_cons, List.sum_append, List.sum_cons, hnone,
      List.count_append, List.count_singleton_self]
    omega

/-!
# The folders that a pattern reaches
-/

/-- A path that a plain pattern selects has the slashes of the pattern, and at most one more for
each of its classes that a slash belongs to.  Without such a class it has the same number, and with
one some other path is selected that has more. -/
theorem slashes_of_selects {pattern path : String} (hplain : IsPlain pattern.toList)
    (h : selects pattern path = true) :
    (pattern.toList.dropWhile (· = '/')).count '/' ≤ path.toList.count '/' ∧
      path.toList.count '/' ≤ (pattern.toList.dropWhile (· = '/')).count '/' +
        (Glob.elements pattern).countP Element.crosses ∧
      ((∀ element ∈ Glob.elements pattern, element.crosses = false) ↔
        ∀ other, selects pattern other = true →
          other.toList.count '/' = (pattern.toList.dropWhile (· = '/')).count '/') := by
  have hreads : Reads (pattern.toList.dropWhile (· = '/')) (Glob.elements pattern) [] :=
    reads_readElements _
  rcases hreads.count_slash (hplain.of_isSuffix (List.dropWhile_suffix _)) with
    ⟨helements, hcount⟩
  rw [List.count_nil, Nat.add_zero] at hcount
  have hbounds := fun (other : String) (hother : selects pattern other = true) =>
    count_slash_of_cuts helements (selects_iff_cuts_inLine.mp hother).2
  rcases selects_iff_cuts_inLine.mp h with ⟨hvalid, hcuts⟩
  rw [hcount]
  refine ⟨(hbounds path h).1, (hbounds path h).2, ?_, ?_⟩
  · intro hnone other hother
    have hzero : (Glob.elements pattern).countP Element.crosses = 0 := by
      rw [List.countP_eq_zero]
      intro element hmem hcrosses
      rw [hnone element hmem] at hcrosses
      cases hcrosses
    have hbound := hbounds other hother
    omega
  · intro hsame element hmem
    apply Bool.eq_false_iff.mpr
    intro hcrosses
    rcases exists_cuts_more_slashes helements hcuts hmem hcrosses with ⟨other, hother, hmore⟩
    have hselects : selects pattern (String.ofList other) = true := by
      rw [selects_iff_cuts_inLine, String.toList_ofList]
      exact ⟨hvalid, hother⟩
    have heq := hsame _ hselects
    rw [String.toList_ofList] at heq
    omega

def notesPattern : String := "//doc/[a-z]?*.md"

theorem notesPattern_slashes : IsPlain notesPattern.toList ∧
    selects notesPattern "doc/notes.md" = true ∧
    ∀ path, selects notesPattern path = true → path.toList.count '/' = 1 := by
  have hname : IsPlain "[a-z]?*.md".toList :=
    isPlain_of_no_slash (by decide +kernel) (by decide) (by decide)
  have hfolder : IsPlain "doc/[a-z]?*.md".toList :=
    (((hname.cons (by decide)).cons (by decide)).cons (by decide)).cons (by decide)
  have hplain : IsPlain notesPattern.toList := (hfolder.cons (by decide)).cons (by decide)
  have hselects : selects notesPattern "doc/notes.md" = true := by decide +kernel
  have hclasses : ∀ element ∈ Glob.elements notesPattern, element.crosses = false := by
    decide +kernel
  have hcount : (notesPattern.toList.dropWhile (· = '/')).count '/' = 1 := by decide
  have hsame := (slashes_of_selects hplain hselects).2.2.mp hclasses
  rw [hcount] at hsame
  exact ⟨hplain, hselects, hsame⟩

/-- A class of all characters but one reaches into a folder. -/
theorem negatedClass_crosses_folder : IsPlain "a[!b]c".toList ∧ isValid "a[!b]c" = true ∧
    selects "a[!b]c" "a/c" = true ∧
      "a/c".toList.count '/' ≠ ("a[!b]c".toList.dropWhile (· = '/')).count '/' := by
  refine ⟨?_, by decide +kernel, by decide +kernel, by decide⟩
  exact isPlain_of_no_slash (by decide +kernel) (by decide) (by decide)

/-- So does a range with the slash in it. -/
example : selects "a[+-9]c" "a/c" = true := by decide +kernel

end Glob
end Ownership
