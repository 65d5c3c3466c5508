import Ownership.Proofs.Glob.Cuts

/-!
# Widening a star

Where a star of a pattern is written twice, the element takes more pieces: those that run across
folders.  Behind the place the pattern may be read differently, as a slash there belongs to the
wider element.  The one thing that gets lost are pieces with a line feed, which a single star takes
and a double star does not.
-/

namespace Ownership
namespace Glob

variable {pattern rest behind ahead path piece after : List Char} {element : Element}
  {elements : List Element}

/-!
# Reading up to the star
-/

theorem head_widened (ahead after : List Char) :
    (ahead ++ '*' :: '*' :: after).head? = (ahead ++ '*' :: after).head? := by
  cases ahead with
  | nil => rfl
  | cons c ahead => rfl

theorem mem_widened {c : Char} :
    c ∈ ahead ++ '*' :: '*' :: after ↔ c ∈ ahead ++ '*' :: after := by
  simp

theorem NoClass.widened (h : NoClass (ahead ++ '*' :: after)) :
    NoClass (ahead ++ '*' :: '*' :: after) := by
  generalize hrest : ahead ++ '*' :: after = rest at h
  cases h with
  | unclosed hfree =>
      rw [← hrest] at hfree
      exact .unclosed fun hmem => hfree (mem_widened.mp hmem)
  | empty behind =>
      cases ahead with
      | nil => cases hrest
      | cons c ahead =>
          cases hrest
          exact .empty _
  | negatedEmpty behind =>
      cases ahead with
      | nil => cases hrest
      | cons c ahead =>
          cases ahead with
          | nil => cases hrest
          | cons d ahead =>
              cases hrest
              exact .negatedEmpty _

/-- An element in front of a star is the same in front of two. -/
theorem Front.widened (h : Front pattern element (ahead ++ '*' :: after)) :
    ∃ before, pattern = before ++ '*' :: after ∧
      Front (before ++ '*' :: '*' :: after) element (ahead ++ '*' :: '*' :: after) := by
  cases h with
  | folders => exact ⟨'*' :: '*' :: '/' :: ahead, rfl, .folders⟩
  | anything h =>
      rw [← head_widened] at h
      exact ⟨'*' :: '*' :: ahead, rfl, .anything h⟩
  | withinComponent h =>
      rw [← head_widened] at h
      exact ⟨'*' :: ahead, rfl, .withinComponent h⟩
  | oneChar => exact ⟨'?' :: ahead, rfl, .oneChar⟩
  | ofClass hne hmark hfree =>
      rename_i body
      refine ⟨'[' :: (body ++ ']' :: ahead), by simp, ?_⟩
      rw [List.cons_append, List.append_assoc]
      exact .ofClass hne hmark hfree
  | outsideClass hne hfree =>
      rename_i body
      refine ⟨'[' :: '!' :: (body ++ ']' :: ahead), by simp, ?_⟩
      rw [List.cons_append, List.cons_append, List.append_assoc]
      exact .outsideClass hne hfree
  | choice hne hcommas hfree =>
      rename_i choices
      refine ⟨'{' :: (Text.joinWith ',' choices ++ '}' :: ahead), by simp, ?_⟩
      rw [List.cons_append, List.append_assoc]
      exact .choice hne hcommas hfree
  | bracket h => exact ⟨'[' :: ahead, rfl, .bracket h.widened⟩
  | brace h => exact ⟨'{' :: ahead, rfl, .brace fun hmem => h (mem_widened.mp hmem)⟩
  | character h =>
      rename_i c
      exact ⟨c :: ahead, rfl, .character h⟩

theorem Reads.widened (h : Reads pattern elements (ahead ++ '*' :: after)) :
    ∃ before, pattern = before ++ '*' :: after ∧
      Reads (before ++ '*' :: '*' :: after) elements (ahead ++ '*' :: '*' :: after) := by
  generalize hrest : ahead ++ '*' :: after = rest at h
  induction h with
  | nothing rest => exact ⟨ahead, hrest.symm, .nothing _⟩
  | element hfront hmore ih =>
      rcases ih hrest with ⟨more, rfl, hbehind⟩
      rcases hfront.widened with ⟨before, rfl, hwider⟩
      exact ⟨before, rfl, .element hwider hbehind⟩

theorem dropWhile_slash_star (before after : List Char) :
    (before ++ '*' :: after).dropWhile (· = '/') = before.dropWhile (· = '/') ++ '*' :: after := by
  rw [List.dropWhile_append]
  split
  · rename_i hempty
    rw [List.isEmpty_iff.mp hempty]
    rfl
  · rfl

/-!
# Reading on behind the star
-/

theorem readElements_star (h : after.head? ≠ some '*') :
    readElements ('*' :: after) = .withinComponent :: readElements after :=
  readElements_of_front (.withinComponent h)

theorem cuts_doubleStar (hline : '\n' ∉ piece)
    (hcuts : Cuts Element.TakesInLine (readElements after) behind) :
    Cuts Element.TakesInLine (readElements ('*' :: '*' :: after)) (piece ++ behind) := by
  by_cases hhead : after.head? = some '/'
  · rcases List.head?_eq_some_iff.mp hhead with ⟨more, rfl⟩
    -- the slash behind the star now belongs to the element
    rw [readElements_of_front (.character (by decide)), cuts_cons] at hcuts
    rcases hcuts with ⟨slash, rest, rfl, htakes, hcuts⟩
    have hslash : slash = ['/'] := htakes.1
    rw [readElements_of_front .folders, cuts_cons]
    refine ⟨piece ++ slash, rest, (List.append_assoc _ _ _).symm, ?_, hcuts⟩
    rw [hslash]
    exact takesInLine_folders.mpr (.inr ⟨piece, rfl, hline⟩)
  · rw [readElements_of_front (.anything hhead), cuts_cons]
    exact ⟨piece, behind, rfl, takesInLine_anything.mpr hline, hcuts⟩

theorem mem_readElements_doubleStar (h : element ∈ readElements ('*' :: '*' :: after)) :
    element.IsDoubleStar ∨ element ∈ readElements after := by
  by_cases hhead : after.head? = some '/'
  · rcases List.head?_eq_some_iff.mp hhead with ⟨more, rfl⟩
    rw [readElements_of_front .folders] at h
    rw [readElements_of_front (.character (by decide))]
    rcases List.mem_cons.mp h with rfl | hmore
    · exact .inl (.inl rfl)
    · exact .inr (List.mem_cons_of_mem _ hmore)
  · rw [readElements_of_front (.anything hhead)] at h
    rcases List.mem_cons.mp h with rfl | hafter
    · exact .inl (.inr rfl)
    · exact .inr hafter

theorem not_isReversed_of_isDoubleStar (h : element.IsDoubleStar) : ¬ element.IsReversed := by
  rcases h with rfl | rfl
  · exact id
  · exact id

/-!
# The widened pattern
-/

/-- The star between two parts of a pattern is read as an element of its own. -/
def LoneStar (before after : String) : Prop :=
  after.toList.head? ≠ some '*' ∧
    ∃ elements, Reads ((before ++ "*" ++ after).toList.dropWhile (· = '/')) elements
      ('*' :: after.toList)

/-- The path can be cut by the pattern with a star between two parts such that the star takes the
piece. -/
def StarTakes (before after : String) (path piece : List Char) : Prop :=
  ∃ front back ahead behind,
    Reads ((before ++ "*" ++ after).toList.dropWhile (· = '/')) front ('*' :: after.toList) ∧
      Reads after.toList back [] ∧ path = ahead ++ (piece ++ behind) ∧
      Cuts Element.TakesInLine front ahead ∧ '/' ∉ piece ∧ Cuts Element.TakesInLine back behind

variable {before after path : String} {front : List Element} {piece : List Char}

theorem elements_of_star (hhead : after.toList.head? ≠ some '*')
    (h : Reads ((before ++ "*" ++ after).toList.dropWhile (· = '/')) front ('*' :: after.toList)) :
    Glob.elements (before ++ "*" ++ after) =
      front ++ .withinComponent :: readElements after.toList := by
  rw [← readElements_star hhead]
  exact readElements_of_reads h

theorem elements_widened
    (h : Reads ((before ++ "*" ++ after).toList.dropWhile (· = '/')) front ('*' :: after.toList)) :
    Glob.elements (before ++ "**" ++ after) =
      front ++ readElements ('*' :: '*' :: after.toList) := by
  have hstar : (before ++ "*" ++ after).toList = before.toList ++ '*' :: after.toList := by simp
  have hstars : (before ++ "**" ++ after).toList = before.toList ++ '*' :: '*' :: after.toList := by
    simp
  rw [hstar, dropWhile_slash_star, ← List.nil_append ('*' :: after.toList)] at h
  rcases h.widened with ⟨more, hmore, hwider⟩
  have hbefore : more = before.toList.dropWhile (· = '/') := (List.append_cancel_right hmore).symm
  unfold Glob.elements
  rw [hstars, dropWhile_slash_star, ← hbefore]
  exact readElements_of_reads hwider

/-- A path that a pattern selects is selected as well by the pattern with a star widened to a double
star, unless every piece that the star can take has a line feed in it. -/
theorem selects_widened (hstar : LoneStar before after)
    (hselects : selects (before ++ "*" ++ after) path = true) :
    (∃ piece, StarTakes before after path.toList piece) ∧
      (∀ piece, StarTakes before after path.toList piece → '\n' ∉ piece →
        selects (before ++ "**" ++ after) path = true) ∧
      ('\n' ∉ path.toList → selects (before ++ "**" ++ after) path = true) := by
  rcases hstar with ⟨hhead, front, hfront⟩
  rcases selects_iff_cuts_inLine.mp hselects with ⟨hvalid, hcuts⟩
  rw [elements_of_star hhead hfront] at hcuts
  have htaken : ∃ piece, StarTakes before after path.toList piece := by
    rcases cuts_append.mp hcuts with ⟨ahead, rest, hpath, hahead, hrest⟩
    rcases cuts_cons.mp hrest with ⟨piece, behind, rfl, hpiece, hbehind⟩
    exact ⟨piece, front, _, ahead, behind, hfront, reads_readElements _, hpath, hahead, hpiece.1,
      hbehind⟩
  have hwider : ∀ piece, StarTakes before after path.toList piece → '\n' ∉ piece →
      selects (before ++ "**" ++ after) path = true := by
    intro piece htakes hline
    rcases htakes with ⟨others, back, ahead, behind, hothers, hback, hpath, hahead, _, hbehind⟩
    rw [reads_iff.mp hback] at hbehind
    rw [elements_of_star hhead hothers] at hvalid
    rw [selects_iff_cuts_inLine, elements_widened hothers]
    constructor
    · intro element helement
      rcases List.mem_append.mp helement with hmem | hmem
      · exact hvalid element (List.mem_append_left _ hmem)
      · rcases mem_readElements_doubleStar hmem with hdouble | hafter
        · exact not_isReversed_of_isDoubleStar hdouble
        · exact hvalid element (List.mem_append_right _ (List.mem_cons_of_mem _ hafter))
    · exact cuts_append.mpr ⟨ahead, piece ++ behind, hpath, hahead, cuts_doubleStar hline hbehind⟩
  refine ⟨htaken, hwider, ?_⟩
  intro hline
  rcases htaken with ⟨piece, htakes⟩
  apply hwider piece htakes
  rcases htakes with ⟨_, _, ahead, behind, _, _, hpath, _⟩
  rw [hpath] at hline
  simp only [List.mem_append, not_or] at hline
  exact hline.2.1

/-- The star in the class is none, and the one behind it takes the slash along when it is widened. -/
theorem starClass_widened : LoneStar "[*]" "/?.md" ∧
    selects ("[*]" ++ "*" ++ "/?.md") "*x/a.md" = true ∧
      selects ("[*]" ++ "**" ++ "/?.md") "*x/a.md" = true := by
  have hform : ("[*]" ++ "*" ++ "/?.md").toList.dropWhile (· = '/') =
      '[' :: (['*'] ++ ']' :: '*' :: "/?.md".toList) := by decide
  have hstar : LoneStar "[*]" "/?.md" := by
    refine ⟨by decide, [.charClass false ['*']], ?_⟩
    rw [hform]
    exact .element (.ofClass (by decide) (by decide) (by decide)) (.nothing _)
  have hselects : selects ("[*]" ++ "*" ++ "/?.md") "*x/a.md" = true := by decide +kernel
  exact ⟨hstar, hselects, (selects_widened hstar hselects).2.2 (by decide)⟩

/-- A name with a line feed in it is lost. -/
theorem lineFeed_lost_by_widening : LoneStar "" ".md" ∧ isValid ("" ++ "*" ++ ".md") = true ∧
    selects ("" ++ "*" ++ ".md") "a\nb.md" = true ∧
      selects ("" ++ "**" ++ ".md") "a\nb.md" = false := by
  refine ⟨⟨by decide, [], ?_⟩, by decide +kernel, by decide +kernel, by decide +kernel⟩
  have hform : ("" ++ "*" ++ ".md").toList.dropWhile (· = '/') = '*' :: ".md".toList := by decide
  rw [hform]
  exact .nothing _

end Glob
end Ownership
