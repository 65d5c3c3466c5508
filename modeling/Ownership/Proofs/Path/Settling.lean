import Ownership.Proofs.Path.Folders

/-!
# Normalizing a normal form

A normal form stays as it is unless its last letter is a blank, which a path can have where a slash
or a dot stood behind it.  The blank is lost at the second time, and with it the last component if
nothing or a dot is left of it.  If two dots are left, the normal form is refused.
-/

namespace Ownership
namespace Path

variable {path normal : String} {above : List (List Char)} {last : List Char}

theorem settle_cases (above : List (List Char)) (last : List Char) :
    settle above last = above ∨ settle above last = above ++ [Text.trimRight last] := by
  unfold settle
  rcases List.sublist_singleton.mp List.filter_sublist with hgone | hkept
  · rw [hgone]
    exact .inl (List.append_nil above)
  · rw [hkept]
    exact .inr rfl

theorem ofComponents_prefix (above : List (List Char)) (last : List Char) :
    ofComponents above <+: ofComponents (above ++ [last]) := by
  rw [ofComponents_append_singleton]
  cases above with
  | nil => exact ⟨last, rfl⟩
  | cons first others =>
      rw [ofComponents_eq_slashed (List.cons_ne_nil first others)]
      exact List.prefix_append _ _

theorem ofComponents_settle_prefix (above : List (List Char)) (last : List Char) :
    ofComponents (settle above last) <+: ofComponents (above ++ [last]) := by
  rcases settle_cases above last with hgone | hkept
  · rw [hgone]
    exact ofComponents_prefix above last
  · rw [hkept, ofComponents_append_singleton, ofComponents_append_singleton,
      List.prefix_append_right_inj, List.cons_prefix_cons]
    exact ⟨rfl, List.rdropWhile_prefix Text.isBlank last⟩

theorem normalize_ofParts_append (habove : ∀ part ∈ above, IsComponent part)
    (hlast : IsComponent last) :
    normalize (ofParts (above ++ [last])) =
      if Text.trimRight last = ['.', '.'] then .error ⟨ofParts (above ++ [last]), .climbs⟩
      else .ok (ofParts (settle above last)) := by
  unfold normalize
  rw [toList_ofParts, normalForm_again habove hlast]
  by_cases hdots : Text.trimRight last = ['.', '.']
  · rw [if_pos hdots, if_pos hdots]
  · rw [if_neg hdots, if_neg hdots]
    rfl

theorem last_of_settle (hlast : last ≠ [])
    (h : ofParts (settle above last) = ofParts (above ++ [last])) :
    ∀ c ∈ (ofComponents (above ++ [last])).getLast?, Text.isBlank c = false := by
  rcases settle_cases above last with hgone | hkept
  · rw [hgone] at h
    exact absurd (congrArg String.length h)
      (length_ofParts_append_singleton hlast List.prefix_rfl).ne
  · have hletters := congrArg String.toList h
    rw [hkept, toList_ofParts, toList_ofParts, ofComponents_append_singleton,
      ofComponents_append_singleton, List.append_cancel_left_eq] at hletters
    injection hletters with _ htrim
    intro c hc
    rw [ofComponents_append_singleton, List.getLast?_append_of_ne_nil _ (by simp),
      List.getLast?_cons_of_ne_nil hlast, ← htrim] at hc
    exact Text.last_trimRight hc

/-- Normalizing a normal form again can only take letters from its end, and takes none exactly if the
last one is not blank. -/
theorem normalize_normal (h : normalize path = .ok normal) :
    (normalize normal = .ok normal ↔ ∀ c ∈ normal.toList.getLast?, Text.isBlank c = false) ∧
    (∀ again, normalize normal = .ok again → again.toList <+: normal.toList) ∧
    ∀ above last, components normal.toList = above ++ [last] →
      normalize normal =
        if Text.trimRight last = ['.', '.'] then .error ⟨normal, .climbs⟩
        else .ok (ofParts (settle above last)) := by
  have hnormal := (normalize_eq_ok h).1
  have hhead : ∀ c ∈ normal.toList.head?, Text.isBlank c = false := by
    rw [head_of_isNormal hnormal]
    intro c hc
    cases hc
    decide
  have hstays : (∀ c ∈ normal.toList.getLast?, Text.isBlank c = false) →
      normalize normal = .ok normal := fun hlast => normalize_of_isNormal hnormal ⟨hhead, hlast⟩
  rcases exists_parts h with ⟨parts, rfl, hparts⟩
  rw [toList_ofParts, components_ofComponents hparts] at *
  cases parts using List.reverseRecOn with
  | nil =>
      have hend : ∀ c ∈ (ofComponents []).getLast?, Text.isBlank c = false := hhead
      refine ⟨iff_of_true (hstays hend) hend, ?_, fun above last hsplit => by simp at hsplit⟩
      intro again hagain
      rw [hstays hend] at hagain
      cases hagain
      exact List.prefix_rfl
  | append_singleton above last _ =>
      have hlast := hparts last (by simp)
      have hsecond := normalize_ofParts_append
        (fun part hpart => hparts part (List.mem_append_left _ hpart)) hlast
      refine ⟨⟨fun hsame => ?_, hstays⟩, fun again hagain => ?_, fun before part hsplit => ?_⟩
      · rw [hsecond] at hsame
        split at hsame
        · cases hsame
        · exact last_of_settle hlast.nonempty (Except.ok.inj hsame)
      · rw [hsecond] at hagain
        split at hagain
        · cases hagain
        · cases hagain
          rw [toList_ofParts]
          exact ofComponents_settle_prefix above last
      · rcases List.append_inj' hsplit rfl with ⟨rfl, hsame⟩
        rw [hsecond, (List.cons.inj hsame).1]

/-- A path can take several times to settle. -/
theorem notes_settle_slowly :
    normalize "/notes /. /" = .ok "/notes /. " ∧ normalize "/notes /. " = .ok "/notes " ∧
      normalize "/notes " = .ok "/notes" ∧ normalize "/notes" = .ok "/notes" := by
  have hfirst : normalize "/notes /. /" = .ok "/notes /. " := by decide +kernel
  have hparts : components "/notes /. ".toList = ["notes ".toList] ++ [". ".toList] := by
    decide +kernel
  have hsecond := (normalize_normal hfirst).2.2 _ _ hparts
  rw [if_neg (by decide +kernel)] at hsecond
  have hthird : normalize "/notes " = .ok "/notes" := by decide +kernel
  have hend : ∀ c ∈ "/notes".toList.getLast?, Text.isBlank c = false := by
    have hlast : "/notes".toList.getLast? = some 's' := by decide +kernel
    rw [hlast]
    intro c hc
    cases hc
    decide
  exact ⟨hfirst, hsecond, hthird, (normalize_normal hthird).1.mpr hend⟩

/-- A normal form with a blank at its end can change and can be refused. -/
theorem blank_ends_unsettled :
    normalize "/a / " = .ok "/a " ∧ normalize "/a " = .ok "/a" ∧
      normalize "/.. /" = .ok "/.. " ∧ normalize "/.. " = .error ⟨"/.. ", .climbs⟩ := by
  decide +kernel

end Path
end Ownership
