import Mathlib.Data.List.Induction
import Mathlib.Data.List.Nodup
import Ownership.Text.Order

/-!
# Sorting by keys

Rows are sorted by a key that tells their elements apart, so the sorted row is the only one in that
order: two ways to the same elements end in the same row.
-/

namespace Ownership
namespace Text

variable {α β : Type} [LE β] [DecidableLE β] {key : α → β} {row other : List α}

/-!
# Rows sorted by a key
-/

theorem sortedBy_of_pairwise (h : row.Pairwise fun a b => key a ≤ key b) :
    (row.mergeSort fun a b => decide (key a ≤ key b)) = row := by
  apply List.mergeSort_of_pairwise
  apply h.imp
  intro a b hab
  exact decide_eq_true hab

variable [Std.IsLinearOrder β]

theorem sortedBy_trans (key : α → β) (a b c : α) (hab : decide (key a ≤ key b) = true)
    (hbc : decide (key b ≤ key c) = true) : decide (key a ≤ key c) = true :=
  decide_eq_true (Std.le_trans (of_decide_eq_true hab) (of_decide_eq_true hbc))

theorem sortedBy_total (key : α → β) (a b : α) :
    (decide (key a ≤ key b) || decide (key b ≤ key a)) = true := by
  rw [Bool.or_eq_true, decide_eq_true_eq, decide_eq_true_eq]
  exact Std.le_total

theorem pairwise_sortedBy (key : α → β) (row : List α) :
    (row.mergeSort fun a b => decide (key a ≤ key b)).Pairwise fun a b => key a ≤ key b := by
  apply (List.pairwise_mergeSort (sortedBy_trans key) (sortedBy_total key) row).imp
  intro a b hab
  exact of_decide_eq_true hab

theorem sortedBy_sortedBy (key : α → β) (row : List α) :
    ((row.mergeSort fun a b => decide (key a ≤ key b)).mergeSort fun a b =>
      decide (key a ≤ key b)) = row.mergeSort fun a b => decide (key a ≤ key b) :=
  sortedBy_of_pairwise (pairwise_sortedBy key row)

/-- With distinct keys the order in which the elements came does not show. -/
theorem sortedBy_eq_of_perm (hperm : other.Perm row) (hdistinct : (row.map key).Nodup) :
    (other.mergeSort fun a b => decide (key a ≤ key b)) =
      row.mergeSort fun a b => decide (key a ≤ key b) := by
  have hother := (List.mergeSort_perm other fun a b => decide (key a ≤ key b)).trans hperm
  have hrow := List.mergeSort_perm row fun a b => decide (key a ≤ key b)
  apply List.Perm.eq_of_pairwise ?_ (pairwise_sortedBy key other) (pairwise_sortedBy key row)
    (hother.trans hrow.symm)
  intro a b ha hb hab hba
  exact List.inj_on_of_nodup_map hdistinct (hother.mem_iff.mp ha) (hrow.mem_iff.mp hb)
    (Std.le_antisymm hab hba)

theorem filter_sortedBy [DecidableEq β] (key : α → β) (row : List α) (k : β) :
    (row.mergeSort fun a b => decide (key a ≤ key b)).filter (fun a => decide (key a = k)) =
      row.filter fun a => decide (key a = k) := by
  have htied : (row.filter fun a => decide (key a = k)).Pairwise
      fun a b => decide (key a ≤ key b) = true := by
    apply List.pairwise_of_forall_mem_list
    intro a ha b hb
    rw [List.mem_filter, decide_eq_true_eq] at ha hb
    rw [ha.2, hb.2]
    exact decide_eq_true (Std.le_refl k)
  have hsorted := List.sublist_mergeSort (sortedBy_trans key) (sortedBy_total key) htied
    List.filter_sublist
  have hkept := hsorted.filter fun a => decide (key a = k)
  rw [List.filter_filter] at hkept
  simp only [Bool.and_self] at hkept
  have hcount := ((List.mergeSort_perm row fun a b => decide (key a ≤ key b)).filter
    fun a => decide (key a = k)).length_eq
  exact (hkept.eq_of_length hcount.symm).symm

/-- Of two elements with one key that one comes first in the sorted row which came first before. -/
theorem before_sortedBy_iff [DecidableEq β] (key : α → β) {a b : α} (hkey : key a = key b) :
    [a, b].Sublist (row.mergeSort fun a b => decide (key a ≤ key b)) ↔ [a, b].Sublist row := by
  have hfilter : ∀ others : List α, [a, b].Sublist others ↔
      [a, b].Sublist (others.filter fun element => decide (key element = key b)) := by
    intro others
    constructor
    · intro h
      have hkept := h.filter fun element => decide (key element = key b)
      rwa [List.filter_eq_self.mpr (by simp [hkey])] at hkept
    · exact fun h => h.trans List.filter_sublist
  rw [hfilter, filter_sortedBy, ← hfilter]

theorem before_map_iff {γ : Type} {f : α → γ} {a b : α} (hdistinct : (row.map f).Nodup)
    (ha : a ∈ row) (hb : b ∈ row) :
    [f a, f b].Sublist (row.map f) ↔ [a, b].Sublist row := by
  constructor
  · intro h
    rcases List.sublist_map_iff.mp h with ⟨pair, hpair, heq⟩
    rcases List.map_eq_cons_iff.mp heq.symm with ⟨a', rest, rfl, haa', hrest⟩
    rcases List.map_eq_singleton_iff.mp hrest with ⟨b', rfl, hbb'⟩
    have hmem : a' ∈ row ∧ b' ∈ row := by
      constructor <;> apply hpair.subset <;> simp
    rwa [List.inj_on_of_nodup_map hdistinct hmem.1 ha haa',
      List.inj_on_of_nodup_map hdistinct hmem.2 hb hbb'] at hpair
  · exact fun h => h.map f

/-!
# Strictly sorted rows
-/

section
variable {β γ : Type} [LE β] [LT β] [Std.IsLinearOrder β] [Std.LawfulOrderLT β]

theorem pairwise_lt_of_nodup {row : List β} (h : row.Pairwise fun a b => a ≤ b)
    (hnodup : row.Nodup) : row.Pairwise (· < ·) := by
  apply (h.and hnodup).imp
  intro a b hab
  exact Std.lt_of_le_of_ne hab.1 hab.2

theorem pairwise_lt_sortedBy [DecidableLE β] {α : Type} (key : α → β) {row : List α}
    (h : (row.map key).Nodup) :
    (row.mergeSort fun a b => decide (key a ≤ key b)).Pairwise fun a b => key a < key b := by
  have hsorted := pairwise_sortedBy key row
  have hdistinct : ((row.mergeSort fun a b => decide (key a ≤ key b)).map key).Nodup :=
    ((List.mergeSort_perm row _).map key).nodup_iff.mpr h
  exact List.pairwise_map.mp (pairwise_lt_of_nodup (List.pairwise_map.mpr hsorted) hdistinct)

theorem forall₂_of_pairwise_lt {key : α → β} {otherKey : γ → β} {Matches : α → γ → Prop}
    {row : List α} {other : List γ} (hkeys : ∀ a b, Matches a b → key a = otherKey b)
    (hrow : row.Pairwise fun a b => key a < key b)
    (hother : other.Pairwise fun a b => otherKey a < otherKey b)
    (hmatch : ∀ a ∈ row, ∃ b ∈ other, Matches a b)
    (hback : ∀ b ∈ other, ∃ a ∈ row, Matches a b) : List.Forall₂ Matches row other := by
  induction row generalizing other with
  | nil =>
      cases other with
      | nil => exact .nil
      | cons b other =>
          rcases hback b List.mem_cons_self with ⟨a, ha, _⟩
          cases ha
  | cons a row ih =>
      cases other with
      | nil =>
          rcases hmatch a List.mem_cons_self with ⟨b, hb, _⟩
          cases hb
      | cons b other =>
          rw [List.pairwise_cons] at hrow hother
          -- each of the two heads is the least, so a match further down would be below one of them
          have hheads : Matches a b := by
            rcases hmatch a List.mem_cons_self with ⟨second, hsecond, hfirst⟩
            rcases List.mem_cons.mp hsecond with rfl | hlater
            · exact hfirst
            rcases hback b List.mem_cons_self with ⟨first, hmem, hsame⟩
            rcases List.mem_cons.mp hmem with rfl | hbelow
            · exact hsame
            have hup := hother.1 second hlater
            have hdown := hrow.1 first hbelow
            rw [← hkeys a second hfirst] at hup
            rw [hkeys first b hsame] at hdown
            exact absurd (Std.lt_trans hup hdown) Std.lt_irrefl
          have hkey := hkeys a b hheads
          refine .cons hheads (ih hrow.2 hother.2 ?_ ?_)
          · intro first hfirst
            rcases hmatch first (List.mem_cons_of_mem a hfirst) with ⟨second, hsecond, hsame⟩
            rcases List.mem_cons.mp hsecond with rfl | hlater
            · have habove := hrow.1 first hfirst
              rw [hkey, ← hkeys first second hsame] at habove
              exact absurd habove Std.lt_irrefl
            · exact ⟨second, hlater, hsame⟩
          · intro second hsecond
            rcases hback second (List.mem_cons_of_mem b hsecond) with ⟨first, hfirst, hsame⟩
            rcases List.mem_cons.mp hfirst with rfl | hlater
            · have habove := hother.1 second hsecond
              rw [← hkey, hkeys first second hsame] at habove
              exact absurd habove Std.lt_irrefl
            · exact ⟨first, hlater, hsame⟩

end

/-!
# Texts in order, each once
-/

variable {texts : List String} {text : String}

theorem nodup_eraseDups [BEq α] [LawfulBEq α] (row : List α) : row.eraseDups.Nodup := by
  induction hlength : row.length using Nat.strongRecOn generalizing row with
  | ind n ih =>
      cases row with
      | nil => exact List.nodup_nil
      | cons first others =>
          rw [List.eraseDups_cons, List.nodup_cons]
          constructor
          · rw [List.mem_eraseDups, List.mem_filter]
            intro h
            simp at h
          · have hshorter := List.length_filter_le (fun element => !element == first) others
            apply ih _ ?_ _ rfl
            rw [← hlength, List.length_cons]
            omega

theorem eraseDups_append_singleton [DecidableEq α] (row : List α) (last : α) :
    (row ++ [last]).eraseDups =
      if last ∈ row then row.eraseDups else row.eraseDups ++ [last] := by
  rw [List.eraseDups_append]
  by_cases h : last ∈ row <;> simp [List.removeAll, List.eraseDups_cons, h]

theorem filter_eraseDups [DecidableEq α] (keep : α → Bool) (row : List α) :
    row.eraseDups.filter keep = (row.filter keep).eraseDups := by
  induction row using List.reverseRecOn with
  | nil => rfl
  | append_singleton row last ih =>
      rw [eraseDups_append_singleton, List.filter_append]
      by_cases hkeep : keep last = true
      · have hmem : last ∈ row.filter keep ↔ last ∈ row := by
          rw [List.mem_filter, and_iff_left hkeep]
        rw [List.filter_cons_of_pos hkeep, List.filter_nil, eraseDups_append_singleton]
        split
        · rename_i hthere
          rw [if_pos (hmem.mpr hthere)]
          exact ih
        · rename_i hnew
          rw [if_neg (hmem.not.mpr hnew), List.filter_append, ih, List.filter_cons_of_pos hkeep,
            List.filter_nil]
      · rw [List.filter_cons_of_neg hkeep, List.filter_nil, List.append_nil]
        split
        · exact ih
        · rw [List.filter_append, ih, List.filter_cons_of_neg hkeep, List.filter_nil,
            List.append_nil]

theorem eraseDups_of_nodup (h : texts.Nodup) : texts.eraseDups = texts := by
  induction texts with
  | nil => rfl
  | cons first others ih =>
      rw [List.nodup_cons] at h
      have hothers : others.filter (fun text => !text == first) = others := by
        rw [List.filter_eq_self]
        intro text htext
        rw [Bool.not_eq_true', beq_eq_false_iff_ne]
        intro heq
        exact h.1 (heq ▸ htext)
      rw [List.eraseDups_cons, hothers, ih h.2]

theorem mem_sortedDistinct : text ∈ sortedDistinct texts ↔ text ∈ texts := by
  unfold sortedDistinct
  rw [mem_sorted, List.mem_eraseDups]

theorem nodup_sortedDistinct (texts : List String) : (sortedDistinct texts).Nodup := by
  apply (List.mergeSort_perm texts.eraseDups _).nodup_iff.mpr
  exact nodup_eraseDups texts

theorem pairwise_sortedDistinct (texts : List String) : (sortedDistinct texts).Pairwise (· < ·) :=
  pairwise_lt_of_nodup (pairwise_sortedBy id texts.eraseDups) (nodup_sortedDistinct texts)

theorem sortedDistinct_sortedDistinct (texts : List String) :
    sortedDistinct (sortedDistinct texts) = sortedDistinct texts := by
  have hnodup := nodup_sortedDistinct texts
  conv_lhs => rw [sortedDistinct, eraseDups_of_nodup hnodup]
  exact sortedBy_sortedBy id texts.eraseDups

theorem sortedDistinct_singleton (text : String) : sortedDistinct [text] = [text] := by
  unfold sortedDistinct
  rw [eraseDups_of_nodup (List.nodup_singleton text)]
  exact List.mergeSort_singleton text

theorem sortedDistinct_eq_nil : sortedDistinct texts = [] ↔ texts = [] := by
  rw [List.eq_nil_iff_forall_not_mem, List.eq_nil_iff_forall_not_mem]
  constructor
  · intro h text htext
    exact h text (mem_sortedDistinct.mpr htext)
  · intro h text htext
    exact h text (mem_sortedDistinct.mp htext)

end Text
end Ownership
