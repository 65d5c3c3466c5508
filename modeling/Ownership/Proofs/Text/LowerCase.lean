import Ownership.Proofs.Text.Pieces
import Ownership.Text.LowerCase

/-!
# Lower case once and for all

A text in lower case holds no letter that has another lower case, so changing it again changes
nothing.  The runs of capitals show this for single letters: no run leads into a run, nor to the
dotted capital I.  Nor does a run lead to a blank, so that a trimmed text stays trimmed.
-/

namespace Ownership
namespace Text

variable {c : Char} {before s : List Char} {run other : Nat × Nat × Nat × Int} {n : Nat}

/-!
# Where the runs lead
-/

def InRun (run : Nat × Nat × Nat × Int) (n : Nat) : Prop :=
  run.1 ≤ n ∧ n ≤ run.2.1 ∧ (n - run.1) % run.2.2.1 = 0

instance (run : Nat × Nat × Nat × Int) (n : Nat) : Decidable (InRun run n) :=
  inferInstanceAs (Decidable (_ ∧ _ ∧ _))

def image (run : Nat × Nat × Nat × Int) : Nat × Nat :=
  ((run.1 + run.2.2.2).toNat, (run.2.1 + run.2.2.2).toNat)

def apart (a b : Nat × Nat) : Bool := Nat.blt a.2 b.1 || Nat.blt b.2 a.1

/-- Whether a run leads past another one, if need be by leading to numbers of the other parity. -/
def leadsPast (run other : Nat × Nat × Nat × Int) : Bool :=
  apart (image run) (other.1, other.2.1) ||
    decide ((run.2.2.1 = 2 ∨ run.1 = run.2.1) ∧ other.2.2.1 = 2 ∧
      ((image run).1 + other.1) % 2 = 1)

def blankRanges : List (Nat × Nat) := [
  (9, 13), (28, 32), (0x85, 0x85), (0xA0, 0xA0), (0x1680, 0x1680), (0x2000, 0x200A),
  (0x2028, 0x2029), (0x202F, 0x202F), (0x205F, 0x205F), (0x3000, 0x3000)]

/-- Whether a run leads to letters only, none of them blank or the dotted capital I. -/
def leadsToLetters (run : Nat × Nat × Nat × Int) : Bool :=
  decide (0 ≤ run.1 + run.2.2.2 ∧ (image run).2 < 0x110000) &&
    ((0xD800, 0xDFFF) :: (304, 304) :: blankRanges).all (apart (image run))

theorem leadsPast_all : (lowerRuns.all fun run => lowerRuns.all (leadsPast run)) = true := by
  decide +kernel

theorem leadsToLetters_all : lowerRuns.all leadsToLetters = true := by
  decide +kernel

theorem apart_iff {a b : Nat × Nat} : apart a b = true ↔ a.2 < b.1 ∨ b.2 < a.1 := by
  unfold apart
  rw [Bool.or_eq_true, Nat.blt_eq, Nat.blt_eq]

/-- What is known of a number that a run leads to. -/
theorem image_of_inRun (hrun : run ∈ lowerRuns) (h : InRun run n) :
    (image run).1 ≤ (n + run.2.2.2).toNat ∧ (n + run.2.2.2).toNat ≤ (image run).2 ∧
      ((run.2.2.1 = 2 ∨ run.1 = run.2.1) →
        ((n + run.2.2.2).toNat + (image run).1) % 2 = 0) := by
  have hletters := List.all_eq_true.mp leadsToLetters_all run hrun
  unfold leadsToLetters at hletters
  rw [Bool.and_eq_true, decide_eq_true_eq] at hletters
  rcases h with ⟨hfirst, hlast, hstep⟩
  unfold image at hletters ⊢
  refine ⟨by omega, by omega, fun heven => ?_⟩
  rcases heven with htwo | hsingle
  · rw [htwo] at hstep
    omega
  · omega

theorem not_inRun_of_inRun (hrun : run ∈ lowerRuns) (h : InRun run n) (hother : other ∈ lowerRuns) :
    ¬InRun other (n + run.2.2.2).toNat := by
  have hpast := List.all_eq_true.mp (List.all_eq_true.mp leadsPast_all run hrun) other hother
  unfold leadsPast at hpast
  rw [Bool.or_eq_true, apart_iff, decide_eq_true_eq] at hpast
  rcases image_of_inRun hrun h with ⟨hlow, hhigh, hparity⟩
  intro hin
  rcases hin with ⟨hfirst, hlast, hstep⟩
  rcases hpast with hapart | ⟨heven, htwo, hodd⟩
  · dsimp only at hapart
    omega
  · have hsame := hparity heven
    rw [htwo] at hstep
    omega

theorem apart_of_inRun (hrun : run ∈ lowerRuns) (h : InRun run n) {range : Nat × Nat}
    (hrange : range ∈ (0xD800, 0xDFFF) :: (304, 304) :: blankRanges) :
    (n + run.2.2.2).toNat < range.1 ∨ range.2 < (n + run.2.2.2).toNat := by
  have hletters := List.all_eq_true.mp leadsToLetters_all run hrun
  unfold leadsToLetters at hletters
  rw [Bool.and_eq_true] at hletters
  have hapart := apart_iff.mp (List.all_eq_true.mp hletters.2 range hrange)
  rcases image_of_inRun hrun h with ⟨hlow, hhigh, _⟩
  omega

/-!
# Letters in lower case
-/

def IsLow (c : Char) : Prop := (∀ run ∈ lowerRuns, ¬InRun run c.toNat) ∧ c ≠ 'İ'

instance : DecidablePred IsLow :=
  fun _ => inferInstanceAs (Decidable ((∀ run ∈ lowerRuns, _) ∧ _))

theorem mem_blankRanges_of_isBlank (h : isBlank c = true) :
    ∃ range ∈ blankRanges, range.1 ≤ c.toNat ∧ c.toNat ≤ range.2 := by
  unfold isBlank at h
  simp only [Bool.or_eq_true, Bool.and_eq_true, decide_eq_true_eq] at h
  simp only [blankRanges, List.mem_cons, List.not_mem_nil, or_false, exists_eq_or_imp,
    exists_eq_left]
  omega

theorem lowerLetter_cases (c : Char) :
    (∃ run ∈ lowerRuns, InRun run c.toNat ∧
      lowerLetter c = Char.ofNat (c.toNat + run.2.2.2).toNat) ∨
    (∀ run ∈ lowerRuns, ¬InRun run c.toNat) ∧ lowerLetter c = c := by
  unfold lowerLetter
  dsimp only
  split
  · rename_i first last step distance hfound
    have hin := List.find?_some hfound
    exact .inl ⟨_, List.mem_of_find?_eq_some hfound, of_decide_eq_true hin, rfl⟩
  · rename_i hnone
    refine .inr ⟨fun run hrun hin => ?_, rfl⟩
    exact List.find?_eq_none.mp hnone run hrun (decide_eq_true hin)

theorem lowerLetter_of_isLow (h : IsLow c) : lowerLetter c = c := by
  rcases lowerLetter_cases c with ⟨run, hrun, hin, _⟩ | ⟨_, hsame⟩
  · exact absurd hin (h.1 run hrun)
  · exact hsame

theorem toNat_of_inRun (hrun : run ∈ lowerRuns) (h : InRun run n) :
    (Char.ofNat (n + run.2.2.2).toNat).toNat = (n + run.2.2.2).toNat := by
  have hletters := List.all_eq_true.mp leadsToLetters_all run hrun
  unfold leadsToLetters at hletters
  rw [Bool.and_eq_true, decide_eq_true_eq] at hletters
  have hhigh := (image_of_inRun hrun h).2.1
  have hgap := apart_of_inRun hrun h List.mem_cons_self
  dsimp only at hgap
  have hvalid : (n + run.2.2.2).toNat.isValidChar := by
    unfold Nat.isValidChar
    omega
  unfold Char.ofNat
  rw [dif_pos hvalid]
  rfl

theorem isLow_lowerLetter (h : c ≠ 'İ') : IsLow (lowerLetter c) := by
  rcases lowerLetter_cases c with ⟨run, hrun, hin, hletter⟩ | ⟨hnone, hsame⟩
  · have hnumber := toNat_of_inRun hrun hin
    rw [hletter]
    refine ⟨fun other hother => ?_, fun heq => ?_⟩
    · rw [hnumber]
      exact not_inRun_of_inRun hrun hin hother
    · have hapart := apart_of_inRun hrun hin (List.mem_cons_of_mem _ List.mem_cons_self)
      rw [heq] at hnumber
      change 304 = _ at hnumber
      dsimp only at hapart
      omega
  · rw [hsame]
    exact ⟨hnone, h⟩

theorem isBlank_lowerLetter (h : isBlank c = false) : isBlank (lowerLetter c) = false := by
  rcases lowerLetter_cases c with ⟨run, hrun, hin, hletter⟩ | ⟨_, hsame⟩
  · rw [hletter, Bool.eq_false_iff]
    intro hblank
    rcases mem_blankRanges_of_isBlank hblank with ⟨range, hrange, hlow, hhigh⟩
    rw [toNat_of_inRun hrun hin] at hlow hhigh
    have hapart := apart_of_inRun hrun hin
      (List.mem_cons_of_mem _ (List.mem_cons_of_mem _ hrange))
    omega
  · rw [hsame]
    exact h

/-!
# Texts in lower case
-/

def lowered (before : List Char) (c : Char) (rest : List Char) : List Char :=
  if c = 'Σ' then
    if nearestIsCased before && !nearestIsCased rest then ['ς'] else ['σ']
  else if c = 'İ' then ['i', '\u0307']
  else [lowerLetter c]

theorem lowerFrom_cons (before : List Char) (c : Char) (rest : List Char) :
    lowerFrom before (c :: rest) = lowered before c rest ++ lowerFrom (c :: before) rest := rfl

theorem lowered_ne_nil (before : List Char) (c : Char) (rest : List Char) :
    lowered before c rest ≠ [] := by
  unfold lowered
  split
  · split <;> exact List.cons_ne_nil _ _
  · split <;> exact List.cons_ne_nil _ _

theorem mem_lowered {d : Char} {rest : List Char} (h : d ∈ lowered before c rest) :
    d ∈ ['ς', 'σ', 'i', '\u0307'] ∨ c ≠ 'İ' ∧ d = lowerLetter c := by
  unfold lowered at h
  split at h
  · left
    split at h <;> simp [List.mem_singleton.mp h]
  · split at h
    · exact .inl (List.mem_cons_of_mem _ (List.mem_cons_of_mem _ h))
    · rename_i hdotted
      exact .inr ⟨hdotted, List.mem_singleton.mp h⟩

theorem isLow_of_mem_lowered {d : Char} {rest : List Char} (h : d ∈ lowered before c rest) :
    IsLow d := by
  rcases mem_lowered h with hspecial | ⟨hdotted, hletter⟩
  · exact forall_mem_of_all (by decide +kernel) d hspecial
  · rw [hletter]
    exact isLow_lowerLetter hdotted

theorem isBlank_of_mem_lowered {d : Char} {rest : List Char} (h : d ∈ lowered before c rest)
    (hc : isBlank c = false) : isBlank d = false := by
  rcases mem_lowered h with hspecial | ⟨_, hletter⟩
  · exact forall_mem_of_all (p := fun d => isBlank d = false) (by decide) d hspecial
  · rw [hletter]
    exact isBlank_lowerLetter hc

theorem lowered_of_isLow (h : IsLow c) (before rest : List Char) : lowered before c rest = [c] := by
  have hsigma : c ≠ 'Σ' := by
    intro heq
    have hrun : (931, 939, 1, 32) ∈ lowerRuns := by decide +kernel
    exact h.1 _ hrun (by rw [heq]; decide)
  unfold lowered
  rw [if_neg hsigma, if_neg h.2, lowerLetter_of_isLow h]

theorem isLow_of_mem_lowerFrom {d : Char} (h : d ∈ lowerFrom before s) : IsLow d := by
  induction s generalizing before with
  | nil => cases h
  | cons c rest ih =>
      rw [lowerFrom_cons] at h
      rcases List.mem_append.mp h with hhere | hrest
      · exact isLow_of_mem_lowered hhere
      · exact ih hrest

theorem lowerFrom_of_isLow (h : ∀ c ∈ s, IsLow c) (before : List Char) :
    lowerFrom before s = s := by
  induction s generalizing before with
  | nil => rfl
  | cons c rest ih =>
      rw [lowerFrom_cons, lowered_of_isLow (h c List.mem_cons_self), List.singleton_append,
        ih fun d hd => h d (List.mem_cons_of_mem c hd)]

theorem lower_lower (s : List Char) : lower (lower s) = lower s :=
  lowerFrom_of_isLow (fun _ => isLow_of_mem_lowerFrom) []

/-!
# Trimmed texts
-/

theorem last_lowerFrom (h : ∀ c ∈ s.getLast?, isBlank c = false) :
    ∀ d ∈ (lowerFrom before s).getLast?, isBlank d = false := by
  induction s generalizing before with
  | nil =>
      intro d hd
      cases hd
  | cons c rest ih =>
      intro d hd
      rw [lowerFrom_cons] at hd
      cases rest with
      | nil =>
          have hhere : d ∈ lowered before c [] := by
            rw [show lowerFrom (c :: before) [] = [] from rfl, List.append_nil] at hd
            exact List.mem_of_mem_getLast? hd
          exact isBlank_of_mem_lowered hhere (h c rfl)
      | cons next others =>
          have hne : lowerFrom (c :: before) (next :: others) ≠ [] := by
            rw [lowerFrom_cons]
            exact List.append_ne_nil_of_left_ne_nil (lowered_ne_nil _ _ _) _
          rw [List.getLast?_append_of_ne_nil _ hne] at hd
          rw [List.getLast?_cons_cons] at h
          exact ih h d hd

theorem trimmed_lower (h : Trimmed s) : Trimmed (lower s) := by
  refine ⟨fun d hd => ?_, last_lowerFrom h.2⟩
  cases s with
  | nil => cases hd
  | cons c rest =>
      unfold lower at hd
      rw [lowerFrom_cons, List.head?_append_of_ne_nil _ (lowered_ne_nil _ _ _)] at hd
      exact isBlank_of_mem_lowered (List.mem_of_mem_head? hd) (h.1 c rfl)

end Text
end Ownership
