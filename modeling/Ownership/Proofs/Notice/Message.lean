import Ownership.Notice
import Ownership.Proofs.Approval.Pages
import Ownership.Proofs.Steps

/-!
# What a notice says

A notice has a part for every reviewer who owns something, in the order of the reviewers.  It lists
the first owned paths, and whether there are more is found out by asking for one path too many.  A
reviewer whose paths cannot be computed has no part.
-/

namespace Ownership
namespace Notice

open Walk

variable {engine : Engine} {accounts : Directory} {change : Change} {limit reviewer : Int}
  {owned : List String} {s s' t : Session}

/-!
# The expected parts
-/

def lineOf (path : String) : String := "* " ++ String.ofList (path.toList.drop 1) ++ "\n"

def part (accounts : Directory) (limit reviewer : Int) (owned : List String) : String :=
  accounts.label reviewer ++ ", who was added as reviewer owns the following files:\n" ++
    String.join ((owned.take limit.toNat).map lineOf) ++
    if limit < owned.length then "(more files)\n" else ""

def part? (accounts : Directory) (limit reviewer : Int) :
    Except Failure (List String) → Option String
  | .error _ => none
  | .ok [] => none
  | .ok (path :: rest) => some (part accounts limit reviewer (path :: rest))

/-- What comes of asking for the paths of one reviewer after the other. -/
def answers (engine : Engine) (change : Change) :
    List Int → Session → List (Except Failure (List String))
  | [], _ => []
  | reviewer :: rest, session =>
      let asked := (engine.ownedPaths change reviewer 0 none).run session
      asked.1 :: answers engine change rest asked.2

theorem answers_cons (engine : Engine) (change : Change) (reviewer : Int) (rest : List Int)
    (s : Session) : answers engine change (reviewer :: rest) s =
      ((engine.ownedPaths change reviewer 0 none).run s).1 ::
        answers engine change rest ((engine.ownedPaths change reviewer 0 none).run s).2 := rfl

def parts (accounts : Directory) (limit : Int) (reviewers : List Int)
    (found : List (Except Failure (List String))) : List String :=
  (List.zipWith (part? accounts limit) reviewers found).reduceOption

/-- No touched path changes when it is normalized once more. -/
def KeepsPaths (engine : Engine) (change : Change) : Prop :=
  ∀ files, engine.changedFiles change.project change.currentRevision change.baseRevision =
    .ok files → ∀ path ∈ Engine.touchedPaths files, Path.normalize path = .ok path

/-!
# One reviewer
-/

theorem fileLine_of_normalize {path : String} (h : Path.normalize path = .ok path) :
    fileLine path = .ok (lineOf path) := by
  unfold fileLine Path.treePath
  rw [h]
  rfl

theorem run_ownedForNotice_of_ok
    (hrun : (engine.ownedPaths change reviewer 0 none).run s = (.ok owned, s')) (count : Nat) :
    (ownedForNotice engine change reviewer count).run s = (.ok (owned.take (count + 1)), s') := by
  have hpart := Engine.run_ownedPaths_part hrun 0 (some ((count : Int) + 1))
  have hslice := Text.slice_natCast 0 (count + 1) owned
  rw [List.drop_zero] at hslice
  unfold Walk.run at hpart
  unfold Walk.run ownedForNotice
  rw [hpart, ← hslice]
  rfl

theorem run_ownedForNotice_of_error {failure : Failure}
    (hrun : (engine.ownedPaths change reviewer 0 none).run s = (.error failure, s'))
    (hexpected : failure.isExpected = true) (limit : Int) :
    (ownedForNotice engine change reviewer limit).run s = (.ok [], s') := by
  have hpart := Engine.run_ownedPaths_part hrun 0 (some (limit + 1))
  unfold Walk.run at hpart
  unfold Walk.run ownedForNotice
  rw [hpart]
  dsimp only [Except.map]
  rw [hexpected]
  rfl

/-- One path too many is asked for, which shows whether the list was cut. -/
theorem lt_length_take_succ {count : Nat} :
    ((count : Int) < (owned.take (count + 1)).length) ↔ (count : Int) < owned.length := by
  rw [List.length_take]
  omega

theorem run_reviewerPart_of_ok (accounts : Directory) (count : Nat)
    (hkept : ∀ path ∈ owned, Path.normalize path = .ok path)
    (hrun : (engine.ownedPaths change reviewer 0 none).run s = (.ok owned, s')) :
    (reviewerPart engine accounts change count reviewer).run s =
      (.ok (part? accounts count reviewer (.ok owned)), s') := by
  unfold reviewerPart
  rw [run_bind_of_ok (run_ownedForNotice_of_ok hrun count)]
  cases howned : owned with
  | nil => rfl
  | cons path rest =>
      rw [← howned]
      have hlines : (owned.take count).mapM fileLine = .ok ((owned.take count).map lineOf) :=
        mapM_of_all_ok fun path hpath => fileLine_of_normalize (hkept path (List.mem_of_mem_take hpath))
      have hshown : Text.slice 0 (some (count : Int)) (owned.take (count + 1)) =
          owned.take count := by
        rw [Text.slice_zero_natCast, List.take_take, Nat.min_eq_left (Nat.le_succ count)]
      have hsome : (owned.take (count + 1)).isEmpty = false := by
        rw [howned]
        rfl
      rw [hsome, if_neg Bool.false_ne_true, hshown, hlines]
      simp only [lt_length_take_succ]
      rw [howned]
      rfl

theorem run_reviewerPart (accounts : Directory) (count : Nat)
    {outcome : Except Failure (List String)}
    (hkept : ∀ owned, outcome = .ok owned → ∀ path ∈ owned, Path.normalize path = .ok path)
    (hexpected : ∀ failure, outcome = .error failure → failure.isExpected = true)
    (hrun : (engine.ownedPaths change reviewer 0 none).run s = (outcome, s')) :
    (reviewerPart engine accounts change count reviewer).run s =
      (.ok (part? accounts count reviewer outcome), s') := by
  cases outcome with
  | error failure =>
      unfold reviewerPart
      rw [run_bind_of_ok (run_ownedForNotice_of_error hrun (hexpected failure rfl) count)]
      rfl
  | ok owned => exact run_reviewerPart_of_ok accounts count (hkept owned rfl) hrun

/-!
# All reviewers
-/

theorem normalize_of_ownedPaths (hkept : KeepsPaths engine change)
    (hrun : (engine.ownedPaths change reviewer 0 none).run s = (.ok owned, s')) :
    ∀ path ∈ owned, Path.normalize path = .ok path := by
  intro path hpath
  have hrecalls := (engine.loads_ownedPaths change reviewer 0 none).recalls hrun le_rfl
  rcases Engine.evaluation?_of_ownedPaths hrun with ⟨evaluation, hevaluation⟩
  cases evaluation with
  | none =>
      unfold Engine.ownedPaths at hrecalls
      rw [hevaluation] at hrecalls
      rcases recalls_pure.mp hrecalls with rfl
      cases hpath
  | some evaluation =>
      have hfiles := (Engine.evaluation?_eq_some.mp hevaluation).2.2
      exact hkept evaluation.2 hfiles path
        ((Engine.sublist_ownedPaths hevaluation hrecalls).subset hpath)

theorem run_reviewerParts (accounts : Directory) (count : Nat) (hkept : KeepsPaths engine change)
    {reviewers : List Int}
    (hexpected : ∀ failure, .error failure ∈ answers engine change reviewers s →
      failure.isExpected = true) :
    ∃ s', (reviewers.mapM (reviewerPart engine accounts change count)).run s =
      (.ok (List.zipWith (part? accounts count) reviewers (answers engine change reviewers s)),
        s') := by
  induction reviewers generalizing s with
  | nil => exact ⟨s, rfl⟩
  | cons reviewer rest ih =>
      rcases hrun : (engine.ownedPaths change reviewer 0 none).run s with ⟨outcome, mid⟩
      rw [answers_cons, hrun] at hexpected ⊢
      dsimp only at hexpected ⊢
      have hfirst := run_reviewerPart accounts count
        (fun owned howned => normalize_of_ownedPaths hkept (howned ▸ hrun))
        (fun failure hfailure => hexpected failure (hfailure ▸ List.mem_cons_self)) hrun
      rcases ih fun failure hfailure => hexpected failure (List.mem_cons_of_mem _ hfailure) with
        ⟨s', hrest⟩
      refine ⟨s', ?_⟩
      rw [List.mapM_cons, run_bind_of_ok hfirst, run_bind_of_ok hrest]
      rfl

theorem run_message (accounts : Directory) (count : Nat) (hkept : KeepsPaths engine change)
    {reviewers : List Int}
    (hexpected : ∀ failure, .error failure ∈ answers engine change reviewers s →
      failure.isExpected = true) :
    ((message engine change reviewers count accounts).run s).1 =
      .ok ("\n".intercalate (parts accounts count reviewers (answers engine change reviewers s))) := by
  rcases run_reviewerParts accounts count hkept hexpected with ⟨s', hrun⟩
  unfold message
  rw [run_bind_of_ok hrun]
  rfl

/-- In a faithful session it makes no difference who was asked for before. -/
theorem answers_eq_map (hnames : engine.site.PlainNames) (hs : s.Faithful engine.site)
    (ht : t.Faithful engine.site) (reviewers : List Int) :
    answers engine change reviewers t =
      reviewers.map fun reviewer => ((engine.ownedPaths change reviewer 0 none).run s).1 := by
  induction reviewers generalizing t with
  | nil => rfl
  | cons reviewer rest ih =>
      rcases Engine.agrees_ownedPaths hnames change reviewer 0 none s t hs ht with
        ⟨_, hlater, halike⟩
      rw [answers_cons, List.map_cons, ih hlater, halike.eq]

/-!
# Notices
-/

/-- What an account owns is listed exactly.  A notice has the parts that belong to the answers for its
reviewers, in order, if no path changes when it is normalized once more; and the answer for one
reviewer does not depend on the others, failures included, if no configuration file has a slash in
its name. -/
theorem message_lists_owned
    (henabled : (engine.config change.project).isDisabled change.branch = false) :
    (∀ id s s' owned, (engine.ownedPaths change id 0 none).run s = (.ok owned, s') →
      engine.OwnsExactly change id s s' owned) ∧
    (KeepsPaths engine change → ∀ (accounts : Directory) (limit : Int) (reviewers : List Int)
      (s : Session), 0 < limit →
      (∀ failure, .error failure ∈ answers engine change reviewers s →
        failure.isExpected = true) →
      ((message engine change reviewers limit accounts).run s).1 = .ok ("\n".intercalate
        (parts accounts limit reviewers (answers engine change reviewers s)))) ∧
    (engine.site.PlainNames → ∀ (reviewers : List Int) (s : Session), s.Faithful engine.site →
      answers engine change reviewers s =
        reviewers.map fun reviewer => ((engine.ownedPaths change reviewer 0 none).run s).1) := by
  refine ⟨fun id s s' owned hrun => Engine.ownsExactly_of_run henabled hrun, ?_, ?_⟩
  · intro hkept accounts limit reviewers s hlimit hexpected
    have hcount : limit = (limit.toNat : Int) := (Int.toNat_of_nonneg (by omega)).symm
    rw [hcount]
    exact run_message accounts limit.toNat hkept hexpected
  · intro hnames reviewers s hs
    exact answers_eq_map hnames hs hs reviewers

/-!
# Two notices

The first is about the change of the village.  In the cellar there is no configuration, and the name
of a file is a blank.
-/

theorem village_keepsPaths : KeepsPaths Engine.village Engine.villageChange := by
  intro files hfiles path hpath
  cases hfiles
  rw [Engine.village_touchedPaths] at hpath
  have hall : ∀ path ∈ ["/doc/map", "/well"], (Path.normalize path).toOption = some path := by
    decide +kernel
  exact eq_ok_of_toOption (hall path hpath)

theorem village_answers : (answers Engine.village Engine.villageChange [9, 1, 2] {}).map
    Except.toOption = [some [], some ["/doc/map", "/well"], some ["/doc/map"]] := by
  simp only [answers, Engine.village_ownedPaths]
  decide +kernel

/-- Nothing is said about the first reviewer, who owns nothing, and the list of Ann is cut. -/
theorem village_notice :
    (∃ s', Engine.village.OwnsExactly Engine.villageChange 1 {} s' ["/doc/map", "/well"]) ∧
    ((message Engine.village Engine.villageChange [9, 1, 2] 1).run {}).1 = .ok
      ("ann@village, who was added as reviewer owns the following files:\n* doc/map\n" ++
        "(more files)\n\n" ++
        "bob@village, who was added as reviewer owns the following files:\n* doc/map\n") ∧
    answers Engine.village Engine.villageChange [9, 1, 2] {} = [9, 1, 2].map fun id =>
      ((Engine.village.ownedPaths Engine.villageChange id 0 none).run {}).1 := by
  have hann : ((Engine.village.ownedPaths Engine.villageChange 1 0 none).run {}).1.toOption =
      some ["/doc/map", "/well"] := by
    rw [Engine.village_ownedPaths]
    decide +kernel
  have hexpected : ∀ failure,
      .error failure ∈ answers Engine.village Engine.villageChange [9, 1, 2] {} →
        failure.isExpected = true := by
    intro failure hmem
    have hnone : none ∈ (answers Engine.village Engine.villageChange [9, 1, 2] {}).map
        Except.toOption := List.mem_map.mpr ⟨_, hmem, rfl⟩
    rw [village_answers] at hnone
    simp at hnone
  have henabled : (Engine.village.config Engine.villageChange.project).isDisabled
      Engine.villageChange.branch = false := by decide
  rcases message_lists_owned henabled with ⟨howned, hmessage, hanswers⟩
  refine ⟨⟨_, howned 1 _ _ _ (run_of_toOption hann)⟩, ?_,
    hanswers Engine.village_plainNames [9, 1, 2] {} (Session.faithful_empty _)⟩
  rw [hmessage village_keepsPaths Engine.village.directory 1 [9, 1, 2] {} (by decide) hexpected]
  congr 1
  simp only [answers, Engine.village_ownedPaths]
  decide +kernel

def cellar : Engine where
  site := { tree := {
    branchHead _ _ := .ok (some "tip")
    containsRevision _ _ _ := .ok true
    contentOf _ _ _ := .ok none
    listFiles _ _ := .ok ["/shelf/ "] } }
  directory := Directory.ofList [{ id := 1, emails := ["ann@cellar"] }]
  permissions := ⟨⟨[("cellar", [1])]⟩⟩
  changedFiles _ _ _ := .ok [{ newPath := some "/shelf/ ", kind := .added }]

def cellarChange : Change where
  project := "cellar"
  branch := "main"
  number := 1
  owner := 9
  uploader := 9
  currentRevision := "new"

/-- Ann owns the file whose name is a blank, and the notice lists its folder in place of it. -/
theorem cellar_notice :
    (Path.normalize "/shelf/ /").toOption = some "/shelf/ " ∧
    ((cellar.ownedPaths cellarChange 1 0 none).run {}).1.toOption = some ["/shelf/ "] ∧
    ((message cellar cellarChange [1] 10).run {}).1.toOption =
      some "ann@cellar, who was added as reviewer owns the following files:\n* shelf\n" := by
  refine ⟨by decide, ?_, ?_⟩
  · decide +kernel
  · decide +kernel

end Notice
end Ownership
