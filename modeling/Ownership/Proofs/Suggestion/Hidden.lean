import Ownership.Proofs.Directory
import Ownership.Proofs.Lockstep
import Ownership.Proofs.Suggestion.Candidates
import Ownership.Tree.History

/-!
# Hidden accounts and suggestions

Two directories that differ only in accounts that are hidden from the viewer lead to the same
suggestions, in the same order and with the same scores.  One thing shows all the same: an address
is unknown if it belongs to no active account, and a hidden account makes its addresses known.  The
notes tell which of the addresses that were asked for are unknown, so that they tell a hidden
account from a missing one.
-/

namespace Ownership

variable {other : Directory}

/-!
# Resolving with another directory
-/

def PathOwners.withUnresolved (owners : PathOwners) (emails : List String) : PathOwners :=
  { owners with unresolved := emails }

namespace Resolver

variable {resolver : Resolver}

def shownFor (resolver : Resolver) (email : String) : List Int :=
  (resolver.directory.byEmail email).filter resolver.shows

/-- An address belongs to no active account, be it shown or hidden. -/
def isUnknown (resolver : Resolver) (email : String) : Bool :=
  (resolver.directory.byEmail email).isEmpty

def asked (refs : List OwnerRef) : List String :=
  ((refs.filter fun ref => !ref.isEverybody).map OwnerRef.email).eraseDups

/-- What a reference adds to the owners, apart from the addresses that are unknown. -/
def addShown (shown : String → List Int) (owners : PathOwners) (ref : OwnerRef) : PathOwners :=
  if ref.isEverybody then { owners with everybody := true }
  else (shown ref.email).foldl (fun owners id => owners.addAccount ref.remarks id) owners

theorem addAccounts_withUnresolved (remarks : List Remark) (ids : List Int) (owners : PathOwners)
    (emails : List String) :
    ids.foldl (fun owners id => owners.addAccount remarks id) (owners.withUnresolved emails) =
      (ids.foldl (fun owners id => owners.addAccount remarks id) owners).withUnresolved emails := by
  induction ids generalizing owners with
  | nil => rfl
  | cons first rest ih => exact ih (owners.addAccount remarks first)

theorem addShown_withUnresolved (shown : String → List Int) (owners : PathOwners) (ref : OwnerRef)
    (emails : List String) :
    addShown shown (owners.withUnresolved emails) ref =
      (addShown shown owners ref).withUnresolved emails := by
  unfold addShown
  split
  · rfl
  · exact addAccounts_withUnresolved ref.remarks _ owners emails

theorem addRef_eq (resolver : Resolver) (owners : PathOwners) (ref : OwnerRef) :
    resolver.addRef owners ref =
      (addShown resolver.shownFor owners ref).withUnresolved
        (if ref.isEverybody = false ∧ resolver.isUnknown ref.email = true ∧
            ref.email ∉ owners.unresolved then owners.unresolved ++ [ref.email]
          else owners.unresolved) := by
  have hkeeps : (addShown resolver.shownFor owners ref).withUnresolved owners.unresolved =
      addShown resolver.shownFor owners ref := (addShown_withUnresolved _ owners ref _).symm
  cases hsingle : ref.isEverybody with
  | true =>
      rw [if_neg fun h => Bool.false_ne_true h.1.symm, hkeeps]
      unfold addRef addShown
      rw [hsingle]
      rfl
  | false =>
      cases hunknown : resolver.isUnknown ref.email with
      | true =>
          have hnobody : resolver.directory.byEmail ref.email = [] := List.isEmpty_iff.mp hunknown
          unfold addRef addShown shownFor PathOwners.addUnresolved
          rw [hsingle, hnobody]
          by_cases hthere : ref.email ∈ owners.unresolved
          · simp [hthere, PathOwners.withUnresolved]
          · simp [hthere, PathOwners.withUnresolved]
      | false =>
          have hsomebody : (resolver.directory.byEmail ref.email).isEmpty = false := hunknown
          rw [if_neg fun h => Bool.false_ne_true h.2.1, hkeeps]
          unfold addRef addShown shownFor
          rw [hsingle]
          dsimp only
          rw [hsomebody]
          rfl

theorem asked_append_singleton (refs : List OwnerRef) (ref : OwnerRef) :
    asked (refs ++ [ref]) =
      if ref.isEverybody = false ∧ ref.email ∉ asked refs then asked refs ++ [ref.email]
      else asked refs := by
  unfold asked
  rw [List.filter_append, List.map_append]
  cases hsingle : ref.isEverybody with
  | true => simp [hsingle]
  | false =>
      have hhere : [ref].filter (fun ref => !ref.isEverybody) = [ref] :=
        List.filter_cons_of_pos (by rw [hsingle]; rfl)
      rw [hhere, List.map_singleton, Text.eraseDups_append_singleton]
      simp only [true_and, List.mem_eraseDups, ite_not]

/-- Resolving finds the accounts that are shown, and apart from them the addresses that are unknown
among those that were asked for. -/
theorem resolve_eq (resolver : Resolver) (refs : List OwnerRef) :
    resolver.resolve refs =
      (refs.foldl (addShown resolver.shownFor) {}).withUnresolved
        ((asked refs).filter resolver.isUnknown) := by
  induction refs using List.reverseRecOn with
  | nil => rfl
  | append_singleton refs ref ih =>
      have hstep : resolver.resolve (refs ++ [ref]) = resolver.addRef (resolver.resolve refs) ref :=
        List.foldl_append
      rw [hstep, ih, addRef_eq, addShown_withUnresolved, List.foldl_append, List.foldl_cons,
        List.foldl_nil, asked_append_singleton]
      refine congrArg (PathOwners.withUnresolved _) ?_
      change (if ref.isEverybody = false ∧ resolver.isUnknown ref.email = true ∧
          ref.email ∉ (asked refs).filter resolver.isUnknown then
            (asked refs).filter resolver.isUnknown ++ [ref.email]
          else (asked refs).filter resolver.isUnknown) = _
      by_cases hunknown : resolver.isUnknown ref.email = true
      -- An unknown address is noted already just if it was asked for already.
      · have hmem : ref.email ∈ (asked refs).filter resolver.isUnknown ↔
            ref.email ∈ asked refs := by
          rw [List.mem_filter, and_iff_left hunknown]
        by_cases hnew : ref.isEverybody = false ∧ ref.email ∉ asked refs
        · rw [if_pos ⟨hnew.1, hunknown, hmem.not.mpr hnew.2⟩, if_pos hnew, List.filter_append,
            List.filter_cons_of_pos hunknown, List.filter_nil]
        · rw [if_neg fun h => hnew ⟨h.1, hmem.not.mp h.2.2⟩, if_neg hnew]
      · rw [if_neg fun h => hunknown h.2.1]
        split
        · rw [List.filter_append, List.filter_cons_of_neg hunknown, List.filter_nil,
            List.append_nil]
        · rfl

theorem resolve_of_shownFor {resolver' : Resolver} (h : resolver'.shownFor = resolver.shownFor)
    (refs : List OwnerRef) :
    resolver'.resolve refs =
      (resolver.resolve refs).withUnresolved ((asked refs).filter resolver'.isUnknown) := by
  rw [resolve_eq, resolve_eq, h]
  rfl

theorem pathOwners_alike (resolver resolver' : Resolver) (config : OwnerConfig) (path : String) :
    Alike (fun owners owners' => ∃ refs, owners = resolver.resolve refs ∧
        owners' = resolver'.resolve refs)
      ((resolver.pathOwners config path).mapError Failure.path)
      ((resolver'.pathOwners config path).mapError Failure.path) := by
  unfold pathOwners
  cases Path.normalize path with
  | error defect => exact .failed _
  | ok normal =>
      dsimp only [bind, Except.bind]
      cases config.setsFor normal with
      | error defect => exact .failed _
      | ok sets => exact .done ⟨sets.flatMap OwnerSet.owners, rfl, rfl⟩

end Resolver

namespace Suggester

open Hierarchy Walk

variable {suggester : Suggester}

def withDirectory (suggester : Suggester) (other : Directory) : Suggester :=
  { suggester with directory := other }

def unknownNote (email : String) : String := "cannot resolve code owner email " ++ email

def unknownNotes (suggester : Suggester) (asked : List String) : List String :=
  (asked.filter suggester.resolver.isUnknown).map unknownNote

theorem unknownNotes_append (suggester : Suggester) (asked more : List String) :
    suggester.unknownNotes (asked ++ more) =
      suggester.unknownNotes asked ++ suggester.unknownNotes more := by
  unfold unknownNotes
  rw [List.filter_append, List.map_append]

/-!
# Candidates of two directories
-/

namespace Candidates

def withNotes (candidates : Candidates) (notes : List String) : Candidates :=
  { candidates with notes }

theorem addAccounts_withNotes (owners : PathOwners) (emails : List String) (distance : Nat)
    (ids : List Int) (candidates : Candidates) (notes : List String) :
    ids.foldl (fun candidates id =>
        candidates.addAccount (owners.withUnresolved emails) distance id)
        (candidates.withNotes notes) =
      (ids.foldl (fun candidates id => candidates.addAccount owners distance id)
        candidates).withNotes notes := by
  induction ids generalizing candidates with
  | nil => rfl
  | cons first rest ih => exact ih (candidates.addAccount owners distance first)

/-- Addresses that are unresolved show in the notes and nowhere else. -/
theorem collect_withNotes (candidates : Candidates) (owners : PathOwners) (distance : Nat)
    (notes emails : List String) :
    (candidates.withNotes notes).collect (owners.withUnresolved emails) distance =
      (candidates.collect owners distance).withNotes (notes ++ emails.map unknownNote) :=
  addAccounts_withNotes owners emails distance owners.accounts
    { candidates with
      everybody := candidates.everybody || owners.everybody
      notes := candidates.notes ++ owners.unresolved.map unknownNote } _

theorem notes_collect (candidates : Candidates) (owners : PathOwners) (distance : Nat) :
    (candidates.collect owners distance).notes =
      candidates.notes ++ owners.unresolved.map unknownNote :=
  congrArg Candidates.notes
    (collect_withNotes candidates owners distance candidates.notes owners.unresolved)

end Candidates

/-- All candidates are shown, and with another directory there are the same, with notes about the
same addresses. -/
structure CollectsAlike (suggester : Suggester) (other : Directory)
    (candidates candidates' : Candidates) : Prop where
  shown : ∀ id ∈ candidates.distances.keys, suggester.resolver.shows id = true
  notes : ∃ asked, candidates.notes = suggester.unknownNotes asked ∧
    candidates' = candidates.withNotes ((suggester.withDirectory other).unknownNotes asked)

theorem collectsAlike_empty (suggester : Suggester) (other : Directory) :
    suggester.CollectsAlike other {} {} :=
  ⟨fun _ hid => (List.not_mem_nil hid).elim, [], rfl, rfl⟩

section

variable (h : Directory.SameShown suggester.resolver.shows suggester.directory other)
include h

theorem shownFor_of_sameShown :
    (suggester.withDirectory other).resolver.shownFor = suggester.resolver.shownFor := by
  funext email
  exact h.found email

theorem CollectsAlike.collect {candidates candidates' : Candidates}
    (hcandidates : suggester.CollectsAlike other candidates candidates') (refs : List OwnerRef)
    (distance : Nat) :
    suggester.CollectsAlike other (candidates.collect (suggester.resolver.resolve refs) distance)
      (candidates'.collect ((suggester.withDirectory other).resolver.resolve refs) distance) := by
  rcases hcandidates.notes with ⟨asked, hnotes, rfl⟩
  constructor
  · intro id hid
    rcases Candidates.mem_keys_collect.mp hid with hknown | howner
    · exact hcandidates.shown id hknown
    · rcases Resolver.mem_accounts_resolve.mp howner with ⟨ref, _, hnames⟩
      exact hnames.shown
  · refine ⟨asked ++ Resolver.asked refs, ?_, ?_⟩
    · rw [Candidates.notes_collect, hnotes, unknownNotes_append, Resolver.resolve_eq]
      rfl
    · rw [Resolver.resolve_of_shownFor (shownFor_of_sameShown h),
        Candidates.collect_withNotes, unknownNotes_append]
      rfl

theorem lockstep_visitLevel (path : String) {candidates candidates' : Candidates}
    (hcandidates : suggester.CollectsAlike other candidates candidates') (level : Level) :
    Lockstep (SameStep (suggester.CollectsAlike other)) (suggester.visitLevel path candidates level)
      ((suggester.withDirectory other).visitLevel path candidates' level) := by
  unfold visitLevel
  apply (lockstep_liftExcept (Resolver.pathOwners_alike _ _ level.config path)).bind
  intro owners owners' howners
  rcases howners with ⟨refs, rfl, rfl⟩
  have hcollected := hcandidates.collect h refs level.distance
  rcases hcollected.notes with ⟨asked, hnotes, hsame⟩
  rw [hsame]
  have hnext : ∀ ignoresGlobal, Lockstep (SameStep (suggester.CollectsAlike other))
      (pure (.yield { candidates.collect (suggester.resolver.resolve refs) level.distance with
        ignoresGlobal }))
      (pure (.yield
        { (candidates.collect (suggester.resolver.resolve refs) level.distance).withNotes
            ((suggester.withDirectory other).unknownNotes asked) with ignoresGlobal })) :=
    fun ignoresGlobal => lockstep_pure (.yield ⟨hcollected.shown, asked, hnotes, rfl⟩)
  dsimp only [Candidates.withNotes]
  split
  · exact Lockstep.after (pure true) hnext
  · exact Lockstep.after _ hnext

theorem lockstep_candidates (place : Place) (greatest : Nat) :
    Lockstep (suggester.CollectsAlike other) (suggester.candidates place greatest)
      ((suggester.withDirectory other).candidates place greatest) := by
  unfold candidates
  have hlevel : ∀ candidates candidates' level,
      suggester.CollectsAlike other candidates candidates' →
      Lockstep (SameStep (suggester.CollectsAlike other))
        (suggester.visitLevel place.path candidates level)
        ((suggester.withDirectory other).visitLevel place.path candidates' level) :=
    fun _ _ level hstate => lockstep_visitLevel h place.path hstate level
  apply (lockstep_visitLevels hlevel place (collectsAlike_empty suggester other)).bind
  intro candidates candidates' hcandidates
  rcases hcandidates.notes with ⟨asked, hnotes, hsame⟩
  have hglobal : candidates'.ignoresGlobal = candidates.ignoresGlobal := by
    rw [hsame]
    rfl
  have hsite : (suggester.withDirectory other).site = suggester.site := rfl
  dsimp only
  rw [hglobal, hsite]
  split
  · exact lockstep_pure hcandidates
  · exact lockstep_pure (hcandidates.collect h _ greatest)

/-!
# Choosing and scoring
-/

theorem exclusion?_of_sameShown (changeOwner : Option Int) {id : Int}
    (hid : suggester.resolver.shows id = true) :
    (suggester.withDirectory other).exclusion? changeOwner id =
      suggester.exclusion? changeOwner id := by
  unfold exclusion? Directory.isServiceUser withDirectory
  rw [h.known id hid]

theorem scored_of_sameShown (reviewers : Option (List Int)) (greatest distance : Nat) {id : Int}
    (hid : suggester.resolver.shows id = true) :
    (suggester.withDirectory other).scored reviewers greatest distance id =
      suggester.scored reviewers greatest distance id := by
  unfold scored withDirectory
  rw [h.known id hid]

theorem choose_of_sameShown (changeOwner : Option Int) {candidates : Candidates}
    (hshown : ∀ id ∈ candidates.distances.keys, suggester.resolver.shows id = true)
    (notes : List String) :
    (suggester.withDirectory other).choose changeOwner (candidates.withNotes notes) =
      suggester.choose changeOwner candidates := by
  have hids : ∀ id ∈ candidates.distances.keys.mergeSort fun a b => decide (a ≤ b),
      (suggester.withDirectory other).exclusion? changeOwner id =
        suggester.exclusion? changeOwner id := by
    intro id hid
    exact exclusion?_of_sameShown h changeOwner (hshown id (List.mem_mergeSort.mp hid))
  unfold choose Candidates.withNotes
  dsimp only
  rw [List.filterMap_congr fun id hid => congrArg (Option.map (leftOutNote id)) (hids id hid),
    List.filter_congr fun id hid => congrArg Option.isNone (hids id hid)]

end

/-!
# Suggestions of two directories
-/

/-- With another directory there is the same suggestion, but for the notes about unknown
addresses. -/
def SuggestsAlike (suggester : Suggester) (other : Directory) (result result' : SuggestionResult) :
    Prop :=
  ∃ asked rest, result.notes = suggester.unknownNotes asked ++ rest ∧
    result' =
      { result with notes := (suggester.withDirectory other).unknownNotes asked ++ rest }

theorem lockstep_suggest
    (h : Directory.SameShown suggester.resolver.shows suggester.directory other) (place : Place)
    (request : Request) :
    Lockstep (suggester.SuggestsAlike other) (suggester.suggest place request)
      ((suggester.withDirectory other).suggest place request) := by
  unfold suggest
  apply Lockstep.after
  intro path
  have hsite : (suggester.withDirectory other).site = suggester.site := rfl
  rw [hsite]
  by_cases hdisabled : (suggester.site.configs.get place.project).isDisabled place.branch = true
  · rw [if_pos hdisabled, if_pos hdisabled]
    exact lockstep_pure ⟨[], _, rfl, rfl⟩
  · rw [if_neg hdisabled, if_neg hdisabled]
    apply Lockstep.after
    intro folders
    apply (lockstep_candidates h { place with path } folders.length).bind
    intro candidates candidates' hcandidates
    rcases hcandidates.notes with ⟨asked, hnotes, rfl⟩
    have hchosen := choose_of_sameShown h request.changeOwner hcandidates.shown
      ((suggester.withDirectory other).unknownNotes asked)
    have hscored : ∀ id ∈ (suggester.choose request.changeOwner candidates).1,
        (suggester.withDirectory other).scored request.reviewers folders.length
            (candidates.distances.getD id 0) id =
          suggester.scored request.reviewers folders.length
            (candidates.distances.getD id 0) id := by
      intro id hid
      exact scored_of_sameShown h _ _ _ (hcandidates.shown id (choose_subset _ _ _ hid))
    dsimp only
    rw [hchosen, hnotes]
    apply lockstep_pure
    refine ⟨asked, (suggester.choose request.changeOwner candidates).2, rfl, ?_⟩
    rw [← List.map_congr_left hscored]
    rfl

/-- Suggestions for a change do not tell directories apart that agree on the accounts that are
shown, but for notes about addresses that one of them does not know.  If both know the same
addresses, they do not tell them apart at all. -/
theorem suggestForChange_of_sameShown (suggester : Suggester) (other : Directory)
    (h : Directory.SameShown suggester.resolver.shows suggester.directory other) (change : Change)
    (path : String) (limit : Int) :
    Lockstep (suggester.SuggestsAlike other) (suggester.suggestForChange change path limit)
        ((suggester.withDirectory other).suggestForChange change path limit) ∧
      ((∀ email, other.byEmail email = [] ↔ suggester.directory.byEmail email = []) →
        ∀ s, ((suggester.withDirectory other).suggestForChange change path limit).run s =
          (suggester.suggestForChange change path limit).run s) := by
  have halike : Lockstep (suggester.SuggestsAlike other)
      (suggester.suggestForChange change path limit)
      ((suggester.withDirectory other).suggestForChange change path limit) := by
    unfold suggestForChange
    apply Lockstep.after
    intro head?
    cases head? with
    | none => exact lockstep_liftExcept (.failed _)
    | some revision => exact lockstep_suggest h _ _
  refine ⟨halike, fun hknown s => (halike.mono ?_).run_eq s⟩
  intro result result' hresult
  rcases hresult with ⟨asked, rest, hnotes, rfl⟩
  have hunknown : (suggester.withDirectory other).resolver.isUnknown =
      suggester.resolver.isUnknown := by
    funext email
    rw [Bool.eq_iff_iff]
    exact List.isEmpty_iff.trans ((hknown email).trans List.isEmpty_iff.symm)
  unfold unknownNotes at hnotes ⊢
  rw [hunknown, ← hnotes]

/-!
# A mansion

Ann owns the garden of the mansion and cannot see Eve, who owns all of it.  When Ann asks who could
review a change to the garden, the notes tell her whether Eve has an account.
-/

def mansionCommit : Except PathError (String × History) :=
  History.commitWith id {} "mansion" "main" ⟨[
    ("/OWNERS", some "eve@mansion\n".toUTF8.toList),
    ("/garden/OWNERS", some "ann@mansion\n".toUTF8.toList)]⟩

def ann : Account := { id := 1, emails := ["ann@mansion"] }

def eve : Account := { id := 7, emails := ["eve@mansion"] }

def mansion : Suggester where
  site := { tree := ((mansionCommit.toOption.map Prod.snd).getD {}).tree }
  directory := Directory.ofList [ann, eve]
  visibility := { hidden := ⟨[(some 1, [7])]⟩ }
  viewer := some 1

def withoutEve : Directory := Directory.ofList [ann]

def gardenChange : Change where
  project := "mansion"
  branch := "main"
  number := 1
  owner := 9
  uploader := 9
  currentRevision := "new"

def gardenSuggestion (suggester : Suggester) : Option (List Int × List String) :=
  ((suggester.suggestForChange gardenChange "/garden/rose" 10).run {}).1.toOption.map fun result =>
    (result.owners.map SuggestedOwner.accountId, result.notes)

theorem mansion_sameShown :
    Directory.SameShown mansion.resolver.shows mansion.directory withoutEve :=
  Directory.sameShown_of_filter (by decide)

theorem notes_tell_of_eve :
    Directory.SameShown mansion.resolver.shows mansion.directory withoutEve ∧
      gardenSuggestion mansion = some ([1], []) ∧
      gardenSuggestion (mansion.withDirectory withoutEve) =
        some ([1], ["cannot resolve code owner email eve@mansion"]) := by
  refine ⟨mansion_sameShown, ?_, ?_⟩ <;> decide +kernel

def withMachine : Directory := Directory.ofList [ann, { eve with serviceUser := true }]

theorem mansion_sameShown_machine :
    Directory.SameShown mansion.resolver.shows mansion.directory withMachine :=
  Directory.sameShown_of_filter (by decide)

theorem machine_has_eves_addresses (email : String) :
    withMachine.byEmail email = [] ↔ mansion.directory.byEmail email = [] := by
  by_cases hann : email = "ann@mansion"
  · subst hann
    decide
  · by_cases heve : email = "eve@mansion"
    · subst heve
      decide
    · have hmansion : mansion.directory.byEmail email = [] := by
        refine (Directory.byEmail_ofList [ann, eve] email).trans ?_
        simp [Directory.everListed, ann, eve, hann, heve]
      have hmachine : withMachine.byEmail email = [] := by
        refine (Directory.byEmail_ofList [ann, { eve with serviceUser := true }] email).trans ?_
        simp [Directory.everListed, ann, eve, hann, heve]
      exact iff_of_true hmachine hmansion

theorem mansion_suggests_alike :
    Directory.SameShown mansion.resolver.shows mansion.directory withoutEve ∧
      (∃ result result',
        ((mansion.suggestForChange gardenChange "/garden/rose" 10).run {}).1 = .ok result ∧
        (((mansion.withDirectory withoutEve).suggestForChange gardenChange
          "/garden/rose" 10).run {}).1 = .ok result' ∧
        mansion.SuggestsAlike withoutEve result result') ∧
      Directory.SameShown mansion.resolver.shows mansion.directory withMachine ∧
      ((mansion.withDirectory withMachine).suggestForChange gardenChange "/garden/rose" 10).run {} =
        (mansion.suggestForChange gardenChange "/garden/rose" 10).run {} := by
  refine ⟨mansion_sameShown, ?_, mansion_sameShown_machine,
    (suggestForChange_of_sameShown mansion withMachine mansion_sameShown_machine gardenChange
      "/garden/rose" 10).2 machine_has_eves_addresses {}⟩
  have hsuggested : (((mansion.suggestForChange gardenChange "/garden/rose" 10).run
      {}).1.toOption.map SuggestionResult.path) = some "/garden/rose" := by decide +kernel
  rcases Option.map_eq_some_iff.mp hsuggested with ⟨result, hresult, _⟩
  have halike := ((suggestForChange_of_sameShown mansion withoutEve mansion_sameShown gardenChange
    "/garden/rose" 10).1 {}).2
  rw [eq_ok_of_toOption hresult] at halike
  generalize (((mansion.withDirectory withoutEve).suggestForChange gardenChange
    "/garden/rose" 10).run {}).1 = outcome at halike
  cases halike with
  | done hsame => exact ⟨result, _, eq_ok_of_toOption hresult, rfl, hsame⟩

end Suggester
end Ownership
