import Ownership.Proofs.Approval.Context
import Ownership.Proofs.Suggestion.Ranking
import Ownership.Proofs.Tables

/-!
# Who can be suggested

A suggestion is collected from the owners of all levels, thinned out, ranked and cut.  The later
steps leave accounts out or change their order, and none of them adds one: whoever is suggested
was collected as an owner.
-/

namespace Ownership

variable {id : Int} {owners : PathOwners}

theorem foldl_holds_iff {α σ : Type} (step : σ → α → σ) (holds : σ → Prop) {adds : α → Prop}
    (hstep : ∀ state a, holds (step state a) ↔ holds state ∨ adds a) (row : List α) (state : σ) :
    holds (row.foldl step state) ↔ holds state ∨ ∃ a ∈ row, adds a := by
  induction row generalizing state with
  | nil => simp
  | cons first rest ih => rw [List.foldl_cons, ih, hstep, or_assoc, List.exists_mem_cons_iff]

/-!
# Resolved owners
-/

namespace Resolver

variable {resolver : Resolver} {refs : List OwnerRef} {ref : OwnerRef}

/-- The reference is an address of the account, which is active and can be seen. -/
structure Names (resolver : Resolver) (ref : OwnerRef) (id : Int) : Prop where
  single : ref.isEverybody = false
  listed : id ∈ resolver.directory.byEmail ref.email
  shown : resolver.shows id = true

theorem mem_accounts_addAccount {remarks : List Remark} {owners : PathOwners} {added : Int} :
    id ∈ (owners.addAccount remarks added).accounts ↔ id ∈ owners.accounts ∨ id = added := by
  unfold PathOwners.addAccount
  dsimp only
  split
  · rename_i hthere
    refine ⟨.inl, fun hcases => ?_⟩
    rcases hcases with hmem | rfl
    · exact hmem
    · exact hthere
  · simp

theorem mem_accounts_addAccounts {remarks : List Remark} {ids : List Int} :
    id ∈ (ids.foldl (fun owners id => owners.addAccount remarks id) owners).accounts ↔
      id ∈ owners.accounts ∨ id ∈ ids := by
  have hfold := foldl_holds_iff (fun owners id => PathOwners.addAccount owners remarks id)
    (fun owners => id ∈ owners.accounts) (fun _ _ => mem_accounts_addAccount) ids owners
  exact hfold.trans (by simp)

theorem mem_accounts_addRef :
    id ∈ (resolver.addRef owners ref).accounts ↔
      id ∈ owners.accounts ∨ resolver.Names ref id := by
  unfold addRef
  dsimp only
  split
  · rename_i heverybody
    refine ⟨.inl, fun hcases => ?_⟩
    rcases hcases with hmem | hnames
    · exact hmem
    · rw [hnames.single] at heverybody
      cases heverybody
  · rename_i hsingle
    split
    · rename_i hnobody
      have haccounts : (owners.addUnresolved ref.email).accounts = owners.accounts := by
        unfold PathOwners.addUnresolved
        split <;> rfl
      rw [haccounts]
      refine ⟨.inl, fun hcases => ?_⟩
      rcases hcases with hmem | hnames
      · exact hmem
      · have hlisted := hnames.listed
        rw [List.isEmpty_iff.mp hnobody] at hlisted
        cases hlisted
    · rw [mem_accounts_addAccounts, List.mem_filter]
      refine or_congr_right ⟨fun hmem => ?_, fun hnames => ⟨hnames.listed, hnames.shown⟩⟩
      exact ⟨Bool.eq_false_iff.mpr hsingle, hmem.1, hmem.2⟩

theorem mem_accounts_resolve :
    id ∈ (resolver.resolve refs).accounts ↔ ∃ ref ∈ refs, resolver.Names ref id := by
  have hfold := foldl_holds_iff resolver.addRef (fun owners => id ∈ owners.accounts)
    (fun _ _ => mem_accounts_addRef) refs {}
  exact hfold.trans (or_iff_right List.not_mem_nil)

/-!
The remarks on an account are those of all references that name it.
-/

theorem hasRemark_addAccount {remarks : List Remark} {remark : Remark} {owners : PathOwners}
    {added : Int} :
    (owners.addAccount remarks added).hasRemark id remark = true ↔
      owners.hasRemark id remark = true ∨ id = added ∧ remark ∈ remarks := by
  unfold PathOwners.hasRemark PathOwners.addAccount
  simp only [decide_eq_true_eq]
  split
  · rename_i hempty
    rw [List.isEmpty_iff.mp hempty]
    simp
  · rw [Table.getD_insert]
    split
    · rename_i hsame
      rw [← hsame]
      simp only [List.mem_append, List.mem_eraseDups, List.mem_filter, decide_eq_true_eq, true_and]
      by_cases hthere : remark ∈ owners.remarks.getD added []
      · simp [hthere]
      · simp [hthere]
    · rename_i hother
      rw [or_iff_left]
      exact fun hboth => hother hboth.1.symm

theorem hasRemark_addAccounts {remarks : List Remark} {remark : Remark} {ids : List Int} :
    (ids.foldl (fun owners id => owners.addAccount remarks id) owners).hasRemark id remark = true ↔
      owners.hasRemark id remark = true ∨ id ∈ ids ∧ remark ∈ remarks := by
  have hfold := foldl_holds_iff (fun owners id => PathOwners.addAccount owners remarks id)
    (fun owners => owners.hasRemark id remark = true) (fun _ _ => hasRemark_addAccount) ids owners
  exact hfold.trans (by simp)

theorem hasRemark_addRef {remark : Remark} :
    (resolver.addRef owners ref).hasRemark id remark = true ↔
      owners.hasRemark id remark = true ∨ resolver.Names ref id ∧ remark ∈ ref.remarks := by
  unfold addRef
  dsimp only
  split
  · rename_i heverybody
    rw [or_iff_left]
    · rfl
    · intro hboth
      rw [hboth.1.single] at heverybody
      cases heverybody
  · rename_i hsingle
    split
    · rename_i hnobody
      have hremarks : (owners.addUnresolved ref.email).remarks = owners.remarks := by
        unfold PathOwners.addUnresolved
        split <;> rfl
      unfold PathOwners.hasRemark
      rw [hremarks, or_iff_left]
      intro hboth
      have hlisted := hboth.1.listed
      rw [List.isEmpty_iff.mp hnobody] at hlisted
      cases hlisted
    · rw [hasRemark_addAccounts, List.mem_filter]
      refine or_congr_right (and_congr_left fun _ => ⟨fun hmem => ?_, fun hnames => ?_⟩)
      · exact ⟨Bool.eq_false_iff.mpr hsingle, hmem.1, hmem.2⟩
      · exact ⟨hnames.listed, hnames.shown⟩

theorem hasRemark_resolve {remark : Remark} :
    (resolver.resolve refs).hasRemark id remark = true ↔
      ∃ ref ∈ refs, resolver.Names ref id ∧ remark ∈ ref.remarks := by
  have hfold := foldl_holds_iff resolver.addRef (fun owners => owners.hasRemark id remark = true)
    (fun _ _ => hasRemark_addRef) refs {}
  exact hfold.trans (or_iff_right (by simp [PathOwners.hasRemark, Table.getD, Table.get?]))

/-- Whoever hides accounts resolves no more than one who shows all. -/
theorem accounts_resolve_subset (all : Resolver)
    (hdirectory : resolver.directory = all.directory)
    (hshows : ∀ id, all.shows id = true) (refs : List OwnerRef) :
    (resolver.resolve refs).accounts ⊆ (all.resolve refs).accounts := by
  intro id hid
  rcases mem_accounts_resolve.mp hid with ⟨ref, href, hnames⟩
  refine mem_accounts_resolve.mpr ⟨ref, href, hnames.single, ?_, hshows id⟩
  rw [← hdirectory]
  exact hnames.listed

theorem accounts_pathOwners_subset (all : Resolver)
    (hdirectory : resolver.directory = all.directory)
    (hshows : ∀ id, all.shows id = true) {config : OwnerConfig} {path : String}
    (h : resolver.pathOwners config path = .ok owners) :
    ∃ others, all.pathOwners config path = .ok others ∧ owners.accounts ⊆ others.accounts := by
  rcases except_bind_eq_ok.mp h with ⟨normal, hpath, hrest⟩
  rcases except_bind_eq_ok.mp hrest with ⟨sets, hsets, hresolved⟩
  cases hresolved
  refine ⟨_, ?_, accounts_resolve_subset all hdirectory hshows _⟩
  exact except_bind_eq_ok.mpr ⟨normal, hpath, except_bind_eq_ok.mpr ⟨sets, hsets, rfl⟩⟩

end Resolver

namespace Suggester

variable {candidates : Candidates} {suggester : Suggester}

/-!
# Candidates
-/

namespace Candidates

theorem mem_keys_addAccount {distance : Nat} {added : Int} :
    id ∈ (candidates.addAccount owners distance added).distances.keys ↔
      id ∈ candidates.distances.keys ∨ id = added := by
  have hinsert : id ∈ (candidates.distances.insert added distance).keys ↔
      id ∈ candidates.distances.keys ∨ id = added := by
    rw [Table.mem_keys_insert, or_comm]
  unfold addAccount
  dsimp only
  split
  · rename_i known hknown
    have hthere : added ∈ candidates.distances.keys := by
      by_contra hnot
      rw [Table.get?_eq_none_iff.mpr hnot] at hknown
      cases hknown
    split
    · exact hinsert
    · refine ⟨.inl, fun hcases => ?_⟩
      rcases hcases with hmem | rfl
      · exact hmem
      · exact hthere
  · exact hinsert

theorem mem_keys_collect {distance : Nat} :
    id ∈ (candidates.collect owners distance).distances.keys ↔
      id ∈ candidates.distances.keys ∨ id ∈ owners.accounts := by
  have hfold := foldl_holds_iff (fun candidates id => addAccount candidates owners distance id)
    (fun candidates => id ∈ candidates.distances.keys) (fun _ _ => mem_keys_addAccount)
    owners.accounts
  exact (hfold _).trans (by simp)

theorem nodup_keys_addAccount {distance : Nat} (added : Int)
    (h : candidates.distances.keys.Nodup) :
    (candidates.addAccount owners distance added).distances.keys.Nodup := by
  unfold addAccount
  dsimp only
  split
  · split
    · exact Table.nodup_keys_insert h
    · exact h
  · exact Table.nodup_keys_insert h

theorem nodup_keys_collect (owners : PathOwners) (distance : Nat)
    (h : candidates.distances.keys.Nodup) :
    (candidates.collect owners distance).distances.keys.Nodup := by
  have hfold : ∀ (ids : List Int) (candidates : Candidates), candidates.distances.keys.Nodup →
      (ids.foldl (fun candidates id => candidates.addAccount owners distance id)
        candidates).distances.keys.Nodup := by
    intro ids
    induction ids with
    | nil => exact fun _ h => h
    | cons first rest ih => exact fun candidates h => ih _ (nodup_keys_addAccount first h)
  exact hfold owners.accounts _ h

def nearer (known : Option Nat) (distance : Nat) : Nat := known.elim distance (min distance)

theorem get?_addAccount {distance : Nat} (added : Int) :
    (candidates.addAccount owners distance added).distances.get? id =
      if added = id then some (nearer (candidates.distances.get? id) distance)
      else candidates.distances.get? id := by
  unfold addAccount nearer
  dsimp only
  cases hknown : candidates.distances.get? added with
  | none =>
      dsimp only
      rw [Table.get?_insert]
      split
      · rename_i hsame
        rw [← hsame, hknown]
        rfl
      · rfl
  | some known =>
      dsimp only
      split
      · rename_i hless
        rw [Table.get?_insert]
        split
        · rename_i hsame
          rw [← hsame, hknown, Option.elim_some, Nat.min_eq_left (Nat.le_of_lt hless)]
        · rfl
      · rename_i hmore
        split
        · rename_i hsame
          rw [← hsame, hknown, Option.elim_some, Nat.min_eq_right (Nat.le_of_not_lt hmore)]
        · rfl

theorem nearer_nearer (known : Option Nat) (distance : Nat) :
    nearer (some (nearer known distance)) distance = nearer known distance := by
  cases known with
  | none => exact Nat.min_self distance
  | some known => exact Nat.min_eq_right (Nat.min_le_left distance known)

theorem get?_collect (owners : PathOwners) (distance : Nat) (id : Int) :
    (candidates.collect owners distance).distances.get? id =
      if id ∈ owners.accounts then some (nearer (candidates.distances.get? id) distance)
      else candidates.distances.get? id := by
  have hfold : ∀ (ids : List Int) (candidates : Candidates),
      (ids.foldl (fun candidates id => candidates.addAccount owners distance id)
        candidates).distances.get? id =
        if id ∈ ids then some (nearer (candidates.distances.get? id) distance)
        else candidates.distances.get? id := by
    intro ids
    induction ids with
    | nil => simp
    | cons first rest ih =>
        intro candidates
        rw [List.foldl_cons, ih, get?_addAccount]
        by_cases hfirst : first = id
        · have hmem : id ∈ first :: rest := List.mem_cons.mpr (.inl hfirst.symm)
          rw [if_pos hfirst, nearer_nearer, if_pos hmem, ite_self]
        · have hmem : id ∈ first :: rest ↔ id ∈ rest := by
            rw [List.mem_cons, or_iff_right (Ne.symm hfirst)]
          rw [if_neg hfirst]
          simp only [hmem]
  exact hfold owners.accounts _

theorem mem_reluctant_addAccount {distance : Nat} {added : Int} :
    id ∈ (candidates.addAccount owners distance added).reluctant ↔
      id ∈ candidates.reluctant ∨
        id = added ∧ owners.hasRemark id Remark.neverSuggest = true := by
  unfold addAccount
  dsimp only
  split
  · rename_i hremark
    rw [List.mem_append, List.mem_singleton]
    exact or_congr_right ⟨fun hsame => ⟨hsame, hsame ▸ hremark⟩, fun hboth => hboth.1⟩
  · rename_i hremark
    rw [or_iff_left]
    exact fun hboth => hremark (hboth.1 ▸ hboth.2)

theorem mem_reluctant_collect {distance : Nat} :
    id ∈ (candidates.collect owners distance).reluctant ↔
      id ∈ candidates.reluctant ∨
        id ∈ owners.accounts ∧ owners.hasRemark id Remark.neverSuggest = true := by
  have hfold := foldl_holds_iff (fun candidates id => addAccount candidates owners distance id)
    (fun candidates => id ∈ candidates.reluctant) (fun _ _ => mem_reluctant_addAccount)
    owners.accounts
  exact (hfold _).trans (by simp)

/-- What adding an account leaves alone is the same after any number of them. -/
theorem view_addAccounts {β : Type} (view : Candidates → β) {distance : Nat}
    (hview : ∀ candidates id, view (addAccount candidates owners distance id) = view candidates)
    (ids : List Int) (candidates : Candidates) :
    view (ids.foldl (fun candidates id => candidates.addAccount owners distance id) candidates) =
      view candidates := by
  induction ids generalizing candidates with
  | nil => rfl
  | cons first rest ih => exact (ih _).trans (hview candidates first)

@[simp] theorem ignoresGlobal_collect (candidates : Candidates) (owners : PathOwners)
    (distance : Nat) :
    (candidates.collect owners distance).ignoresGlobal = candidates.ignoresGlobal :=
  view_addAccounts Candidates.ignoresGlobal (fun _ _ => rfl) owners.accounts _

@[simp] theorem collect_nobody (candidates : Candidates) (distance : Nat) :
    candidates.collect {} distance = candidates := by
  unfold collect
  simp

@[simp] theorem everybody_collect (candidates : Candidates) (owners : PathOwners)
    (distance : Nat) :
    (candidates.collect owners distance).everybody =
      (candidates.everybody || owners.everybody) :=
  view_addAccounts Candidates.everybody (fun _ _ => rfl) owners.accounts _

end Candidates

theorem choose_subset (suggester : Suggester) (changeOwner : Option Int)
    (candidates : Candidates) :
    (suggester.choose changeOwner candidates).1 ⊆ candidates.distances.keys := by
  have hkept : ∀ id ∈ (candidates.distances.keys.mergeSort fun a b => decide (a ≤ b)).filter
      fun id => (suggester.exclusion? changeOwner id).isNone,
      id ∈ candidates.distances.keys :=
    fun id hid => List.mem_mergeSort.mp (List.mem_of_mem_filter hid)
  intro id hid
  unfold choose at hid
  simp only [List.partition_eq_filter_filter] at hid
  split at hid
  · exact hkept id hid
  · exact hkept id (List.mem_of_mem_filter hid)

/-!
# Suggestions
-/

open Walk

theorem candidate_of_suggest {place : Hierarchy.Place} {request : Request}
    {result : SuggestionResult} {owner : SuggestedOwner} {s s' : Session}
    (hrun : (suggester.suggest place request).run s = (.ok result, s'))
    (howner : owner ∈ result.owners) :
    ∃ normal greatest candidates, Path.normalize place.path = .ok normal ∧
      (suggester.candidates { place with path := normal } greatest).run s = (.ok candidates, s') ∧
      owner.accountId ∈ candidates.distances.keys := by
  unfold suggest at hrun
  rcases run_bind_eq_ok.mp hrun with ⟨normal, t, hpath, hrest⟩
  rcases run_liftExcept_eq_ok hpath with ⟨hnormal, rfl⟩
  split at hrest
  · cases hrest
    cases howner
  · rcases run_bind_eq_ok.mp hrest with ⟨folders, u, hfolders, hcollects⟩
    rcases run_liftExcept_eq_ok hfolders with ⟨_, rfl⟩
    rcases run_bind_eq_ok.mp hcollects with ⟨candidates, v, hcandidates, hend⟩
    cases hend
    have hranked := (Suggestion.perm_rank _ _ _ _).mem_iff.mp (List.mem_of_mem_take howner)
    rcases List.mem_map.mp hranked with ⟨id, hid, rfl⟩
    exact ⟨normal, folders.length, candidates, except_mapError_eq_ok.mp hnormal, hcandidates,
      choose_subset _ _ _ hid⟩

def changeRequest (change : Change) (limit : Int) : Request where
  seed := change.number
  limit
  reviewers := some change.reviewers
  changeOwner := some change.owner

theorem run_suggestForChange_eq_ok {change : Change} {path : String} {limit : Int}
    {result : SuggestionResult} {s s' : Session} :
    (suggester.suggestForChange change path limit).run s = (.ok result, s') ↔
      ∃ revision,
        suggester.site.tree.branchHead change.project change.branch = .ok (some revision) ∧
        (suggester.suggest
          { project := change.project, branch := change.branch, revision, path }
          (changeRequest change limit)).run s = (.ok result, s') := by
  unfold suggestForChange
  constructor
  · intro hrun
    rcases run_bind_eq_ok.mp hrun with ⟨head?, t, hhead, hrest⟩
    rcases run_liftExcept_eq_ok hhead with ⟨hbranch, rfl⟩
    cases head? with
    | none => cases hrest
    | some revision => exact ⟨revision, hbranch, hrest⟩
  · intro h
    rcases h with ⟨revision, hbranch, hsuggest⟩
    rw [hbranch]
    exact run_bind_eq_ok.mpr ⟨some revision, s, rfl, hsuggest⟩

theorem suggest_of_suggestForChange {change : Change} {path : String} {limit : Int}
    {result : SuggestionResult} {s s' : Session}
    (hrun : (suggester.suggestForChange change path limit).run s = (.ok result, s')) :
    ∃ revision request,
      suggester.site.tree.branchHead change.project change.branch = .ok (some revision) ∧
      (suggester.suggest
        { project := change.project, branch := change.branch, revision, path } request).run s =
          (.ok result, s') := by
  rcases run_suggestForChange_eq_ok.mp hrun with ⟨revision, hhead, hsuggest⟩
  exact ⟨revision, _, hhead, hsuggest⟩

end Suggester
end Ownership
