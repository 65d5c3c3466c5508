import Ownership.Proofs.Suggestion.Wildcards
import Ownership.Tree.History

/-!
# Who is suggested

Whoever is listed for a path is suggested, except for the owner of the change and service users.
Owners with the remark never to be suggested are left out too, as long as somebody else is there.
Nearness is that of the nearest listing, a wildcard adds nobody, and the limit cuts the ranked row.
-/

namespace Ownership
namespace Suggester

open Walk Hierarchy

variable {suggester : Suggester} {candidates : Candidates} {listed : OwnerRef → Nat → Prop}
  {changeOwner : Option Int} {id : Int} {request : Request} {greatest : Nat}

/-!
# Choosing
-/

def fit (suggester : Suggester) (changeOwner : Option Int) (candidates : Candidates) : List Int :=
  (candidates.distances.keys.mergeSort fun a b => decide (a ≤ b)).filter fun id =>
    (suggester.exclusion? changeOwner id).isNone

theorem mem_fit :
    id ∈ suggester.fit changeOwner candidates ↔ id ∈ candidates.distances.keys ∧
      changeOwner ≠ some id ∧ suggester.directory.isServiceUser id = false := by
  have hexcluded : (suggester.exclusion? changeOwner id).isNone = true ↔
      changeOwner ≠ some id ∧ suggester.directory.isServiceUser id = false := by
    unfold exclusion?
    split
    · rename_i howner
      simp [howner]
    · rename_i hother
      cases suggester.directory.isServiceUser id <;> simp [hother]
  unfold fit
  rw [List.mem_filter, List.mem_mergeSort, hexcluded]

theorem pairwise_fit (h : candidates.distances.keys.Nodup) :
    (suggester.fit changeOwner candidates).Pairwise (· < ·) := by
  have hdistinct : (candidates.distances.keys.map (id : Int → Int)).Nodup := by
    rw [List.map_id]
    exact h
  exact (Text.pairwise_lt_sortedBy id hdistinct).filter _

theorem choose_eq (suggester : Suggester) (changeOwner : Option Int) (candidates : Candidates) :
    (suggester.choose changeOwner candidates).1 =
      if ((suggester.fit changeOwner candidates).filter fun id =>
          decide (id ∉ candidates.reluctant)).isEmpty then suggester.fit changeOwner candidates
      else (suggester.fit changeOwner candidates).filter fun id =>
        decide (id ∉ candidates.reluctant) := by
  have hwilling : (fun id => decide (id ∉ candidates.reluctant)) =
      not ∘ fun id => decide (id ∈ candidates.reluctant) := by
    funext id
    exact decide_not
  rw [hwilling]
  unfold choose fit
  simp only [List.partition_eq_filter_filter]
  split
  · rfl
  · rfl

/-- Whoever is fit is chosen, unless reluctant while somebody else who is fit is not. -/
theorem mem_choose :
    id ∈ (suggester.choose changeOwner candidates).1 ↔
      id ∈ suggester.fit changeOwner candidates ∧ (id ∈ candidates.reluctant →
        ∀ other ∈ suggester.fit changeOwner candidates, other ∈ candidates.reluctant) := by
  rw [choose_eq]
  split
  · rename_i hnobody
    rw [List.isEmpty_iff, List.filter_eq_nil_iff] at hnobody
    simp only [decide_eq_true_eq, not_not] at hnobody
    exact (and_iff_left fun _ => hnobody).symm
  · rename_i hsomebody
    rw [List.isEmpty_iff, List.filter_eq_nil_iff] at hsomebody
    simp only [decide_eq_true_eq, not_not] at hsomebody
    rw [List.mem_filter, decide_eq_true_eq]
    refine and_congr_right fun _ => ⟨fun hwilling hreluctant => ?_, fun h hreluctant => ?_⟩
    · exact absurd hreluctant hwilling
    · exact hsomebody (h hreluctant)

theorem pairwise_choose (h : candidates.distances.keys.Nodup) :
    (suggester.choose changeOwner candidates).1.Pairwise (· < ·) := by
  rw [choose_eq]
  split
  · exact pairwise_fit h
  · exact (pairwise_fit h).filter _

/-!
# Scoring
-/

theorem distance_scored (suggester : Suggester) (reviewers : Option (List Int))
    (greatest distance : Nat) (id : Int) :
    (suggester.scored reviewers greatest distance id).scores.get? Suggestion.distanceFeature =
      some (Suggestion.distanceScore distance greatest) := by
  unfold scored
  cases reviewers with
  | none => rfl
  | some reviewers => rfl

/-!
# Rows of suggested owners
-/

/-- A listed account that belongs neither to the owner of the change nor to a service user. -/
structure IsCandidate (suggester : Suggester) (owner : Int) (listed : OwnerRef → Nat → Prop)
    (id : Int) : Prop where
  listed : (suggester.distancesOf listed id).Nonempty
  other : id ≠ owner
  person : suggester.directory.isServiceUser id = false

/-- A ranked row suggests what is listed: the candidates without those who are reluctant, or all
candidates if nobody else is there, each once and scored by its smallest distance. -/
structure Answers (suggester : Suggester) (seed owner : Int) (listed : OwnerRef → Nat → Prop)
    (greatest : Nat) (row : List SuggestedOwner) : Prop where
  nodup : (row.map SuggestedOwner.accountId).Nodup
  chosen : ∀ id, id ∈ row.map SuggestedOwner.accountId ↔
    suggester.IsCandidate owner listed id ∧ (suggester.IsReluctant listed id →
      ∀ other, suggester.IsCandidate owner listed other → suggester.IsReluctant listed other)
  distance : ∀ member ∈ row, ∃ distance,
    IsLeast (suggester.distancesOf listed member.accountId) distance ∧
    member.scores.get? Suggestion.distanceFeature =
      some (Suggestion.distanceScore distance greatest)
  ranked : ∃ owners,
    row = Suggestion.rank seed SuggestedOwner.accountId SuggestedOwner.score owners

theorem mem_fit_iff {owner : Int} (h : suggester.Gathers listed candidates) :
    id ∈ suggester.fit (some owner) candidates ↔ suggester.IsCandidate owner listed id := by
  rw [mem_fit, h.known]
  constructor
  · intro hfit
    rcases hfit with ⟨hlisted, hother, hperson⟩
    exact ⟨hlisted, fun hsame => hother (congrArg some hsame.symm), hperson⟩
  · intro hcandidate
    refine ⟨hcandidate.listed, fun hsame => hcandidate.other ?_, hcandidate.person⟩
    exact (Option.some.inj hsame).symm

theorem perm_ranked (suggester : Suggester) (request : Request) (greatest : Nat)
    (candidates : Candidates) :
    ((suggester.ranked request greatest candidates).map SuggestedOwner.accountId).Perm
      (suggester.choose request.changeOwner candidates).1 := by
  have hperm := (Suggestion.perm_rank request.seed SuggestedOwner.accountId SuggestedOwner.score
    ((suggester.choose request.changeOwner candidates).1.map fun id =>
      suggester.scored request.reviewers greatest (candidates.distances.getD id 0) id)).map
        SuggestedOwner.accountId
  rw [List.map_map] at hperm
  exact hperm.trans (List.Perm.of_eq (List.map_id _))

/-- The row that is suggested among gathered candidates suggests what is listed. -/
theorem answers_ranked (h : suggester.Gathers listed candidates) (request : Request)
    {owner : Int} (howner : request.changeOwner = some owner) (greatest : Nat) :
    suggester.Answers request.seed owner listed greatest
      (suggester.ranked request greatest candidates) where
  nodup := by
    rw [(suggester.perm_ranked request greatest candidates).nodup_iff]
    exact (pairwise_choose h.nodup).imp ne_of_lt
  chosen id := by
    rw [(suggester.perm_ranked request greatest candidates).mem_iff, mem_choose, howner]
    simp only [mem_fit_iff h, h.reluctant]
  distance member hmember := by
    have hscored := (Suggestion.perm_rank _ _ _ _).mem_iff.mp hmember
    rcases List.mem_map.mp hscored with ⟨id, hid, rfl⟩
    have hknown := choose_subset suggester request.changeOwner candidates hid
    rcases Option.ne_none_iff_exists'.mp (Table.get?_eq_none_iff.not_left.mpr hknown) with
      ⟨distance, hdistance⟩
    have hget : candidates.distances.getD id 0 = distance := by
      unfold Table.getD
      rw [hdistance]
      rfl
    rw [hget]
    exact ⟨distance, h.nearest id distance hdistance, distance_scored _ _ _ _ _⟩
  ranked := ⟨_, rfl⟩

theorem Answers.ne_nil {seed owner : Int} {row : List SuggestedOwner}
    (h : suggester.Answers seed owner listed greatest row)
    (hcandidate : suggester.IsCandidate owner listed id) : row ≠ [] := by
  have hchosen : ∃ id, id ∈ row.map SuggestedOwner.accountId := by
    by_cases hall : ∀ other, suggester.IsCandidate owner listed other →
        suggester.IsReluctant listed other
    · exact ⟨id, (h.chosen id).mpr ⟨hcandidate, fun _ => hall⟩⟩
    · rw [not_forall] at hall
      rcases hall with ⟨other, hother⟩
      rw [Classical.not_imp] at hother
      exact ⟨other, (h.chosen other).mpr ⟨hother.1, fun hreluctant => absurd hreluctant hother.2⟩⟩
  rintro rfl
  rcases hchosen with ⟨_, hmem⟩
  cases hmem

theorem take_limit (row : List SuggestedOwner) (limit : Int) :
    row.take limit.toNat = row.take (min (max limit 0) row.length).toNat := by
  rw [List.take_eq_take_min]
  congr 1
  omega

/-!
# Suggestions
-/

variable {change : Change} {path : String} {limit : Int} {result : SuggestionResult}
  {s s' : Session}

/-- A suggestion for a change answers what is listed for the path, cut to the limit. -/
structure Suggests (suggester : Suggester) (change : Change) (limit : Int)
    (listed : OwnerRef → Nat → Prop) (greatest : Nat) (row : List SuggestedOwner)
    (result : SuggestionResult) : Prop where
  answers : suggester.Answers change.number change.owner listed greatest row
  cut : result.owners = row.take (min (max limit 0) row.length).toNat
  everybody : result.everybody = true ↔ ListsEverybody listed

theorem suggests_conclude (h : suggester.Gathers listed candidates) (change : Change)
    (limit : Int) (path : String) (greatest : Nat) :
    suggester.Suggests change limit listed greatest
      (suggester.ranked (changeRequest change limit) greatest candidates)
      (suggester.conclude (changeRequest change limit) path greatest candidates) where
  answers := answers_ranked h (changeRequest change limit) rfl greatest
  cut := take_limit _ limit
  everybody := h.everybody

theorem conclude_of_room {other : Int} {greatest : Nat}
    (h : (suggester.ranked (changeRequest change limit) greatest candidates).length ≤ other)
    (path : String) :
    suggester.conclude (changeRequest change other) path greatest candidates =
      { suggester.conclude (changeRequest change limit) path greatest candidates with
        owners := suggester.ranked (changeRequest change limit) greatest candidates } := by
  have hall : (suggester.ranked (changeRequest change limit) greatest candidates).take
      other.toNat = suggester.ranked (changeRequest change limit) greatest candidates :=
    List.take_of_length_le (by omega)
  exact congrArg (fun owners =>
    { suggester.conclude (changeRequest change limit) path greatest candidates with owners }) hall

def withSite (suggester : Suggester) (site : Site) : Suggester :=
  { suggester with site }

theorem run_change_eq_ok
    (henabled : (suggester.site.configs.get change.project).isDisabled change.branch = false) :
    (suggester.suggestForChange change path limit).run s = (.ok result, s') ↔
      ∃ revision normal folders levels,
        suggester.site.tree.branchHead change.project change.branch = .ok (some revision) ∧
        Path.normalize path = .ok normal ∧ Path.ancestorFolders normal = .ok folders ∧
        (Hierarchy.levels suggester.site
          { project := change.project, branch := change.branch, revision, path := normal }).run s =
            (.ok levels, s') ∧
        suggester.suggestionFrom (changeRequest change limit) normal
          (suggester.site.configs.get change.project).globalOwners folders.length levels =
            .ok result := by
  rw [run_suggestForChange_eq_ok]
  constructor
  · intro h
    rcases h with ⟨revision, hhead, hsuggest⟩
    rcases (run_suggest_eq_ok henabled).mp hsuggest with ⟨normal, folders, levels, hrest⟩
    exact ⟨revision, normal, folders, levels, hhead, hrest⟩
  · intro h
    rcases h with ⟨revision, normal, folders, levels, hhead, hrest⟩
    exact ⟨revision, hhead, (run_suggest_eq_ok henabled).mpr ⟨normal, folders, levels, hrest⟩⟩

theorem normalize_of_ancestorFolders {folders : List String}
    (h : Path.ancestorFolders path = .ok folders) : ∃ again, Path.normalize path = .ok again := by
  rcases except_bind_eq_ok.mp h with ⟨parent, hparent, _⟩
  rcases except_bind_eq_ok.mp hparent with ⟨again, hagain, _⟩
  exact ⟨again, hagain⟩

/-- Whoever is listed is suggested: the row that is cut to the limit has the listed accounts
without the owner of the change, service users and, unless nobody else is left, reluctant owners.
Levels list for the path as it is when its normal form is normalized once more, and shut the global
owners out for the normal form itself; for most paths these are the same.  Where a site differs in
wildcards only, the suggestion differs in its flag only. -/
theorem suggests_listed
    (henabled : (suggester.site.configs.get change.project).isDisabled change.branch = false)
    (hrun : (suggester.suggestForChange change path limit).run s = (.ok result, s')) :
    ∃ revision normal again folders levels row,
      suggester.site.tree.branchHead change.project change.branch = .ok (some revision) ∧
      Path.normalize path = .ok normal ∧ Path.normalize normal = .ok again ∧
      Path.ancestorFolders normal = .ok folders ∧
      (Hierarchy.levels suggester.site
        { project := change.project, branch := change.branch, revision, path := normal }).run s =
          (.ok levels, s') ∧
      suggester.Suggests change limit
        (Listing levels again normal (suggester.site.configs.get change.project).globalOwners
          folders.length) folders.length row result ∧
      (∀ other : Int, row.length ≤ other →
        (suggester.suggestForChange change path other).run s =
          (.ok { result with owners := row }, s')) ∧
      ∀ (site : Site) (head : String) (levels' : List Level) (t t' : Session),
        (site.configs.get change.project).isDisabled change.branch = false →
        site.tree.branchHead change.project change.branch = .ok (some head) →
        (Hierarchy.levels site
          { project := change.project, branch := change.branch, revision := head,
            path := normal }).run t = (.ok levels', t') →
        levels'.map Level.withoutWildcards = levels.map Level.withoutWildcards →
        exceptEverybody (site.configs.get change.project).globalOwners =
          exceptEverybody (suggester.site.configs.get change.project).globalOwners →
        ∃ everybody, ((suggester.withSite site).suggestForChange change path limit).run t =
          (.ok (result.withEverybody everybody), t') := by
  rcases (run_change_eq_ok henabled).mp hrun with
    ⟨revision, normal, folders, levels, hhead, hnormal, hfolders, hlevels, hresult⟩
  rcases normalize_of_ancestorFolders hfolders with ⟨again, hagain⟩
  rcases except_map_eq_ok.mp hresult with ⟨candidates, hgather, rfl⟩
  have hgathers := gathers_of_gather hagain hgather
  refine ⟨revision, normal, again, folders, levels, _, hhead, hnormal, hagain, hfolders, hlevels,
    suggests_conclude hgathers change limit normal folders.length, ?_, ?_⟩
  · intro other hother
    have hsuggestion := except_map_eq_ok.mpr ⟨candidates, hgather, conclude_of_room hother normal⟩
    exact (run_change_eq_ok henabled).mpr
      ⟨revision, normal, folders, levels, hhead, hnormal, hfolders, hlevels, hsuggestion⟩
  · intro site head levels' t t' henabled' hhead' hlevels' hsame hglobals
    rcases suggestionFrom_of_wildcards hresult hglobals hsame with ⟨everybody, hsuggestion⟩
    exact ⟨everybody, (run_change_eq_ok henabled').mpr
      ⟨head, normal, folders, levels', hhead', hnormal, hfolders, hlevels', hsuggestion⟩⟩

/-!
# A mill

Ann would rather not be suggested for the wheel of the mill, but she is the only one.  The mill
belongs to everybody besides, and the quiet mill does not.
-/

def millWith (owners : String) (globalOwners : List String) : Suggester where
  site := {
    tree := (((History.commitWith (fun text => text) {} "mill" "main" ⟨[
      ("/OWNERS", some owners.toUTF8.toList),
      ("/wheel/OWNERS", some "ann@mill #{NEVER_SUGGEST}\n".toUTF8.toList)]⟩).toOption.map
        Prod.snd).getD {}).tree
    configs := ({} : ProjectConfigs).put "mill" { globalOwners } }
  directory := Directory.ofList [{ id := 1, emails := ["ann@mill"] }]

def mill : Suggester := millWith "ann@mill\n" ["*", "ann@mill"]

def quietMill : Suggester := millWith "ann@mill\n" ["ann@mill"]

def millChange : Change where
  project := "mill"
  branch := "main"
  number := 1
  owner := 9
  uploader := 9
  currentRevision := "new"

def millPlace (path : String) : Place where
  project := "mill"
  branch := "main"
  revision := "mill|main|1"
  path

def millLevel (folder : String) (set : OwnerSet) (distance : Nat) : Level where
  config := {
    key := { project := "mill", branch := "main", folder, fileName := some "OWNERS" }
    sets := [set] }
  distance

def bladeLevels : List Level :=
  [millLevel "/wheel" { owners := [{ email := "ann@mill", remarks := [Remark.neverSuggest] }] } 0,
    millLevel "/" { owners := [{ email := "ann@mill" }] } 1]

theorem mill_suggests_ann :
    ∃ result s' row everybody t',
      (mill.suggestForChange millChange "/wheel/blade" 10).run {} = (.ok result, s') ∧
      result.owners.map SuggestedOwner.accountId = [1] ∧ result.everybody = true ∧
      mill.Suggests millChange 10
        (Listing bladeLevels "/wheel/blade" "/wheel/blade" ["*", "ann@mill"] 2) 2 row result ∧
      (quietMill.suggestForChange millChange "/wheel/blade" 10).run {} =
        (.ok (result.withEverybody everybody), t') := by
  have henabled : (mill.site.configs.get "mill").isDisabled "main" = false := by decide +kernel
  have hsuggested : (((mill.suggestForChange millChange "/wheel/blade" 10).run {}).1.toOption.map
      fun result => (result.owners.map SuggestedOwner.accountId, result.everybody)) =
        some ([1], true) := by decide +kernel
  have hpath : (Path.normalize "/wheel/blade").toOption = some "/wheel/blade" := by decide +kernel
  have habove : (Path.ancestorFolders "/wheel/blade").toOption = some ["/wheel", "/"] := by
    decide +kernel
  have hhead : (mill.site.tree.branchHead "mill" "main").toOption = some (some "mill|main|1") := by
    decide +kernel
  have hlevels : ((Hierarchy.levels mill.site (millPlace "/wheel/blade")).run {}).1.toOption =
      some bladeLevels := by decide +kernel
  have hquiet : ((Hierarchy.levels quietMill.site (millPlace "/wheel/blade")).run {}).1.toOption =
      some bladeLevels := by decide +kernel
  rcases Option.map_eq_some_iff.mp hsuggested with ⟨result, hresult, hfacts⟩
  injection hfacts with howners heverybody
  have hrun := run_of_toOption hresult
  rcases suggests_listed henabled hrun with ⟨revision, normal, again, folders, levels, row,
    hrevision, hnormal, hagain, hfolders, hseen, hsuggests, _, hwildcards⟩
  cases (eq_ok_of_toOption hpath).symm.trans hnormal
  cases (eq_ok_of_toOption hpath).symm.trans hagain
  cases (eq_ok_of_toOption habove).symm.trans hfolders
  cases (eq_ok_of_toOption hhead).symm.trans hrevision
  cases (eq_ok_of_toOption hlevels).symm.trans (congrArg Prod.fst hseen)
  rcases hwildcards quietMill.site _ _ {} _ henabled hrevision (run_of_toOption hquiet) rfl
    (by decide) with ⟨everybody, hother⟩
  exact ⟨result, _, row, everybody, _, hrun, howners, heverybody, hsuggests, hother⟩

/-!
The attic of the third mill is Ann's and nobody else's, but its name ends with a blank and so does
the path below it.  Normalizing changes this path twice: Ann is looked for in its last form, where
her set does not match, and the global owners are shut out in the form before, where it does.
-/

def atticMill : Suggester :=
  millWith "per-file a?=set noparent\nper-file a?=ann@mill\n" ["ann@mill"]

def atticSet : OwnerSet where
  globs := ["a?"]
  owners := [{ email := "ann@mill" }]
  overrides := true

def atticLevels : List Level := [millLevel "/" atticSet 0]

theorem ann_is_named : atticMill.resolver.Names { email := "ann@mill" } 1 :=
  ⟨by decide, by decide, by decide⟩

theorem ann_is_candidate {path : String} (hpath : path ∈ ["/a / ", "/a "]) :
    atticMill.IsCandidate 9 (Listing atticLevels path path ["ann@mill"] 1) 1 := by
  have hnames : (Path.relativeTo "/" "/a / ").toOption = some "a " ∧
      (Path.relativeTo "/" "/a ").toOption = some "a" := by decide +kernel
  refine ⟨?_, by decide, by decide⟩
  rw [List.mem_cons, List.mem_singleton] at hpath
  rcases hpath with rfl | rfl
  · have hset : (millLevel "/" atticSet 0).config.HasFor "/a / " atticSet :=
      ⟨"a ", eq_ok_of_toOption hnames.1, List.mem_singleton_self _, by decide +kernel⟩
    exact ⟨0, _, .level List.mem_cons_self hset List.mem_cons_self, ann_is_named⟩
  · refine ⟨1, _, .global List.mem_cons_self ?_, ann_is_named⟩
    intro level hlevel set hset
    rcases hset with ⟨relative, hrelative, hmem, hfor⟩
    rcases List.mem_singleton.mp hlevel with rfl
    rcases List.mem_singleton.mp hmem with rfl
    cases (eq_ok_of_toOption hnames.2).symm.trans hrelative
    have hnot : atticSet.isFor "a" = false := by decide +kernel
    rw [hnot] at hfor
    cases hfor

/-- In whatever form the path is taken, Ann could be suggested for it, and nobody is. -/
theorem attic_suggests_nobody :
    ∃ result s' t, (atticMill.suggestForChange millChange "/a / /" 10).run {} = (.ok result, s') ∧
      (Hierarchy.levels atticMill.site (millPlace "/a / ")).run {} = (.ok atticLevels, t) ∧
      ∀ path ∈ ["/a / ", "/a "], ∀ row, ¬ atticMill.Suggests millChange 10
        (Listing atticLevels path path ["ann@mill"] 1) 1 row result := by
  have hsuggested : (((atticMill.suggestForChange millChange "/a / /" 10).run {}).1.toOption.map
      fun result => result.owners.map SuggestedOwner.accountId) = some [] := by decide +kernel
  have hlevels : ((Hierarchy.levels atticMill.site (millPlace "/a / ")).run {}).1.toOption =
      some atticLevels := by decide +kernel
  rcases Option.map_eq_some_iff.mp hsuggested with ⟨result, hresult, hids⟩
  refine ⟨result, _, _, run_of_toOption hresult, run_of_toOption hlevels, ?_⟩
  intro path hpath row hsuggests
  have hrow := hsuggests.answers.ne_nil (ann_is_candidate hpath)
  have hcut := hsuggests.cut
  rw [List.map_eq_nil_iff.mp hids] at hcut
  have hlength := congrArg List.length hcut
  rw [List.length_nil, List.length_take] at hlength
  have hpositive := List.length_pos_iff.mpr hrow
  omega

end Suggester
end Ownership
