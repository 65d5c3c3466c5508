import Ownership.Proofs.Failing
import Ownership.Proofs.Tree.Commits
import Ownership.Suggestion.Suggester

/-!
# Revisions that are asked for

Suggestions for a branch can be asked for at a revision of one's own choice.  Before anything else
is done, the form of the revision is looked at, and then whether the branch has it.  The form is
that of forty hexadecimal digits, but for a line feed that may stand behind them.
-/

namespace Ownership

open Walk Hierarchy

/-- Forty hexadecimal digits in lower case. -/
structure IsHash (revision : String) : Prop where
  length : revision.toList.length = 40
  digits : ∀ c ∈ revision.toList, '0' ≤ c ∧ c ≤ '9' ∨ 'a' ≤ c ∧ c ≤ 'f'

namespace Suggester

variable {revision : String} {c : Char}

/-!
# The form of a revision
-/

theorem isRevisionDigit_iff :
    isRevisionDigit c = true ↔ '0' ≤ c ∧ c ≤ '9' ∨ 'a' ≤ c ∧ c ≤ 'f' := by
  simp [isRevisionDigit]

theorem isHash_iff : IsHash revision ↔
    revision.toList.length = 40 ∧ ∀ c ∈ revision.toList, isRevisionDigit c = true := by
  simp only [isRevisionDigit_iff]
  exact ⟨fun h => ⟨h.length, h.digits⟩, fun h => ⟨h.1, h.2⟩⟩

/-- What passes for a revision: forty digits, with or without a line feed behind them. -/
theorem isRevision_iff : isRevision revision = true ↔
    IsHash revision ∨ ∃ digits, IsHash digits ∧ revision = digits ++ "\n" := by
  have hfeed : isRevisionDigit '\n' = false := by decide
  unfold isRevision
  dsimp only
  rw [Bool.and_eq_true, decide_eq_true_eq, decide_eq_true_eq]
  constructor
  · intro h
    rcases h with ⟨hlength, hrest⟩
    have htaken : revision.toList.take 40 = revision.toList.takeWhile isRevisionDigit := by
      rw [← hlength]
      exact (List.prefix_iff_eq_take.mp (List.takeWhile_prefix isRevisionDigit)).symm
    have hwhole : revision.toList =
        revision.toList.takeWhile isRevisionDigit ++ revision.toList.drop 40 := by
      rw [← htaken, List.take_append_drop]
    have hhash : IsHash (String.ofList (revision.toList.takeWhile isRevisionDigit)) := by
      rw [isHash_iff, String.toList_ofList]
      exact ⟨hlength, fun c hc => List.mem_takeWhile_imp hc⟩
    rcases hrest with hend | hend
    · rw [hend, List.append_nil] at hwhole
      rw [← hwhole, String.ofList_toList] at hhash
      exact .inl hhash
    · refine .inr ⟨_, hhash, ?_⟩
      rw [hend] at hwhole
      rw [← String.toList_inj, String.toList_append, String.toList_ofList]
      exact hwhole
  · intro h
    rcases h with hhash | ⟨digits, hhash, rfl⟩
    · rw [isHash_iff] at hhash
      rw [List.takeWhile_eq_self_iff.mpr hhash.2]
      exact ⟨hhash.1, .inl (List.drop_eq_nil_of_le (le_of_eq hhash.1))⟩
    · rw [isHash_iff] at hhash
      have htaken : (digits ++ "\n").toList.takeWhile isRevisionDigit = digits.toList := by
        rw [String.toList_append, List.takeWhile_append_of_pos hhash.2]
        exact List.append_nil _
      rw [htaken, String.toList_append, ← hhash.1, List.drop_left]
      exact ⟨rfl, .inr rfl⟩

/-!
# Where a revision is refused

A suggestion is made from a walk, so it cannot fail like the check of the revision does.
-/

variable {suggester : Suggester}

theorem failsLike_suggestLevel (path : String) (candidates : Candidates) (level : Level) :
    FailsLike suggester.site.tree (suggester.visitLevel path candidates level) := by
  unfold visitLevel
  apply (failsLike_check _ .path).bind
  intro owners
  dsimp only
  split
  · exact (failsLike_pure true).bind fun _ => failsLike_pure _
  · exact (failsLike_check _ .path).bind fun _ => failsLike_pure _

theorem failsLike_candidates (place : Place) (greatest : Nat) :
    FailsLike suggester.site.tree (suggester.candidates place greatest) := by
  unfold Suggester.candidates
  apply (failsLike_visitLevels (failsLike_suggestLevel place.path) place {}).bind
  intro candidates
  dsimp only
  split
  · exact failsLike_pure _
  · exact failsLike_pure _

theorem failsLike_suggest (place : Place) (request : Request) :
    FailsLike suggester.site.tree (suggester.suggest place request) := by
  unfold suggest
  apply (failsLike_check _ .path).bind
  intro path
  split
  · exact failsLike_pure _
  · apply (failsLike_check _ .path).bind
    intro folders
    apply (failsLike_candidates _ _).bind
    intro candidates
    exact failsLike_pure _

def withHistory (suggester : Suggester) (history : History) : Suggester :=
  { suggester with site := { suggester.site with tree := history.tree } }

/-- What comes of asking for suggestions at a revision of a history, and the session afterwards. -/
def askedAt (suggester : Suggester) (history : History) (project branch path revision : String)
    (seed limit : Int) (session : Session) : Except Failure SuggestionResult × Session :=
  ((suggester.withHistory history).suggestForBranch project branch path (some revision) seed
    limit).run session

variable {history : History} {project branch path : String} {seed limit : Int} {session : Session}

theorem branchRevision_withHistory :
    (suggester.withHistory history).branchRevision project branch (some revision) =
      if isRevision revision = true then
        if history.containsRevision project branch revision = true then .ok revision
        else .error (.revision .unknown)
      else .error (.revision .malformed) := by
  have hcontains : (suggester.withHistory history).site.tree.containsRevision project branch
      revision = .ok (history.containsRevision project branch revision) := rfl
  unfold branchRevision
  dsimp only
  rw [hcontains]
  cases isRevision revision with
  | false => rfl
  | true =>
      cases history.containsRevision project branch revision with
      | false => rfl
      | true => rfl

theorem askedAt_of_refused {failure : Failure}
    (h : (suggester.withHistory history).branchRevision project branch (some revision) =
      .error failure) :
    suggester.askedAt history project branch path revision seed limit session =
      (.error failure, session) := by
  unfold askedAt suggestForBranch
  rw [h]
  rfl

/-- One that is not refused is not called into question later. -/
theorem askedAt_of_passed
    (h : (suggester.withHistory history).branchRevision project branch (some revision) =
      .ok revision)
    (error : RevisionError) :
    (suggester.askedAt history project branch path revision seed limit session).1 ≠
      .error (.revision error) := by
  intro hfails
  unfold askedAt suggestForBranch at hfails
  rw [h] at hfails
  have hwalk : FailsLike (suggester.withHistory history).site.tree
      ((suggester.withHistory history).suggest { project, branch, revision, path }
        { seed, limit }) := failsLike_suggest _ _
  exact Failure.OfWalk.ne_revision (hwalk session _ _ (Prod.ext hfails rfl)) error rfl

theorem askedAt_cases (suggester : Suggester) (history : History)
    (project branch path revision : String) (seed limit : Int) (session : Session) :
    (isRevision revision = false ∧
      suggester.askedAt history project branch path revision seed limit session =
        (.error (.revision .malformed), session)) ∨
    (isRevision revision = true ∧ history.containsRevision project branch revision = false ∧
      suggester.askedAt history project branch path revision seed limit session =
        (.error (.revision .unknown), session)) ∨
    (isRevision revision = true ∧ history.containsRevision project branch revision = true ∧
      ∀ error, (suggester.askedAt history project branch path revision seed limit session).1 ≠
        .error (.revision error)) := by
  have hchecked : (suggester.withHistory history).branchRevision project branch
    (some revision) = _ := branchRevision_withHistory
  cases hform : isRevision revision with
  | false =>
      rw [hform, if_neg Bool.false_ne_true] at hchecked
      exact .inl ⟨rfl, askedAt_of_refused hchecked⟩
  | true =>
      rw [hform, if_pos rfl] at hchecked
      cases hlisted : history.containsRevision project branch revision with
      | false =>
          rw [hlisted, if_neg Bool.false_ne_true] at hchecked
          exact .inr (.inl ⟨rfl, rfl, askedAt_of_refused hchecked⟩)
      | true =>
          rw [hlisted, if_pos rfl] at hchecked
          exact .inr (.inr ⟨rfl, rfl, askedAt_of_passed hchecked⟩)

/-!
# Revisions that are made by commits
-/

theorem isRevisionDigit_hexDigits (width n : Nat) :
    ∀ c ∈ Text.hexDigits width n, isRevisionDigit c = true := by
  induction width generalizing n with
  | zero => exact fun c hc => by cases hc
  | succ width ih =>
      intro c hc
      rcases List.mem_append.mp hc with hfront | hlast
      · exact ih (n / 16) c hfront
      · have hdigits : ∀ digit < 16, isRevisionDigit (Nat.digitChar digit) = true := by decide
        rw [List.mem_singleton.mp hlast]
        exact hdigits (n % 16) (Nat.mod_lt n (by decide))

theorem isHash_fingerprint (text : String) : IsHash (Text.fingerprint text) := by
  rw [isHash_iff, Text.fingerprint, String.toList_ofList]
  constructor
  · simp [Text.Fingerprint.digest, Text.length_hexDigits]
  · intro c hc
    rcases List.mem_flatMap.mp hc with ⟨word, _, hword⟩
    exact isRevisionDigit_hexDigits 8 word.toNat c hword

theorem mem_revisions_historyOf {digest : String → String} {commits : List History.Commit}
    (h : revision ∈ (History.historyOf digest commits).revisions project branch) :
    ∃ text, revision = digest text := by
  induction commits using List.reverseRecOn with
  | nil => cases h
  | append_singleton commits commit ih =>
      rw [History.historyOf_append_singleton] at h
      rcases History.attemptWith_cases digest (History.historyOf digest commits) commit with
        ⟨_, _, hadds⟩ | ⟨_, _, hsame⟩
      · rw [hadds.revisions] at h
        split at h
        · rename_i hbranch
          cases hbranch
          rcases List.mem_append.mp h with hold | hnew
          · exact ih hold
          · exact ⟨_, List.mem_singleton.mp hnew⟩
        · exact ih h
      · rw [hsame.revisions] at h
        exact ih h

theorem containsRevision_of_lineFeed (commits : List History.Commit) (project branch : String)
    {digits : String} (h : IsHash digits) :
    (History.historyOf Text.fingerprint commits).containsRevision project branch
      (digits ++ "\n") = false := by
  rw [History.containsRevision, decide_eq_false_iff_not]
  intro hmem
  rcases mem_revisions_historyOf hmem with ⟨text, htext⟩
  have hlength := (isHash_fingerprint text).length
  rw [← htext, String.toList_append, List.length_append, h.length] at hlength
  cases hlength

/-!
# Asking for suggestions at a revision
-/

/-- A revision is refused as malformed unless it has forty digits, with or without a line feed
behind them, and as unknown if it has this form and does not belong to the branch; commits make no
revision with a line feed.  Whoever is refused finds the session as it was: no file was read and
nothing is remembered. -/
theorem askedAt_refuses_iff (suggester : Suggester) (history : History)
    (project branch path revision : String) (seed limit : Int) (session : Session) :
    ((suggester.askedAt history project branch path revision seed limit session).1 =
        .error (.revision .malformed) ↔
      ¬ IsHash revision ∧ ¬ ∃ digits, IsHash digits ∧ revision = digits ++ "\n") ∧
    ((suggester.askedAt history project branch path revision seed limit session).1 =
        .error (.revision .unknown) ↔
      (IsHash revision ∨ ∃ digits, IsHash digits ∧ revision = digits ++ "\n") ∧
        history.containsRevision project branch revision = false) ∧
    (∀ commits digits, history = History.historyOf Text.fingerprint commits → IsHash digits →
      history.containsRevision project branch (digits ++ "\n") = false) ∧
    (∀ error, (suggester.askedAt history project branch path revision seed limit session).1 =
        .error (.revision error) →
      (suggester.askedAt history project branch path revision seed limit session).2 = session) ∧
    RevisionError.malformed.message = "invalid revision" ∧
    RevisionError.unknown.message = "unknown revision" := by
  rw [← not_or, ← isRevision_iff, Bool.not_eq_true]
  have hfed : ∀ commits digits, history = History.historyOf Text.fingerprint commits →
      IsHash digits → history.containsRevision project branch (digits ++ "\n") = false := by
    intro commits digits hmade hdigits
    rw [hmade]
    exact containsRevision_of_lineFeed commits project branch hdigits
  rcases suggester.askedAt_cases history project branch path revision seed limit session with
    ⟨hform, hasked⟩ | ⟨hform, hlisted, hasked⟩ | ⟨hform, hlisted, hpassed⟩
  · rw [hasked]
    refine ⟨iff_of_true rfl hform, ?_, hfed, fun _ _ => rfl, rfl, rfl⟩
    exact iff_of_false nofun fun h => Bool.false_ne_true (hform.symm.trans h.1)
  · rw [hasked]
    refine ⟨?_, iff_of_true rfl ⟨hform, hlisted⟩, hfed, fun _ _ => rfl, rfl, rfl⟩
    exact iff_of_false nofun fun h => Bool.false_ne_true (h.symm.trans hform)
  · refine ⟨?_, ?_, hfed, fun error h => absurd h (hpassed error), rfl, rfl⟩
    · exact iff_of_false (hpassed _) fun h => Bool.false_ne_true (h.symm.trans hform)
    · exact iff_of_false (hpassed _) fun h => Bool.false_ne_true (h.2.symm.trans hlisted)

def fedRevision : String := String.ofList (List.replicate 40 'a') ++ "\n"

/-- They are taken for a revision that could exist. -/
theorem fedRevision_is_unknown :
    ¬ IsHash fedRevision ∧
      (({ site := { tree := History.tree {} } } : Suggester).askedAt {} "p" "main" "/a.py"
        fedRevision 0 10 {}).1 = .error (.revision .unknown) := by
  have hpasses : isRevision fedRevision = true := by decide +kernel
  have habsent : (({} : History).containsRevision "p" "main" fedRevision) = false := rfl
  constructor
  · intro hhash
    have hlength : fedRevision.toList.length = 41 := by decide +kernel
    exact absurd (hlength.symm.trans hhash.length) (by decide)
  · apply congrArg Prod.fst (askedAt_of_refused _)
    rw [branchRevision_withHistory, if_pos hpasses, habsent, if_neg Bool.false_ne_true]

end Suggester
end Ownership
