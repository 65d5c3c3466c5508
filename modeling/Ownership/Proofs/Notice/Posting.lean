import Mathlib.Data.ENat.Lattice
import Ownership.Proofs.Notice.Message

/-!
# How often a message is posted

A message is posted again only after a passing failure, and only as often as the settings allow.  So
all calls but the last have failed, and at most one copy of the message is stored.  Nothing that goes
wrong gets out: it is noted in the log.
-/

namespace Ownership
namespace Notice

variable {outcome : Nat → PostOutcome} {text : String} {posting : Posting} {first more last : Nat}

/-!
# One call
-/

theorem calls_after (posting : Posting) (text : String) (outcome : PostOutcome) :
    (posting.after text outcome).calls = posting.calls + 1 := by
  cases outcome <;> exact List.length_append

theorem run_callPoster (outcome : Nat → PostOutcome) (text : String) (posting : Posting) :
    (callPoster outcome text).run posting =
      ((outcome posting.calls).result, posting.after text (outcome posting.calls)) := by
  show (liftExcept (outcome posting.calls).result : Delivery Unit).run
    (posting.after text (outcome posting.calls)) = _
  cases (outcome posting.calls).result with
  | ok => rfl
  | error trouble => rfl

/-!
# Calls up to the last
-/

/-- Of at most `more + 1` calls, beginning with number `first`, this one ends the trials. -/
structure IsLastCall (outcome : Nat → PostOutcome) (first more last : Nat) : Prop where
  first_le : first ≤ last
  le_bound : last ≤ first + more
  before : ∀ n, first ≤ n → n < last → outcome n = .passingFailure
  settled : last = first + more ∨ outcome last ≠ .passingFailure

def Posting.upTo (posting : Posting) (outcome : Nat → PostOutcome) (text : String) (last : Nat) :
    Posting where
  sent := posting.sent ++ List.replicate (last + 1 - posting.calls) text
  stored := posting.stored ++ if outcome last = .delivered then [text] else []

theorem upTo_calls (posting : Posting) (outcome : Nat → PostOutcome) (text : String) :
    posting.upTo outcome text posting.calls = posting.after text (outcome posting.calls) := by
  unfold Posting.upTo
  rw [Nat.add_sub_cancel_left, List.replicate_one]
  cases outcome posting.calls with
  | delivered => rfl
  | passingFailure =>
      rw [if_neg (by decide), List.append_nil]
      rfl
  | finalFailure =>
      rw [if_neg (by decide), List.append_nil]
      rfl

theorem upTo_after (hlast : posting.calls + 1 ≤ last) :
    (posting.after text .passingFailure).upTo outcome text last =
      posting.upTo outcome text last := by
  unfold Posting.upTo
  rw [calls_after]
  congr 1
  show posting.sent ++ [text] ++ _ = _
  rw [List.append_assoc, List.singleton_append, ← List.replicate_succ]
  congr 2
  omega

theorem IsLastCall.self (hdone : more = 0 ∨ outcome first ≠ .passingFailure) :
    IsLastCall outcome first more first where
  first_le := le_rfl
  le_bound := Nat.le_add_right first more
  before n hle hlt := absurd hlt (Nat.not_lt.mpr hle)
  settled := hdone.imp_left fun hzero => by rw [hzero, Nat.add_zero]

theorem IsLastCall.later (hpassing : outcome first = .passingFailure)
    (h : IsLastCall outcome (first + 1) more last) : IsLastCall outcome first (more + 1) last where
  first_le := (Nat.le_succ first).trans h.first_le
  le_bound := by
    have hle := h.le_bound
    omega
  before n hle hlt := by
    rcases Nat.eq_or_lt_of_le hle with rfl | hlater
    · exact hpassing
    · exact h.before n hlater hlt
  settled := h.settled.imp_left fun hbound => by rw [hbound, Nat.add_right_comm, Nat.add_assoc]

theorem run_retrying_of_passing (hpassing : outcome posting.calls = .passingFailure)
    (text : String) (more : Nat) :
    (retrying (callPoster outcome text) (more + 1)).run posting =
      (retrying (callPoster outcome text) more).run (posting.after text .passingFailure) := by
  have hcall := run_callPoster outcome text posting
  rw [hpassing] at hcall
  exact exceptT_tryCatch_of_error hcall _

theorem run_retrying_of_settled (hsettled : outcome posting.calls ≠ .passingFailure)
    (text : String) (more : Nat) :
    (retrying (callPoster outcome text) more).run posting =
      ((outcome posting.calls).result, posting.after text (outcome posting.calls)) := by
  have hcall := run_callPoster outcome text posting
  cases more with
  | zero => exact hcall
  | succ more =>
      cases hfirst : outcome posting.calls with
      | delivered =>
          rw [hfirst] at hcall
          exact exceptT_tryCatch_of_ok hcall _
      | passingFailure => exact absurd hfirst hsettled
      | finalFailure =>
          rw [hfirst] at hcall
          exact exceptT_tryCatch_of_error hcall _

/-- The trials come to a last call, and its result is theirs. -/
theorem run_retrying (outcome : Nat → PostOutcome) (text : String) (more : Nat)
    (posting : Posting) :
    ∃ last, IsLastCall outcome posting.calls more last ∧
      (retrying (callPoster outcome text) more).run posting =
        ((outcome last).result, posting.upTo outcome text last) := by
  induction more generalizing posting with
  | zero =>
      refine ⟨posting.calls, .self (.inl rfl), ?_⟩
      rw [upTo_calls]
      exact run_callPoster outcome text posting
  | succ more ih =>
      by_cases hpassing : outcome posting.calls = .passingFailure
      · rcases ih (posting.after text .passingFailure) with ⟨last, hlast, hrun⟩
        rw [calls_after] at hlast
        refine ⟨last, .later hpassing hlast, ?_⟩
        rw [run_retrying_of_passing hpassing, hrun, upTo_after hlast.first_le]
      · refine ⟨posting.calls, .self (.inr hpassing), ?_⟩
        rw [upTo_calls]
        exact run_retrying_of_settled hpassing text (more + 1)

/-!
# The number of calls
-/

/-- The position of the first call that does not end in a passing failure. -/
noncomputable def settledAt (outcome : Nat → PostOutcome) : ℕ∞ :=
  ⨅ (n : Nat) (_ : outcome n ≠ .passingFailure), ((n + 1 : Nat) : ℕ∞)

theorem IsLastCall.calls_eq (h : IsLastCall outcome 0 more last) :
    ((last + 1 : Nat) : ℕ∞) = min ((more + 1 : Nat) : ℕ∞) (settledAt outcome) := by
  apply le_antisymm
  · apply le_min
    · have hle := h.le_bound
      exact Nat.cast_le.mpr (by omega)
    · apply le_iInf₂
      intro n hsettled
      have hle : last ≤ n := by
        by_contra hlt
        exact hsettled (h.before n (Nat.zero_le n) (Nat.lt_of_not_le hlt))
      exact Nat.cast_le.mpr (Nat.succ_le_succ hle)
  · rcases h.settled with hbound | hsettled
    · rw [Nat.zero_add] at hbound
      rw [hbound]
      exact min_le_left _ _
    · exact (min_le_right _ _).trans (iInf₂_le last hsettled)

/-- How a message is posted: with one text throughout, until a call does not fail in passing or the
attempts are used up, and stored once if the last call gets through. -/
structure Posts (outcome : Nat → PostOutcome) (attempts : Int) (text : String) (posting : Posting) :
    Prop where
  calls : (posting.calls : ℕ∞) = min ((max 1 attempts.toNat : Nat) : ℕ∞) (settledAt outcome)
  sent : ∀ message ∈ posting.sent, message = text
  stored : posting.stored = [] ∨ posting.stored = [text]
  delivered_iff : posting.delivered = true ↔ ∃ n < posting.calls, outcome n = .delivered

theorem delivered_upTo (outcome : Nat → PostOutcome) (text : String) (last : Nat) :
    (({} : Posting).upTo outcome text last).delivered = true ↔ outcome last = .delivered := by
  unfold Posting.delivered Posting.upTo
  cases outcome last with
  | delivered => exact iff_of_true rfl rfl
  | passingFailure => exact iff_of_false Bool.false_ne_true (by simp)
  | finalFailure => exact iff_of_false Bool.false_ne_true (by simp)

theorem IsLastCall.posts {attempts : Int} (h : IsLastCall outcome 0 (attempts.toNat - 1) last)
    (text : String) : Posts outcome attempts text (({} : Posting).upTo outcome text last) := by
  have hcalls : (({} : Posting).upTo outcome text last).calls = last + 1 := List.length_replicate
  constructor
  · rw [hcalls, h.calls_eq]
    congr 2
    omega
  · intro message hmessage
    exact List.eq_of_mem_replicate hmessage
  · unfold Posting.upTo
    split
    · exact .inr rfl
    · exact .inl rfl
  · rw [hcalls, delivered_upTo]
    constructor
    · intro hdelivered
      exact ⟨last, Nat.lt_succ_self last, hdelivered⟩
    · rintro ⟨n, hn, hdelivered⟩
      rcases Nat.lt_succ_iff_lt_or_eq.mp hn with hlt | rfl
      · rw [h.before n (Nat.zero_le n) hlt] at hdelivered
        cases hdelivered
      · exact hdelivered

/-!
# Adding reviewers
-/

theorem run_deliver_text (hne : text ≠ "") (outcome : Nat → PostOutcome) (attempts : Int) :
    ∃ last, IsLastCall outcome 0 (attempts.toNat - 1) last ∧
      (deliver outcome attempts (.ok text)).run {} =
        ((outcome last).result, ({} : Posting).upTo outcome text last) := by
  have hsome : text.isEmpty = false := by simpa using hne
  have hdeliver : deliver outcome attempts (.ok text) =
      if text.isEmpty then pure () else retrying (callPoster outcome text) (attempts.toNat - 1) := rfl
  rw [hdeliver, hsome, if_neg Bool.false_ne_true]
  exact run_retrying outcome text (attempts.toNat - 1) {}

/-- What comes of a message, built or not, that is posted at once. -/
structure Notifies (change : Change) (outcome : Nat → PostOutcome) (attempts : Int)
    (built : Except Failure String) (done : Outcome) : Prop where
  atOnce : done.scheduled = false
  raisesNothing : done.raised = none
  ofFailure : ∀ failure, built = .error failure →
    done.posting.calls = 0 ∧ done.logged = some (failureNote change)
  ofNothing : built = .ok "" → done.posting.calls = 0 ∧ done.logged = none
  ofText : ∀ text, built = .ok text → text ≠ "" → Posts outcome attempts text done.posting ∧
    done.logged = if done.posting.delivered then none else some (failureNote change)

def noteOf (note : String) : Except Trouble Unit → Option String
  | .ok _ => none
  | .error _ => some note

theorem noteOf_result (note : String) (ending : PostOutcome) :
    noteOf note ending.result = if ending = .delivered then none else some note := by
  cases ending with
  | delivered => rfl
  | passingFailure => rfl
  | finalFailure => rfl

theorem run_noted {action : Delivery Unit} {result : Except Trouble Unit} {after : Posting}
    (h : action.run posting = (result, after)) (note : String) :
    (noted note action).run posting = (.ok (noteOf note result), after) := by
  cases result with
  | ok => exact exceptT_tryCatch_of_ok (exceptT_bind_of_ok h _) _
  | error trouble => exact exceptT_tryCatch_of_error (exceptT_bind_of_error h _) _

theorem run_noted_deliver (change : Change) (outcome : Nat → PostOutcome) (attempts : Int)
    (built : Except Failure String) :
    ∃ logged posting,
      (noted (failureNote change) (deliver outcome attempts built)).run {} = (.ok logged, posting) ∧
        Notifies change outcome attempts built { posting, logged } := by
  cases built with
  | error failure =>
      refine ⟨_, _, run_noted rfl _, rfl, rfl, fun _ _ => ⟨rfl, rfl⟩, nofun, nofun⟩
  | ok text =>
      by_cases hempty : text = ""
      · rw [hempty]
        refine ⟨_, _, run_noted rfl _, rfl, rfl, nofun, fun _ => ⟨rfl, rfl⟩, ?_⟩
        intro text htext hne
        cases htext
        exact absurd rfl hne
      · rcases run_deliver_text hempty outcome attempts with ⟨last, hlast, hrun⟩
        refine ⟨_, _, run_noted hrun _, rfl, rfl, nofun, ?_, ?_⟩
        · intro htext
          cases htext
          exact absurd rfl hempty
        · intro _ htext _
          cases htext
          refine ⟨hlast.posts text, ?_⟩
          rw [noteOf_result]
          simp only [delivered_upTo]

/-- Where notices are wanted, posting one at once raises nothing.  A message that cannot be built, or
is empty, leaves the poster alone.  Any other is posted until a call does not fail in passing, as
often as the attempts allow. -/
theorem onReviewersAdded_notifies {configs : ProjectConfigs} {change : Change} {hasExecutor : Bool}
    (henabled : (configs.get change.project).isDisabled change.branch = false)
    (hlimit : 0 < (configs.get change.project).maxPathsInMessages)
    (hatOnce : ((configs.get change.project).asyncMessages && hasExecutor) = false)
    (engine : Engine) (accounts : Directory) (reviewers : List Int)
    (outcome : Nat → PostOutcome) (attempts : Int) (session : Session) :
    ∃ done, onReviewersAdded engine change reviewers outcome attempts hasExecutor session accounts
        configs = (done, ((message engine change reviewers
          (configs.get change.project).maxPathsInMessages accounts).run session).2) ∧
      Notifies change outcome attempts ((message engine change reviewers
        (configs.get change.project).maxPathsInMessages accounts).run session).1 done := by
  rcases hbuilt : (message engine change reviewers
    (configs.get change.project).maxPathsInMessages accounts).run session with ⟨built, session'⟩
  rcases run_noted_deliver change outcome attempts built with ⟨logged, posting, hrun, hnotifies⟩
  refine ⟨{ posting, logged }, ?_, hnotifies⟩
  unfold Walk.run at hbuilt
  have hpositive : ¬ (configs.get change.project).maxPathsInMessages ≤ 0 := Int.not_le.mpr hlimit
  unfold onReviewersAdded
  dsimp only
  rw [henabled, hatOnce, hbuilt]
  simp only [Bool.false_or, decide_eq_true_eq, if_neg hpositive]
  rw [hrun]

def slowOutcome (n : Nat) : PostOutcome := if n < 2 then .passingFailure else .delivered

theorem cellar_notifies :
    ∃ done s', onReviewersAdded cellar cellarChange [1] slowOutcome 5 false {} = (done, s') ∧
      Notifies cellarChange slowOutcome 5 ((message cellar cellarChange [1] 100).run {}).1 done ∧
      ((message cellar cellarChange [1] 100).run {}).1.toOption =
        some "ann@cellar, who was added as reviewer owns the following files:\n* shelf\n" ∧
      done.posting.calls = 3 ∧ done.posting.stored.length = 1 ∧ done.logged = none := by
  have hlimit : 0 < (cellar.site.configs.get cellarChange.project).maxPathsInMessages := by decide
  rcases onReviewersAdded_notifies (by decide) hlimit (Bool.and_false _) cellar cellar.directory
    [1] slowOutcome 5 {} with ⟨done, hrun, hnotifies⟩
  have hdone : done =
      (onReviewersAdded cellar cellarChange [1] slowOutcome 5 false {}).1 := by rw [hrun]
  refine ⟨done, _, hrun, hnotifies, by decide +kernel, ?_⟩
  rw [hdone]
  decide +kernel

end Notice
end Ownership
