import Mathlib.Data.List.Perm.Subperm
import Ownership.Incident

/-!
# Chains of causes

The walk along the links of incidents visits every place at most once and then comes to an end,
however the links run.  All reports are made from the one chain that it gives: whether the caller is
to blame, which status the answer has and what the caller is told.  They agree on whether there is
anything to report, and what is told first belongs to the status, unless a conflict stands behind a
bad request.
-/

namespace Ownership

/-- The status that is reported for a failure that stands alone. -/
inductive FailureKind.ReportedAs : FailureKind → Nat → Prop
  | conflict {kind : FailureKind} (h : kind ∈ [.brokenConfig, .projectConfig, .path]) :
      ReportedAs kind 409
  | badRequest {kind : FailureKind} (h : kind ∈ [.revision, .unsupportedRevision]) :
      ReportedAs kind 400

theorem FailureKind.reportedAs_conflict_iff {kind : FailureKind} :
    kind.ReportedAs 409 ↔ kind.isConflict = true := by
  constructor
  · intro h
    cases h with
    | conflict h => simpa [isConflict, or_assoc] using h
  · intro h
    exact .conflict (by simpa [isConflict, or_assoc] using h)

theorem FailureKind.reportedAs_badRequest_iff {kind : FailureKind} :
    kind.ReportedAs 400 ↔ kind.isBadRequest = true := by
  constructor
  · intro h
    cases h with
    | badRequest h => simpa [isBadRequest] using h
  · intro h
    exact .badRequest (by simpa [isBadRequest] using h)

theorem FailureKind.isCallers_iff {kind : FailureKind} :
    kind.isCallers = true ↔ kind.ReportedAs 409 ∨ kind.ReportedAs 400 := by
  unfold isCallers
  rw [Bool.or_eq_true, reportedAs_conflict_iff, reportedAs_badRequest_iff]

namespace Incident

variable {incidents links : List Incident} {unvisited seen places others : List Nat} {place : Nat}
  {start : Option Nat} {before behind : List Incident} {first : Incident}

/-!
# Walking along the links

A walk from one place to the next knows the places that it has seen.  It is a finite derivation, so
a walk that exists comes to its end.
-/

inductive Walks (incidents : List Incident) : List Nat → Option Nat → List Nat → Prop
  /-- The last incident has no link. -/
  | last {seen : List Nat} : Walks incidents seen none []
  /-- The link leads back. -/
  | circle {seen : List Nat} {place : Nat} (h : place ∈ seen) : Walks incidents seen (some place) []
  /-- The link leads out of the list. -/
  | nowhere {seen : List Nat} {place : Nat} (h : incidents[place]? = none) :
      Walks incidents seen (some place) []
  | visit {seen : List Nat} {place : Nat} {incident : Incident} {places : List Nat}
      (hnew : place ∉ seen) (h : incidents[place]? = some incident)
      (hnext : Walks incidents (place :: seen) incident.next? places) :
      Walks incidents seen (some place) (place :: places)

theorem Walks.unique (h : Walks incidents seen start places)
    (hother : Walks incidents seen start others) : others = places := by
  induction h generalizing others with
  | last =>
      cases hother
      rfl
  | circle hseen =>
      cases hother with
      | circle _ => rfl
      | nowhere _ => rfl
      | visit hnew _ _ => exact absurd hseen hnew
  | nowhere hnone =>
      cases hother with
      | circle _ => rfl
      | nowhere _ => rfl
      | visit _ hsome _ =>
          rw [hnone] at hsome
          cases hsome
  | visit hnew hincident hnext ih =>
      cases hother with
      | circle hseen => exact absurd hseen hnew
      | nowhere hnone =>
          rw [hincident] at hnone
          cases hnone
      | visit _ hsame hrest =>
          rw [hincident] at hsame
          cases hsame
          rw [ih hrest]

theorem Walks.nodup (h : Walks incidents seen start places) :
    places.Nodup ∧ (∀ place ∈ places, place ∉ seen) ∧
      ∀ place ∈ places, place < incidents.length := by
  induction h with
  | last => simp
  | circle _ => simp
  | nowhere _ => simp
  | @visit seen place incident places hnew hincident hnext ih =>
      rcases ih with ⟨hdistinct, hfresh, hbound⟩
      have hbelow : place < incidents.length := (List.getElem?_eq_some_iff.mp hincident).1
      refine ⟨List.nodup_cons.mpr ⟨?_, hdistinct⟩, ?_, ?_⟩
      · intro hagain
        exact hfresh place hagain List.mem_cons_self
      · intro other hother
        rcases List.mem_cons.mp hother with rfl | hlater
        · exact hnew
        · exact fun hseen => hfresh other hlater (List.mem_cons_of_mem place hseen)
      · intro other hother
        rcases List.mem_cons.mp hother with rfl | hlater
        · exact hbelow
        · exact hbound other hlater

theorem Walks.length_le (h : Walks incidents seen start places) :
    places.length ≤ incidents.length := by
  rcases h.nodup with ⟨hdistinct, _, hbound⟩
  have hsubset : places ⊆ List.range incidents.length := by
    intro place hplace
    exact List.mem_range.mpr (hbound place hplace)
  have hlength := (hdistinct.subperm hsubset).length_le
  rw [List.length_range] at hlength
  exact hlength

/-- As long as it is known which places are left, the walk comes to an end and finds what `follow`
finds. -/
theorem walks_follow (hunvisited : unvisited.Nodup)
    (hleft : ∀ place, place ∈ unvisited ↔ place < incidents.length ∧ place ∉ seen) :
    ∃ places, Walks incidents seen (some place) places ∧
      follow incidents unvisited place = places.filterMap (incidents[·]?) := by
  fun_induction follow incidents unvisited place generalizing seen with
  | case1 unvisited place hmem hnone => exact ⟨[], .nowhere hnone, rfl⟩
  | case2 unvisited place hmem incident hincident ih =>
      have hnew : place ∉ seen := ((hleft place).mp hmem).2
      cases hnext : incident.next? with
      | none =>
          refine ⟨[place], .visit hnew hincident ?_, ?_⟩
          · rw [hnext]
            exact .last
          · rw [List.filterMap_cons, hincident]
            rfl
      | some next =>
          -- the place that was just visited is no longer left
          have herased : ∀ other, other ∈ unvisited.erase place ↔
              other < incidents.length ∧ other ∉ place :: seen := by
            intro other
            rw [hunvisited.mem_erase_iff, hleft, List.mem_cons, not_or]
            exact and_left_comm
          rcases ih next (hunvisited.erase place) herased with ⟨places, hwalk, hfollow⟩
          refine ⟨place :: places, .visit hnew hincident ?_, ?_⟩
          · rw [hnext]
            exact hwalk
          · rw [List.filterMap_cons, hincident]
            exact congrArg (incident :: ·) hfollow
  | case3 unvisited place hmem =>
      by_cases hseen : place ∈ seen
      · exact ⟨[], .circle hseen, rfl⟩
      · have hout : incidents[place]? = none := by
          rw [List.getElem?_eq_none_iff]
          by_contra hin
          exact hmem ((hleft place).mpr ⟨Nat.lt_of_not_le hin, hseen⟩)
        exact ⟨[], .nowhere hout, rfl⟩

theorem walks_chain (incidents : List Incident) (place : Nat) :
    ∃ places, Walks incidents [] (some place) places ∧
      chain incidents place = places.filterMap (incidents[·]?) := by
  apply walks_follow List.nodup_range
  intro other
  simp

/-!
# What a chain is reported as
-/

/-- The first failure of a chain that the caller can mend, between those before and behind it. -/
structure FirstOfCallers (links before : List Incident) (first : Incident)
    (behind : List Incident) : Prop where
  split : links = before ++ first :: behind
  others : ∀ incident ∈ before, incident.kind.isCallers = false
  callers : first.kind.isCallers = true

theorem find?_eq_some_iff :
    (links.find? fun incident => incident.kind.isCallers) = some first ↔
      ∃ before behind, FirstOfCallers links before first behind := by
  rw [List.find?_eq_some_iff_append]
  constructor
  · intro h
    rcases h with ⟨hcallers, before, behind, hsplit, hothers⟩
    exact ⟨before, behind, hsplit, fun incident hmem => by simpa using hothers incident hmem,
      hcallers⟩
  · intro h
    rcases h with ⟨before, behind, hsplit, hothers, hcallers⟩
    exact ⟨hcallers, before, behind, hsplit, fun incident hmem => by simp [hothers incident hmem]⟩

theorem isCallersError_iff : isCallersError links = true ↔
    ∃ first, (links.find? fun incident => incident.kind.isCallers) = some first := by
  rw [← Option.isSome_iff_exists, List.find?_isSome]
  unfold isCallersError
  rw [List.any_eq_true]

theorem head?_userMessages (url : Option String) (links : List Incident) :
    (userMessages url links).head? =
      (links.find? fun incident => incident.kind.isCallers).map Incident.text := by
  unfold userMessages
  cases links.find? fun incident => incident.kind.isCallers with
  | none => rfl
  | some first =>
      dsimp only
      split
      · rfl
      · rfl

/-- A conflict decides the status wherever it stands, and a bad request does if there is none. -/
theorem httpStatus?_eq_some_iff {status : Nat} : httpStatus? links = some status ↔
    (∃ incident ∈ links, incident.kind.ReportedAs 409) ∧ status = 409 ∨
      (¬ ∃ incident ∈ links, incident.kind.ReportedAs 409) ∧
        (∃ incident ∈ links, incident.kind.ReportedAs 400) ∧ status = 400 := by
  simp only [FailureKind.reportedAs_conflict_iff, FailureKind.reportedAs_badRequest_iff,
    ← List.any_eq_true]
  unfold httpStatus?
  cases links.any fun incident => incident.kind.isConflict with
  | true => grind
  | false =>
      cases links.any fun incident => incident.kind.isBadRequest with
      | true => grind
      | false => grind

theorem status_of_conflict {status : Nat} (hstatus : httpStatus? links = some status)
    (hconflict : ∃ incident ∈ links, incident.kind.ReportedAs 409) : status = 409 := by
  rcases httpStatus?_eq_some_iff.mp hstatus with ⟨_, h409⟩ | ⟨hnone, _⟩
  · exact h409
  · exact absurd hconflict hnone

theorem httpStatus?_isSome_iff :
    (∃ status, httpStatus? links = some status) ↔ isCallersError links = true := by
  have hsplit : (∃ incident ∈ links, incident.kind.isCallers = true) ↔
      (∃ incident ∈ links, incident.kind.ReportedAs 409) ∨
        ∃ incident ∈ links, incident.kind.ReportedAs 400 := by
    simp only [FailureKind.isCallers_iff, and_or_left, exists_or]
  unfold isCallersError
  rw [List.any_eq_true, hsplit]
  simp only [httpStatus?_eq_some_iff]
  by_cases hconflict : ∃ incident ∈ links, incident.kind.ReportedAs 409
  · simp [hconflict]
  · simp [hconflict]

theorem FirstOfCallers.reportedAs (h : FirstOfCallers links before first behind) {status : Nat}
    (hstatus : httpStatus? links = some status) : first.kind.ReportedAs status ∨
      first.kind.ReportedAs 400 ∧ status = 409 ∧
        ∃ incident ∈ behind, incident.kind.ReportedAs 409 := by
  have hnot : ∀ incident ∈ before, ∀ code, code = 409 ∨ code = 400 →
      ¬ incident.kind.ReportedAs code := by
    intro incident hmem code hcode hreported
    have hcallers : incident.kind.isCallers = true := by
      rw [FailureKind.isCallers_iff]
      rcases hcode with rfl | rfl
      · exact .inl hreported
      · exact .inr hreported
    rw [h.others incident hmem] at hcallers
    cases hcallers
  rcases FailureKind.isCallers_iff.mp h.callers with hconflict | hrequest
  · have hthere : ∃ incident ∈ links, incident.kind.ReportedAs 409 := by
      refine ⟨first, ?_, hconflict⟩
      rw [h.split]
      simp
    rcases status_of_conflict hstatus hthere with rfl
    exact .inl hconflict
  · rcases httpStatus?_eq_some_iff.mp hstatus with ⟨⟨incident, hmem, hconflict⟩, rfl⟩ | ⟨_, _, rfl⟩
    · rw [h.split, List.mem_append, List.mem_cons] at hmem
      rcases hmem with hbefore | rfl | hbehind
      · exact absurd hconflict (hnot incident hbefore 409 (.inl rfl))
      · exact .inl hconflict
      · exact .inr ⟨hrequest, rfl, incident, hbehind, hconflict⟩
    · exact .inl hrequest

theorem FirstOfCallers.status_of_behind (h : FirstOfCallers links before first behind)
    {status : Nat} (hstatus : httpStatus? links = some status)
    (hbehind : ∃ incident ∈ behind, incident.kind.ReportedAs 409) : status = 409 := by
  rcases hbehind with ⟨incident, hmem, hconflict⟩
  refine Incident.status_of_conflict hstatus ⟨incident, ?_, hconflict⟩
  rw [h.split]
  exact List.mem_append_right before (List.mem_cons_of_mem first hmem)

/-- Whatever way the links run, circles included, the walk from an incident comes to an end and
visits no place twice, and the three reports that are made from it agree on whether there is
anything to tell.  What is told first is the text of the first failure of the chain that the caller
can mend.  The status is that of its kind, unless it is a bad request with a conflict behind it: then
it is that of the conflict. -/
theorem reports_of_walk (incidents : List Incident) (place : Nat) (url : Option String) :
    ∃ places, Walks incidents [] (some place) places ∧
      (∀ others, Walks incidents [] (some place) others → others = places) ∧
      places.Nodup ∧ places.length ≤ incidents.length ∧
      chain incidents place = places.filterMap (incidents[·]?) ∧
      (isCallersError (chain incidents place) = true ↔
        ∃ status, httpStatus? (chain incidents place) = some status) ∧
      ((∃ status, httpStatus? (chain incidents place) = some status) ↔
        userMessages url (chain incidents place) ≠ []) ∧
      ∀ status, httpStatus? (chain incidents place) = some status →
        ∃ before first behind, FirstOfCallers (chain incidents place) before first behind ∧
          (userMessages url (chain incidents place)).head? = some first.text ∧
          (first.kind.ReportedAs status ∨ first.kind.ReportedAs 400 ∧ status = 409 ∧
            ∃ incident ∈ behind, incident.kind.ReportedAs 409) ∧
          ((∃ incident ∈ behind, incident.kind.ReportedAs 409) → status = 409) := by
  rcases walks_chain incidents place with ⟨places, hwalk, hchain⟩
  refine ⟨places, hwalk, fun others hother => hwalk.unique hother, hwalk.nodup.1,
    hwalk.length_le, hchain, httpStatus?_isSome_iff.symm, ?_, ?_⟩
  · rw [httpStatus?_isSome_iff, isCallersError_iff, ← List.isSome_head?, head?_userMessages,
      Option.isSome_map, Option.isSome_iff_exists]
  · intro status hstatus
    rcases isCallersError_iff.mp (httpStatus?_isSome_iff.mp ⟨status, hstatus⟩) with ⟨first, hfirst⟩
    rcases find?_eq_some_iff.mp hfirst with ⟨before, behind, hsplit⟩
    refine ⟨before, first, behind, hsplit, ?_, hsplit.reportedAs hstatus,
      hsplit.status_of_behind hstatus⟩
    rw [head?_userMessages, hfirst]
    rfl

def refusedRequest : List Incident := [
  { kind := .revision, text := "unknown revision", context := some 1 },
  { kind := .brokenConfig, text := "line 1: unterminated string" }]

/-- The answer says that there is a conflict, and its message tells of the request. -/
theorem refusedRequest_tells_of_request :
    httpStatus? (chain refusedRequest 0) = some 409 ∧
      (userMessages none (chain refusedRequest 0)).head? = some "unknown revision" ∧
      ∀ incident ∈ refusedRequest, incident.text = "unknown revision" →
        ¬ incident.kind.ReportedAs 409 := by
  have hchain : chain refusedRequest 0 = refusedRequest := by cbv
  rw [hchain]
  refine ⟨by decide, by decide, ?_⟩
  intro incident hmem htext
  rcases List.mem_pair.mp hmem with rfl | rfl
  · rw [FailureKind.reportedAs_conflict_iff]
    decide
  · exact absurd htext (by decide)

end Incident
end Ownership
