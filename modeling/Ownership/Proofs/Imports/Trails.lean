import Mathlib.Data.List.Nodup
import Ownership.Proofs.Walks

/-!
# Trails of imports

A trail follows imports from one configuration to the next.  Configurations may import each other in
circles, and the same file may be reached in several ways, so trails are told apart by the positions
of the imports on them.  What an import leads to is what a session remembers of its file.
-/

namespace Ownership
namespace Hierarchy

open Walk

abbrev Found := OwnerConfig × String

variable {site : Site} {memory later : Session} {pending : Pending} {root here target : Found}

/-!
# Following an import
-/

namespace Pending

def project (pending : Pending) : String :=
  (Text.nonempty? pending.imp.project).getD pending.importer.project

def branch (pending : Pending) : String :=
  (Text.nonempty? pending.imp.branch).getD pending.importer.branch

end Pending

/-- The import names a file that was read as a sound configuration. -/
inductive Leads (site : Site) (memory : Session) (pending : Pending) : Found → Prop
  | found {revision : String} {key : ConfigKey} {backend : Backend} {config : OwnerConfig} :
      importRevision site pending pending.project pending.branch = .ok (some revision) →
      importKey pending.imp pending.project pending.branch = .ok key →
      site.backendFor pending.project pending.branch = .ok backend →
      memory.cache.get? (Loader.cacheKey backend key revision) = some (.ok (some config)) →
      Leads site memory pending (config, revision)

theorem Leads.mono (h : Leads site memory pending target) (hle : memory ≤ later) :
    Leads site later pending target := by
  cases h with
  | found hrevision hkey hbackend hread =>
      exact .found hrevision hkey hbackend (hle _ _ hread)

def remembered (site : Site) (memory : Session) (pending : Pending) : Option Found := do
  let revision ← (← (importRevision site pending pending.project pending.branch).toOption)
  let key ← (importKey pending.imp pending.project pending.branch).toOption
  let backend ← (site.backendFor pending.project pending.branch).toOption
  let reading ← memory.cache.get? (Loader.cacheKey backend key revision)
  (Reading.config? reading).map fun config => (config, revision)

theorem Leads.remembered_eq (h : Leads site memory pending target) :
    remembered site memory pending = some target := by
  cases h with
  | found hrevision hkey hbackend hread =>
      unfold remembered
      rw [hrevision, hkey, hbackend]
      change (memory.cache.get? _ >>= _) = _
      rw [hread]
      rfl

theorem leads_of_remembered (h : remembered site memory pending = some target) :
    Leads site memory pending target := by
  unfold remembered at h
  cases hrevision : importRevision site pending pending.project pending.branch with
  | error failure =>
      rw [hrevision] at h
      cases h
  | ok head =>
      cases head with
      | none =>
          rw [hrevision] at h
          cases h
      | some revision =>
          cases hkey : importKey pending.imp pending.project pending.branch with
          | error failure =>
              rw [hrevision, hkey] at h
              cases h
          | ok key =>
              cases hbackend : site.backendFor pending.project pending.branch with
              | error failure =>
                  rw [hrevision, hkey, hbackend] at h
                  cases h
              | ok backend =>
                  rw [hrevision, hkey, hbackend] at h
                  change (memory.cache.get? _ >>= _) = _ at h
                  rcases Option.bind_eq_some_iff.mp h with ⟨reading, hread, hconfig⟩
                  rcases Option.map_eq_some_iff.mp hconfig with ⟨config, hsound, rfl⟩
                  refine .found hrevision hkey hbackend ?_
                  rw [hread]
                  cases reading with
                  | error broken => cases hsound
                  | ok found =>
                      cases hsound
                      rfl

/-- What a walk finds of an import is what is remembered of it from then on. -/
theorem remembered_of_recalls {found : Option Found}
    (h : Recalls (loadImport site pending) memory found) :
    remembered site memory pending = found := by
  rcases h with ⟨t, hrun, hback⟩
  unfold loadImport at hrun
  rcases run_bind_eq_ok.mp hrun with ⟨head, u, hhead, hrest⟩
  rcases run_liftExcept_eq_ok hhead with ⟨hrevision, rfl⟩
  change importRevision site pending pending.project pending.branch = .ok head at hrevision
  unfold remembered
  rw [hrevision]
  cases head with
  | none =>
      cases hrest
      rfl
  | some revision =>
      rcases run_bind_eq_ok.mp hrest with ⟨key, v, hnamed, hformats⟩
      rcases run_liftExcept_eq_ok hnamed with ⟨hkey, rfl⟩
      rcases run_bind_eq_ok.mp hformats with ⟨backend, w, hformat, hloads⟩
      rcases run_liftExcept_eq_ok hformat with ⟨hbackend, rfl⟩
      rcases run_bind_eq_ok.mp hloads with ⟨config, x, hloaded, hend⟩
      cases hend
      change importKey pending.imp pending.project pending.branch = .ok key at hkey
      change site.backendFor pending.project pending.branch = .ok backend at hbackend
      rcases (Loader.loading_of_run hloaded).remembers with ⟨reading, hknown, rfl⟩
      rw [hkey, hbackend]
      change (Cache.get? _ _ >>= _) = _
      rw [hback _ _ hknown]
      rfl

/-!
# Trails
-/

/-- An import on a trail: its position among the imports of its configuration, and what it leads
to. -/
structure Link where
  position : Nat
  imp : Import
  target : Found
deriving DecidableEq

/-- Where a trail has come to.  The latest link of a trail comes first. -/
def endOf (root : Found) : List Link → Found
  | [] => root
  | link :: _ => link.target

def stepFrom (here : Found) (imp : Import) : Pending where
  imp := imp
  importer := here.1.key
  revision := here.2

inductive IsTrail (site : Site) (memory : Session) (root : Found) : List Link → Prop
  | start : IsTrail site memory root []
  | follow {link : Link} {links : List Link} : IsTrail site memory root links →
      (endOf root links).1.imports[link.position]? = some link.imp →
      Leads site memory (stepFrom (endOf root links) link.imp) link.target →
      IsTrail site memory root (link :: links)

theorem IsTrail.mono {links : List Link} (h : IsTrail site memory root links)
    (hle : memory ≤ later) : IsTrail site later root links := by
  induction h with
  | start => exact .start
  | follow _ himp hleads ih => exact .follow ih himp (hleads.mono hle)

/-- An import that is not for everything narrows all that is reached through it. -/
def scopeOf (links : List Link) : ImportScope :=
  if links.all fun link => link.imp.scope = .everything then .everything else .globalOnly

theorem scopeOf_cons (link : Link) (links : List Link) :
    scopeOf (link :: links) = narrow (scopeOf links) link.imp.scope := by
  unfold scopeOf narrow
  rw [List.all_cons]
  cases hscope : link.imp.scope <;> cases links.all (fun link => link.imp.scope = .everything) <;>
    rfl

/-!
# Enumerating trails
-/

def linksFrom (site : Site) (memory : Session) (here : Found) : List Link :=
  here.1.imports.zipIdx.filterMap fun (imp, position) =>
    (remembered site memory (stepFrom here imp)).map fun target => { position, imp, target }

theorem mem_linksFrom {link : Link} : link ∈ linksFrom site memory here ↔
    here.1.imports[link.position]? = some link.imp ∧
      Leads site memory (stepFrom here link.imp) link.target := by
  unfold linksFrom
  rw [List.mem_filterMap]
  constructor
  · intro h
    rcases h with ⟨⟨imp, position⟩, hmem, hlink⟩
    rcases Option.map_eq_some_iff.mp hlink with ⟨target, htarget, rfl⟩
    exact ⟨List.mem_zipIdx_iff_getElem?.mp hmem, leads_of_remembered htarget⟩
  · intro h
    rcases h with ⟨himp, hleads⟩
    refine ⟨(link.imp, link.position), List.mem_zipIdx_iff_getElem?.mpr himp, ?_⟩
    dsimp only
    rw [hleads.remembered_eq]
    rfl

def extended (site : Site) (memory : Session) (root : Found) (trails : List (List Link)) :
    List (List Link) :=
  trails.flatMap fun links => (linksFrom site memory (endOf root links)).map (· :: links)

theorem mem_extended {trail : List Link} {trails : List (List Link)} :
    trail ∈ extended site memory root trails ↔ ∃ link links, trail = link :: links ∧
      links ∈ trails ∧ link ∈ linksFrom site memory (endOf root links) := by
  unfold extended
  rw [List.mem_flatMap]
  constructor
  · intro h
    rcases h with ⟨links, hmem, hcons⟩
    rcases List.mem_map.mp hcons with ⟨link, hlink, rfl⟩
    exact ⟨link, links, rfl, hmem, hlink⟩
  · intro h
    rcases h with ⟨link, links, rfl, hmem, hlink⟩
    exact ⟨links, hmem, List.mem_map.mpr ⟨link, hlink, rfl⟩⟩

theorem isTrail_of_mem_extended {trail : List Link} {trails : List (List Link)} {length : Nat}
    (htrails : ∀ links ∈ trails, IsTrail site memory root links ∧ links.length = length)
    (h : trail ∈ extended site memory root trails) :
    IsTrail site memory root trail ∧ trail.length = length + 1 := by
  rcases mem_extended.mp h with ⟨link, links, rfl, hmem, hlink⟩
  rcases htrails links hmem with ⟨hbefore, rfl⟩
  rcases mem_linksFrom.mp hlink with ⟨himp, hleads⟩
  exact ⟨.follow hbefore himp hleads, rfl⟩

/-- The trails of a given length, in the order of the positions on them. -/
def trailsOf (site : Site) (memory : Session) (root : Found) : Nat → List (List Link)
  | 0 => [[]]
  | length + 1 => extended site memory root (trailsOf site memory root length)

theorem mem_trailsOf {links : List Link} {length : Nat} :
    links ∈ trailsOf site memory root length ↔
      IsTrail site memory root links ∧ links.length = length := by
  induction length generalizing links with
  | zero =>
      constructor
      · intro hmem
        rcases List.mem_singleton.mp hmem with rfl
        exact ⟨.start, rfl⟩
      · intro h
        rcases h with ⟨_, hlength⟩
        rcases List.length_eq_zero_iff.mp hlength with rfl
        exact List.mem_singleton.mpr rfl
  | succ length ih =>
      constructor
      · exact isTrail_of_mem_extended fun links => ih.mp
      · intro h
        rcases h with ⟨htrail, hlength⟩
        cases htrail with
        | start => cases hlength
        | follow hbefore himp hleads =>
            exact mem_extended.mpr ⟨_, _, rfl, ih.mpr ⟨hbefore, Nat.succ.inj hlength⟩,
              mem_linksFrom.mpr ⟨himp, hleads⟩⟩

end Hierarchy
end Ownership
