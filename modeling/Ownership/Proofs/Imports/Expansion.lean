import Ownership.Proofs.Imports.Trails

/-!
# Expanded configurations

Imports are followed in rounds, and no round asks whether a file has been seen before.  What the
rounds gather can be told by trails: each round extends the trails of the round before it by one
import, and what a trail leads to counts once for each trail.
-/

namespace Ownership
namespace Hierarchy

open Walk

variable {site : Site} {memory : Session} {root : Found} {expansion : Expansion}
  {round : List Pending} {s s' : Session}

/-!
# What imports contribute
-/

def gather (expansion : Expansion) (found : List (ImportScope × Found)) : Expansion :=
  found.foldl (fun expansion (scope, target) => expansion.add scope target.1) expansion

def foundIn (site : Site) (memory : Session) (round : List Pending) : List (ImportScope × Found) :=
  round.filterMap fun pending =>
    (remembered site memory pending).map fun target => (pending.imp.scope, target)

theorem recalls_followRound {gathered : Expansion} {later : List Pending}
    (h : Recalls (followRound site expansion round) memory (gathered, later)) :
    gathered = gather expansion (foundIn site memory round) ∧
      later = (foundIn site memory round).flatMap fun (scope, target) =>
        nextImports scope target.1 target.2 := by
  induction round generalizing expansion gathered later with
  | nil =>
      cases recalls_pure.mp h
      exact ⟨rfl, rfl⟩
  | cons pending rest ih =>
      rw [followRound_cons, recalls_bind (loads_loadImport site pending)
        (loads_followFound site expansion pending rest)] at h
      rcases h with ⟨imported, hloaded, hrest⟩
      have hremembered := remembered_of_recalls hloaded
      unfold foundIn
      cases imported with
      | none =>
          rw [List.filterMap_cons_none (by rw [hremembered]; rfl)]
          exact ih hrest
      | some target =>
          rcases (recalls_bind (loads_followRound site _ rest) fun _ => .done _).mp hrest with
            ⟨⟨others, latest⟩, hothers, hpure⟩
          cases recalls_pure.mp hpure
          rcases ih hothers with ⟨rfl, rfl⟩
          rw [List.filterMap_cons_some (by rw [hremembered]; rfl)]
          exact ⟨rfl, rfl⟩

def waiting (root : Found) (trails : List (List Link)) : List Pending :=
  trails.flatMap fun links =>
    nextImports (scopeOf links) (endOf root links).1 (endOf root links).2

def leadOf (root : Found) (links : List Link) : ImportScope × Found :=
  (scopeOf links, endOf root links)

theorem foundIn_waiting (site : Site) (memory : Session) (root : Found)
    (trails : List (List Link)) :
    foundIn site memory (waiting root trails) =
      (extended site memory root trails).map (leadOf root) := by
  have hlinks : ∀ links, foundIn site memory
      (nextImports (scopeOf links) (endOf root links).1 (endOf root links).2) =
      ((linksFrom site memory (endOf root links)).map (· :: links)).map (leadOf root) := by
    intro links
    unfold foundIn nextImports linksFrom
    conv => left; rw [← List.zipIdx_map_fst 0 (endOf root links).1.imports]
    rw [List.map_map, List.filterMap_map, List.map_map, List.map_filterMap]
    congr
    funext ⟨imp, position⟩
    change Option.map _ (remembered site memory (stepFrom (endOf root links) imp)) =
      Option.map _ (Option.map _ _)
    rw [Option.map_map]
    congr
    funext target
    unfold leadOf
    dsimp only [Function.comp]
    rw [scopeOf_cons]
    rfl
  unfold waiting extended foundIn at *
  rw [List.filterMap_flatMap, List.map_flatMap]
  congr
  funext links
  exact hlinks links

theorem waiting_extended (trails : List (List Link)) :
    ((foundIn site memory (waiting root trails)).flatMap fun (scope, target) =>
      nextImports scope target.1 target.2) = waiting root (extended site memory root trails) := by
  rw [foundIn_waiting, List.flatMap_map]
  rfl

theorem waiting_start (site : Site) (memory : Session) (config : OwnerConfig)
    (revision : String) :
    waiting (config, revision) (trailsOf site memory (config, revision) 0) =
      config.imports.map fun imp => { imp, importer := config.key, revision } := by
  unfold waiting trailsOf
  rw [List.flatMap_cons, List.flatMap_nil, List.append_nil]
  rfl

def circle : Site where
  tree := {
    branchHead _ _ := .ok (some "tip")
    containsRevision _ _ _ := .ok true
    contentOf _ _ path := .ok (
      if path = "/OWNERS" then some "include /OWNERS\nann@circle\n".toUTF8.toList else none)
    listFiles _ _ := .ok ["/OWNERS"] }

end Hierarchy
end Ownership
