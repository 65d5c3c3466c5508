import Mathlib.Data.List.Induction
import Ownership.Proofs.Imports.Targets
import Ownership.Tree.History

/-!
# The keys of loaded configurations

A session remembers a configuration under the place of its file, and several keys can lead to one
place: the default file of a folder can be asked for with its name or without it, and a name may
contain the last part of a folder.  A loaded configuration carries the key of the request that has
read its file, which need not be the one that is answered.
-/

namespace Ownership
namespace Loader

/-!
# Requests
-/

structure Request where
  tree : Tree
  backend : Backend
  key : ConfigKey
  revision : String

namespace Request

def load (request : Request) : Walk (Option OwnerConfig) :=
  Loader.load request.tree request.backend request.key request.revision

def place (request : Request) : CacheKey :=
  cacheKey request.backend request.key request.revision

def reading (request : Request) : Except Failure Reading :=
  readFresh request.tree request.backend request.key request.revision

/-- The file at a place can be read for the request. -/
def reads (place : CacheKey) (request : Request) : Bool :=
  decide (request.place = place) && request.reading.toOption.isSome

theorem reads_eq_true {place : CacheKey} {request : Request} :
    request.reads place = true ↔ request.place = place ∧ ∃ reading, request.reading = .ok reading := by
  unfold reads
  rw [Bool.and_eq_true, decide_eq_true_iff]
  cases request.reading with
  | error failure => simp [Except.toOption]
  | ok reading => simp [Except.toOption]

theorem bind_reads (place : CacheKey) (request : Request) :
    ((if request.reads place = true then some request else none).bind
      fun first => first.reading.toOption) =
      if request.place = place then request.reading.toOption else none := by
  by_cases hreads : request.reads place = true
  · rw [if_pos hreads, if_pos (reads_eq_true.mp hreads).1]
    rfl
  · rw [if_neg hreads, Option.bind_none]
    split
    · rename_i hplace
      cases hreading : request.reading with
      | error failure => rfl
      | ok reading => exact absurd (reads_eq_true.mpr ⟨hplace, reading, hreading⟩) hreads
    · rfl

end Request

def sessionAfter (requests : List Request) : Session :=
  requests.foldl (fun session request => (request.load.run session).2) {}

/-- The first request that could read a place has done so for all later ones. -/
def firstReader? (requests : List Request) (place : CacheKey) : Option Request :=
  requests.find? (Request.reads place)

variable {requests : List Request} {request : Request} {place : CacheKey} {config : OwnerConfig}

theorem sessionAfter_append_singleton (requests : List Request) (request : Request) :
    sessionAfter (requests ++ [request]) = (request.load.run (sessionAfter requests)).2 :=
  List.foldl_append

theorem get?_sessionAfter (requests : List Request) (place : CacheKey) :
    (sessionAfter requests).cache.get? place =
      (firstReader? requests place).bind fun first => first.reading.toOption := by
  induction requests using List.reverseRecOn with
  | nil => rfl
  | append_singleton earlier request ih =>
      have hload : (sessionAfter (earlier ++ [request])).cache.get? place =
          ((sessionAfter earlier).cache.get? place).or
            (if request.place = place then request.reading.toOption else none) := by
        rw [sessionAfter_append_singleton]
        exact get?_load _ _ _ _ _ place
      rw [hload, ih, ← Request.bind_reads]
      unfold firstReader?
      rw [List.find?_append, List.find?_singleton]
      cases hfirst : earlier.find? (Request.reads place) with
      | none => rfl
      | some first =>
          rcases (Request.reads_eq_true.mp (List.find?_some hfirst)).2 with ⟨reading, hreading⟩
          rw [Option.bind_some, hreading]
          show some reading = first.reading.toOption
          rw [hreading]
          rfl

/-!
# The key of the first reader
-/

theorem place_of_firstReader? {first : Request} (h : firstReader? requests place = some first) :
    first ∈ requests ∧ first.place = place :=
  ⟨List.mem_of_find?_eq_some h, (Request.reads_eq_true.mp (List.find?_some h)).1⟩

/-- A loaded configuration has the key of the first request that could read its file.  So its project
and its branch are those that were asked for, and it has the key that was asked for as long as no
other key has led to its place before. -/
theorem key_of_first_reader
    (h : (request.load.run (sessionAfter requests)).1 = .ok (some config)) :
    (∃ first, firstReader? (requests ++ [request]) request.place = some first ∧
      config.key = first.key) ∧
    config.key.project = request.key.project ∧ config.key.branch = request.key.branch ∧
    ((∀ earlier ∈ requests, earlier.place = request.place → earlier.key = request.key) →
      config.key = request.key) := by
  have hknown : (sessionAfter (requests ++ [request])).cache.get? request.place =
      some (.ok (some config)) := by
    rw [sessionAfter_append_singleton]
    exact get?_of_load_eq_ok h
  rw [get?_sessionAfter] at hknown
  rcases Option.bind_eq_some_iff.mp hknown with ⟨first, hfirst, hreading⟩
  have hkey : config.key = first.key := key_of_readFresh (Walk.eq_ok_of_toOption hreading)
  rcases place_of_firstReader? hfirst with ⟨hmem, hplace⟩
  refine ⟨⟨first, hfirst, hkey⟩, ?_, ?_, ?_⟩
  · rw [hkey]
    exact congrArg CacheKey.project hplace
  · rw [hkey]
    exact congrArg CacheKey.branch hplace
  · intro hsame
    rw [hkey]
    rcases List.mem_append.mp hmem with hbefore | hself
    · exact hsame first hbefore hplace
    · rw [List.mem_singleton.mp hself]

/-!
# One file, three keys
-/

def pond : History :=
  (History.attempt {} {
    project := "pond", branch := "main"
    files := ⟨[("/reeds/east/OWNERS", some "ann@pond\n".toUTF8.toList)]⟩ }).2

def pondRequest (folder : String) (fileName : Option String) : Request where
  tree := pond.tree
  backend := { id := "find-owners", format := .lines, fileName := "OWNERS" }
  key := { project := "pond", branch := "main", folder, fileName }
  revision := ((pond.head? "pond" "main").getD "")

/-- The key of the configuration that a request gets after others. -/
def keyAfter (requests : List Request) (request : Request) : Option ConfigKey :=
  ((request.load.run (sessionAfter requests)).1.toOption.bind id).map OwnerConfig.key

theorem pond_key_of_first_reader :
    ∃ config, ((pondRequest "/reeds/east" none).load.run
        (sessionAfter [pondRequest "/reeds/east" none, pondRequest "/reeds" none])).1 =
          .ok (some config) ∧
      config.key = (pondRequest "/reeds/east" none).key := by
  have hfound : ((pondRequest "/reeds/east" none).load.run
      (sessionAfter [pondRequest "/reeds/east" none, pondRequest "/reeds" none])).1.toOption.any
        Option.isSome = true := by decide +kernel
  rcases (Option.any_eq_true _ _).mp hfound with ⟨found, houtcome, hsome⟩
  rcases Option.isSome_iff_exists.mp hsome with ⟨config, rfl⟩
  have hload := Walk.eq_ok_of_toOption houtcome
  refine ⟨config, hload, (key_of_first_reader hload).2.2.2 ?_⟩
  decide +kernel

/-- The file of a folder is asked for without its name, with it, and with a name that spans two
folders.  Only the first answer has the key of its request. -/
theorem pond_answers_with_first_key :
    keyAfter [] (pondRequest "/reeds/east" none) = some (pondRequest "/reeds/east" none).key ∧
      keyAfter [pondRequest "/reeds/east" none] (pondRequest "/reeds/east" "OWNERS") =
        some (pondRequest "/reeds/east" none).key ∧
      keyAfter [pondRequest "/reeds/east" none, pondRequest "/reeds/east" "OWNERS"]
          (pondRequest "/reeds" "east/OWNERS") =
        some (pondRequest "/reeds/east" none).key ∧
      (pondRequest "/reeds/east" none).key ≠ (pondRequest "/reeds/east" "OWNERS").key ∧
      (pondRequest "/reeds/east" none).key.folder ≠
        (pondRequest "/reeds" "east/OWNERS").key.folder := by
  decide +kernel

end Loader
end Ownership
