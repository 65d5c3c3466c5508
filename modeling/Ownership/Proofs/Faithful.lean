import Ownership.Proofs.Recall
import Ownership.Proofs.Text.Pieces
import Ownership.Site

/-!
# Faithful sessions

A session is faithful to a site if all that it remembers can be read from the tree of the site.  Two
faithful sessions may still differ in what they remember of a file.  The default file of a folder
can be asked for with its name or without it, and the remembered configuration carries the name that
the file was first asked for with.  This is the only trace of the walks before, and nothing that is
found depends on it.
-/

namespace Ownership

variable {α β γ δ : Type} {site site' : Site} {tree : Tree} {s t : Session}

/-!
# Configurations up to the names of their files
-/

namespace ConfigKey

variable {key other : ConfigKey} {defaultFileName : String}

def unnamed (key : ConfigKey) : ConfigKey := { key with fileName := none }

def lookupName (key : ConfigKey) (defaultFileName : String) : String :=
  (Text.nonempty? key.fileName).getD defaultFileName

/-- The folder and the name of the file can be told from its path. -/
structure IsPlain (key : ConfigKey) (defaultFileName : String) : Prop where
  folder : key.folder ≠ ""
  name : '/' ∉ (key.lookupName defaultFileName).toList

theorem toList_filePath (key : ConfigKey) (defaultFileName : String) :
    (key.filePath defaultFileName).toList =
      (if key.folder = "/" then [] else key.folder.toList) ++
        '/' :: (key.lookupName defaultFileName).toList := by
  unfold filePath lookupName
  dsimp only
  split
  · rw [String.toList_append]
    rfl
  · rw [String.toList_append, String.toList_append, List.append_assoc]
    rfl

theorem IsPlain.cutAt? (h : key.IsPlain defaultFileName) :
    Text.cutAt? '/' (key.filePath defaultFileName).toList.reverse =
      some ((key.lookupName defaultFileName).toList.reverse,
        (if key.folder = "/" then [] else key.folder.toList).reverse) := by
  rw [toList_filePath, List.reverse_append, List.reverse_cons, List.append_assoc,
    List.singleton_append, Text.cutAt?_append]
  exact fun hmem => h.name (List.mem_reverse.mp hmem)

theorem folder_of_filePath (h : key.IsPlain defaultFileName) (hother : other.IsPlain defaultFileName)
    (heq : key.filePath defaultFileName = other.filePath defaultFileName) :
    key.folder = other.folder := by
  have hcut := h.cutAt?
  rw [heq, hother.cutAt?, Option.some.injEq, Prod.mk.injEq, List.reverse_inj,
    List.reverse_inj] at hcut
  have hfolder := hcut.2
  by_cases hroot : key.folder = "/" <;> by_cases hroot' : other.folder = "/"
  · rw [hroot, hroot']
  · rw [if_pos hroot, if_neg hroot'] at hfolder
    exact absurd (String.toList_eq_nil_iff.mp hfolder) hother.folder
  · rw [if_neg hroot, if_pos hroot'] at hfolder
    exact absurd (String.toList_eq_nil_iff.mp hfolder.symm) h.folder
  · rw [if_neg hroot, if_neg hroot'] at hfolder
    exact (String.toList_inj.mp hfolder).symm

end ConfigKey

def OwnerConfig.unnamed (config : OwnerConfig) : OwnerConfig :=
  { config with key := config.key.unnamed }

section

variable {config other : OwnerConfig} (h : config.unnamed = other.unnamed)
include h

theorem OwnerConfig.key_of_unnamed : config.key.unnamed = other.key.unnamed := by
  have hkey := congrArg OwnerConfig.key h
  exact hkey

theorem OwnerConfig.project_of_unnamed : config.key.project = other.key.project := by
  have hproject := congrArg ConfigKey.project (OwnerConfig.key_of_unnamed h)
  exact hproject

theorem OwnerConfig.folder_of_unnamed : config.key.folder = other.key.folder := by
  have hfolder := congrArg ConfigKey.folder (OwnerConfig.key_of_unnamed h)
  exact hfolder

theorem OwnerConfig.imports_of_unnamed : config.imports = other.imports := by
  have himports := congrArg OwnerConfig.imports h
  exact himports

theorem OwnerConfig.sets_of_unnamed : config.sets = other.sets := by
  have hsets := congrArg OwnerConfig.sets h
  exact hsets

theorem OwnerConfig.ignoresParents_of_unnamed : config.ignoresParents = other.ignoresParents := by
  have hflag := congrArg OwnerConfig.ignoresParents h
  exact hflag

end

def Reading.unnamed (reading : Reading) : Reading := reading.map (Option.map OwnerConfig.unnamed)

theorem Reading.config?_unnamed (reading : Reading) :
    Reading.config? reading.unnamed = (Reading.config? reading).map OwnerConfig.unnamed := by
  cases reading <;> rfl

theorem Loader.readContent_unnamed {backend : Backend} {key other : ConfigKey}
    (hkey : key.unnamed = other.unnamed)
    (hpath : key.filePath backend.fileName = other.filePath backend.fileName) (content : Content) :
    (readContent backend key content).unnamed = (readContent backend other content).unnamed := by
  rcases key with ⟨project, branch, folder, fileName⟩
  rcases other with ⟨project', branch', folder', fileName'⟩
  cases hkey
  unfold readContent
  dsimp only
  rw [hpath]
  cases Text.Utf8.decode content with
  | error defect => rfl
  | ok text =>
      cases backend.format with
      | lines => rfl
      | blocks =>
          unfold Format.read BlockFormat.read
          dsimp only [bind, Except.bind]
          cases (BlockFormat.tokens text).mapError BlockFormat.BlockError.token with
          | error defect => rfl
          | ok tokens =>
              dsimp only
              cases BlockFormat.readFields tokens <;> rfl

theorem Loader.readFresh_unnamed {backend : Backend} {key other : ConfigKey}
    {revision revision' : String} (h : key.IsPlain backend.fileName)
    (hother : other.IsPlain backend.fileName)
    (hplace : cacheKey backend key revision = cacheKey backend other revision') (tree : Tree) :
    (readFresh tree backend key revision).map Reading.unnamed =
      (readFresh tree backend other revision').map Reading.unnamed := by
  unfold cacheKey at hplace
  injection hplace with hproject hbranch hrevision hpath _
  have hkey : key.unnamed = other.unnamed := by
    unfold ConfigKey.unnamed
    rw [hproject, hbranch, ConfigKey.folder_of_filePath h hother hpath]
  unfold readFresh
  rw [hproject, hrevision, hpath]
  cases tree.contentOf other.project revision' (other.filePath backend.fileName) with
  | error failure => rfl
  | ok content =>
      cases content with
      | none => rfl
      | some content => exact congrArg Except.ok (readContent_unnamed hkey hpath content)

/-!
# What a site looks up

Every file is looked up in the format of its branch.
-/

namespace Site

structure LooksUp (site : Site) (backend : Backend) (key : ConfigKey) : Prop where
  backend_eq : site.backendFor key.project key.branch = .ok backend
  plain : key.IsPlain backend.fileName

theorem LooksUp.readFresh_unnamed {backend backend' : Backend} {key key' : ConfigKey}
    {revision revision' : String} (h : site.LooksUp backend key) (h' : site.LooksUp backend' key')
    (hplace : Loader.cacheKey backend key revision = Loader.cacheKey backend' key' revision')
    (tree : Tree) :
    (Loader.readFresh tree backend key revision).map Reading.unnamed =
      (Loader.readFresh tree backend' key' revision').map Reading.unnamed := by
  have hproject : key.project = key'.project := congrArg CacheKey.project hplace
  have hbranch : key.branch = key'.branch := congrArg CacheKey.branch hplace
  have hbackend := h.backend_eq
  rw [hproject, hbranch, h'.backend_eq] at hbackend
  cases hbackend
  exact Loader.readFresh_unnamed h.plain h'.plain hplace tree

end Site

/-!
# Faithful memory
-/

namespace Session

def Faithful (site : Site) (s : Session) : Prop :=
  ∀ place reading, s.cache.get? place = some reading → ∃ backend key revision,
    site.LooksUp backend key ∧ Loader.cacheKey backend key revision = place ∧
      Loader.readFresh site.tree backend key revision = .ok reading

theorem faithful_empty (site : Site) : ({} : Session).Faithful site := holdsOnly_empty _

theorem Faithful.congr (h : s.Faithful site) (hcache : t.cache = s.cache) : t.Faithful site := by
  unfold Faithful at h ⊢
  exact HoldsOnly.congr h hcache

theorem Faithful.put {backend : Backend} {key : ConfigKey} {revision : String} {reading : Reading}
    (h : s.Faithful site) (hlooks : site.LooksUp backend key)
    (hread : Loader.readFresh site.tree backend key revision = .ok reading)
    (hcache : t.cache = s.cache.put (Loader.cacheKey backend key revision) reading) :
    t.Faithful site := by
  unfold Faithful at h ⊢
  exact HoldsOnly.put h ⟨backend, key, revision, hlooks, rfl, hread⟩ hcache

end Session

/-!
# Loading in a faithful session
-/

inductive Alike (R : α → β → Prop) : Except Failure α → Except Failure β → Prop
  | failed (failure : Failure) : Alike R (.error failure) (.error failure)
  | done {a : α} {b : β} : R a b → Alike R (.ok a) (.ok b)

/-- The configurations are the same up to the names of their files; a broken file has none. -/
def SameConfig (found other : Option OwnerConfig) : Prop :=
  found.map OwnerConfig.unnamed = other.map OwnerConfig.unnamed

def Reading.Same (reading other : Reading) : Prop :=
  SameConfig (Reading.config? reading) (Reading.config? other)

theorem Alike.refl {R : α → α → Prop} (h : ∀ a, R a a) (result : Except Failure α) :
    Alike R result result := by
  cases result with
  | error failure => exact .failed failure
  | ok a => exact .done (h a)

theorem Alike.eq {result other : Except Failure α} (h : Alike Eq result other) : result = other := by
  cases h with
  | failed failure => rfl
  | done hsame => rw [hsame]

theorem alike_of_unnamed {reading other : Except Failure Reading}
    (h : reading.map Reading.unnamed = other.map Reading.unnamed) :
    Alike Reading.Same reading other := by
  cases reading with
  | error failure =>
      cases other with
      | error failure' =>
          cases h
          exact .failed failure
      | ok found => cases h
  | ok found =>
      cases other with
      | error failure => cases h
      | ok found' =>
          refine .done ?_
          have hsame := Except.ok.inj h
          unfold Reading.Same SameConfig
          rw [← Reading.config?_unnamed, ← Reading.config?_unnamed, hsame]

theorem Alike.trans {R : α → β → Prop} {S : β → γ → Prop} {T : α → γ → Prop}
    {x : Except Failure α} {y : Except Failure β} {z : Except Failure γ}
    (hxy : Alike R x y) (hyz : Alike S y z) (h : ∀ a b c, R a b → S b c → T a c) : Alike T x z := by
  cases hxy with
  | failed failure =>
      cases hyz
      exact .failed failure
  | done hab =>
      cases hyz with
      | done hbc => exact .done (h _ _ _ hab hbc)

namespace Loader

variable {backend : Backend} {key : ConfigKey}

theorem loadOrSkip_of_faithful (hs : s.Faithful site) (hlooks : site.LooksUp backend key)
    (revision : String) :
    ((loadOrSkip site.tree backend key revision).run s).2.Faithful site ∧
      Alike (fun found reading => SameConfig found (Reading.config? reading))
        ((loadOrSkip site.tree backend key revision).run s).1
        (readFresh site.tree backend key revision) := by
  rcases hrun : (loadOrSkip site.tree backend key revision).run s with ⟨outcome, t⟩
  cases loading_of_run hrun with
  | remembered hknown hcache =>
      rcases hs _ _ hknown with ⟨backend', key', revision', hlooks', hplace, hread⟩
      refine ⟨hs.congr hcache, ?_⟩
      -- the file was perhaps read for another key, and then it reads alike
      have hsame := alike_of_unnamed (hlooks'.readFresh_unnamed hlooks hplace site.tree)
      rw [hread] at hsame
      revert hsame
      generalize readFresh site.tree backend key revision = fresh
      intro hsame
      cases hsame with
      | done hreadings => exact .done hreadings
  | read hnew hread hcache =>
      refine ⟨hs.put hlooks hread hcache, ?_⟩
      rw [hread]
      exact .done rfl
  | unreadable hnew hread hcache =>
      refine ⟨hs.congr hcache, ?_⟩
      rw [hread]
      exact .failed _

end Loader

/-!
# Two sites that read alike

A file that is broken in one site may be missing in the other.
-/

namespace Site

structure ReadsLike (site site' : Site) : Prop where
  configs : site'.configs = site.configs
  registry : site'.registry = site.registry
  heads : ∀ project branch,
    site'.tree.branchHead project branch = site.tree.branchHead project branch
  readings : ∀ backend key revision, site.LooksUp backend key →
    Alike Reading.Same (Loader.readFresh site.tree backend key revision)
      (Loader.readFresh site'.tree backend key revision)

theorem ReadsLike.refl (site : Site) : site.ReadsLike site where
  configs := rfl
  registry := rfl
  heads _ _ := rfl
  readings _ _ _ _ := .refl (R := Reading.Same) (fun _ => rfl) _

theorem ReadsLike.backendFor (h : site.ReadsLike site') (project branch : String) :
    site'.backendFor project branch = site.backendFor project branch := by
  unfold Site.backendFor
  rw [h.configs, h.registry]

theorem ReadsLike.configFileName (h : site.ReadsLike site') (project branch : String) :
    site'.configFileName project branch = site.configFileName project branch := by
  unfold Site.configFileName
  rw [h.backendFor, h.configs]

theorem ReadsLike.looksUp (h : site.ReadsLike site') {backend : Backend} {key : ConfigKey}
    (hlooks : site.LooksUp backend key) : site'.LooksUp backend key := by
  refine ⟨?_, hlooks.plain⟩
  rw [h.backendFor]
  exact hlooks.backend_eq

end Site

/-!
# Agreement

Two walks agree if they come to related results from all faithful sessions, or fail in the same way.
-/

namespace Walk

def Agrees (site site' : Site) (R : α → β → Prop) (x : Walk α) (y : Walk β) : Prop :=
  ∀ s t, s.Faithful site → t.Faithful site' →
    (x.run s).2.Faithful site ∧ (y.run t).2.Faithful site' ∧ Alike R (x.run s).1 (y.run t).1

variable {R : α → β → Prop} {x : Walk α} {y : Walk β}

theorem agrees_pure {a : α} {b : β} (h : R a b) : Agrees site site' R (pure a) (pure b) :=
  fun _ _ hs ht => ⟨hs, ht, .done h⟩

theorem agrees_liftExcept {result : Except Failure α} {other : Except Failure β}
    (h : Alike R result other) : Agrees site site' R (liftExcept result) (liftExcept other) := by
  intro s t hs ht
  rw [run_liftExcept, run_liftExcept]
  exact ⟨hs, ht, h⟩

theorem Agrees.bind {S : γ → δ → Prop} {f : α → Walk γ} {g : β → Walk δ}
    (hx : Agrees site site' R x y) (hf : ∀ a b, R a b → Agrees site site' S (f a) (g b)) :
    Agrees site site' S (x >>= f) (y >>= g) := by
  intro s t hs ht
  rcases hx s t hs ht with ⟨hs', ht', halike⟩
  rcases hrun : x.run s with ⟨outcome, s'⟩
  rcases hrun' : y.run t with ⟨outcome', t'⟩
  rw [hrun, hrun'] at halike
  rw [hrun] at hs'
  rw [hrun'] at ht'
  cases halike with
  | failed failure =>
      rw [run_bind_of_error hrun, run_bind_of_error hrun']
      exact ⟨hs', ht', .failed failure⟩
  | done hab =>
      rw [run_bind_of_ok hrun, run_bind_of_ok hrun']
      exact hf _ _ hab s' t' hs' ht'

theorem agrees_lift_bind {S : γ → δ → Prop} {result : Except Failure α} {f : α → Walk γ}
    {g : α → Walk δ} (hf : ∀ a, result = .ok a → Agrees site site' S (f a) (g a)) :
    Agrees site site' S (liftExcept result >>= f) (liftExcept result >>= g) := by
  cases result with
  | error failure => exact agrees_liftExcept (.failed failure)
  | ok a => exact hf a rfl

theorem Agrees.map {S : γ → δ → Prop} {f : α → γ} {g : β → δ} (hx : Agrees site site' R x y)
    (h : ∀ a b, R a b → S (f a) (g b)) : Agrees site site' S (f <$> x) (g <$> y) := by
  rw [← bind_pure_comp, ← bind_pure_comp]
  exact hx.bind fun a b hab => agrees_pure (h a b hab)

theorem agrees_mapM {f g : α → Walk β} (h : ∀ a, Agrees site site' Eq (f a) (g a))
    (xs : List α) : Agrees site site' Eq (xs.mapM f) (xs.mapM g) := by
  induction xs with
  | nil => exact agrees_pure rfl
  | cons x rest ih =>
      rw [List.mapM_cons, List.mapM_cons]
      apply (h x).bind
      rintro b _ rfl
      apply ih.bind
      rintro bs _ rfl
      exact agrees_pure rfl

/-- What one faithful session recalls, every other one finds. -/
theorem Agrees.outcome_of_recalls {walk : Walk α} (h : Agrees site site Eq walk walk) {a : α}
    {outcome : Except Failure α} {t' : Session} (hs : s.Faithful site) (ht : t.Faithful site)
    (hrecalls : Recalls walk s a) (hrun : walk.run t = (outcome, t')) : outcome = .ok a := by
  rcases hrecalls with ⟨s', hrecalled, _⟩
  have halike := (h t s ht hs).2.2
  rw [hrun, hrecalled] at halike
  exact halike.eq

theorem agrees_loadOrSkip (hlike : site.ReadsLike site') {backend : Backend} {key : ConfigKey}
    (hlooks : site.LooksUp backend key) (revision : String) :
    Agrees site site' SameConfig (Loader.loadOrSkip site.tree backend key revision)
      (Loader.loadOrSkip site'.tree backend key revision) := by
  intro s t hs ht
  rcases Loader.loadOrSkip_of_faithful hs hlooks revision with ⟨hs', hfound⟩
  rcases Loader.loadOrSkip_of_faithful ht (hlike.looksUp hlooks) revision with
    ⟨ht', hfound'⟩
  refine ⟨hs', ht', ?_⟩
  have hreadings := hlike.readings backend key revision hlooks
  have hfirst := hfound.trans hreadings (T := fun found reading =>
    SameConfig found (Reading.config? reading)) fun _ _ _ hab hbc => hab.trans hbc
  revert hfirst hfound'
  generalize ((Loader.loadOrSkip site.tree backend key revision).run s).1 = found
  generalize ((Loader.loadOrSkip site'.tree backend key revision).run t).1 = found'
  generalize Loader.readFresh site'.tree backend key revision = reading
  intro hfound' hfirst
  cases hfirst with
  | failed failure =>
      cases hfound'
      exact .failed failure
  | done hab =>
      cases hfound' with
      | done hcb => exact .done (hab.trans hcb.symm)

/-!
# Success

Some walks come to an end whatever a faithful session remembers.
-/

def Succeeds (site : Site) (Q : α → Prop) (x : Walk α) : Prop :=
  ∀ s, s.Faithful site → ∃ a t, x.run s = (.ok a, t) ∧ t.Faithful site ∧ Q a

variable {Q : α → Prop} {P : γ → Prop}

theorem succeeds_pure {a : α} (h : Q a) : Succeeds site Q (pure a) :=
  fun s hs => ⟨a, s, rfl, hs, h⟩

theorem succeeds_lift_bind {result : Except Failure α} {a : α} {f : α → Walk γ}
    (hresult : result = .ok a) (hf : Succeeds site P (f a)) :
    Succeeds site P (liftExcept result >>= f) := by
  rw [hresult]
  exact hf

theorem Succeeds.bind {f : α → Walk γ} (hx : Succeeds site Q x)
    (hf : ∀ a, Q a → Succeeds site P (f a)) : Succeeds site P (x >>= f) := by
  intro s hs
  rcases hx s hs with ⟨a, t, hrun, ht, ha⟩
  rw [run_bind_of_ok hrun]
  exact hf a ha t ht

theorem succeeds_loadOrSkip {backend : Backend} {key : ConfigKey} {revision : String}
    {reading : Reading} (hlooks : site.LooksUp backend key)
    (hread : Loader.readFresh site.tree backend key revision = .ok reading) :
    Succeeds site (fun found => SameConfig found (Reading.config? reading))
      (Loader.loadOrSkip site.tree backend key revision) := by
  intro s hs
  rcases hrun : (Loader.loadOrSkip site.tree backend key revision).run s with ⟨outcome, t⟩
  have hfound := Loader.loadOrSkip_of_faithful hs hlooks revision
  rw [hrun, hread] at hfound
  rcases hfound with ⟨ht, halike⟩
  cases halike with
  | done hsame => exact ⟨_, t, rfl, ht, hsame⟩

end Walk
end Ownership
