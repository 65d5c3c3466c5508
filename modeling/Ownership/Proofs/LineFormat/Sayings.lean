import Mathlib.Data.List.Induction
import Ownership.Proofs.LineFormat.Forms
import Ownership.Proofs.LineFormat.Rereading

/-!
# What the lines say

Every line says something of its own, whatever was gathered before it: the flag or not, an import or
none, some sets of owners, and some complaints about itself.  Reading a text puts the sets of all
its lines into the tables, keeps each import once, and notes the complaints in the order of the
lines.
-/

namespace Ownership
namespace LineFormat

variable {folder text : String} {raw pattern right : List Char} {number : Nat}
  {globs emails : List String} {remarks : List Remark} {gathered : Gathered}
  {sets : List OwnerSet} {imports : List Import}

/-!
# One line
-/

def saysNoParent (raw : List Char) : Bool :=
  match readStatement (content raw).1 with
  | .noParent => true
  | _ => false

def saidImport? (folder : String) (raw : List Char) : Option Import :=
  match readStatement (content raw).1 with
  | .importing scope target => (readTarget folder scope target).toOption
  | _ => none

def perFileSets (remarks : List Remark) (pattern right : List Char) : List OwnerSet :=
  let row := namedRow pattern
  if row.isEmpty || row.any fun glob => !Glob.isValid glob then []
  else if right = noParentWords.toList then [{ globs := row, overrides := true }]
  else
    { globs := row } ::
      ((commaPieces right).filter isOwner).map fun email => single row { email, remarks }

/-- The sets of a line; each of them is for all files or for one row of path expressions. -/
def saidSets (raw : List Char) : List OwnerSet :=
  match readStatement (content raw).1 with
  | .perFile pattern right => perFileSets (content raw).2 pattern right
  | .owner email => [single [] { email := String.ofList email, remarks := (content raw).2 }]
  | _ => []

def perFileComplaints (pattern right : List Char) : List SkipReason :=
  let row := namedRow pattern
  if row.isEmpty then [.noGlobs]
  else
    match row.find? fun glob => !Glob.isValid glob with
    | some glob => [.invalidGlob glob]
    | none =>
        if right = noParentWords.toList then []
        else ((commaPieces right).filter fun email => !isOwner email).map .invalidEmail

def complaints (folder : String) (raw : List Char) : List SkipReason :=
  match readStatement (content raw).1 with
  | .importing scope target =>
      match readTarget folder scope target with
      | .error reason => [reason]
      | .ok _ => []
  | .perFile pattern right => perFileComplaints pattern right
  | .unrecognized => [.unrecognized]
  | _ => []

def noteOf (raw : List Char) (number : Nat) (reason : SkipReason) : Skipped :=
  { line := number, reason, text := String.ofList raw }

def joinImport (imports : List Import) : Option Import → List Import
  | none => imports
  | some imp => if imp ∈ imports then imports else imports ++ [imp]

theorem saidImport?_iff {imp : Import} : saidImport? folder raw = some imp ↔
    ∃ scope target, ImportForm (content raw).1 scope target ∧
      readTarget folder scope target = .ok imp := by
  simp only [← readStatement_importing_iff]
  unfold saidImport?
  cases readStatement (content raw).1 with
  | importing scope target =>
      dsimp only
      cases hread : readTarget folder scope target with
      | error reason => simp [Except.toOption, hread]
      | ok found => simp [Except.toOption, hread]
  | _ => simp

/-!
# Beside the tables
-/

/-- The same tables with another flag, other imports and other notes beside them. -/
def Gathered.beside (gathered : Gathered) (ignoresParents : Bool) (imports : List Import)
    (skipped : List Skipped) : Gathered :=
  { gathered with ignoresParents, imports, skipped }

theorem beside_self :
    gathered.beside gathered.ignoresParents gathered.imports gathered.skipped = gathered := rfl

theorem put_beside {ignoresParents : Bool} {skipped : List Skipped} {set : OwnerSet} :
    (gathered.beside ignoresParents imports skipped).put set =
      (gathered.put set).beside ignoresParents imports skipped := by
  unfold Gathered.put
  split
  · rfl
  · rfl

theorem putAll_beside {ignoresParents : Bool} {skipped : List Skipped} :
    sets.foldl Gathered.put (gathered.beside ignoresParents imports skipped) =
      (sets.foldl Gathered.put gathered).beside ignoresParents imports skipped := by
  induction sets generalizing gathered with
  | nil => rfl
  | cons set sets ih => rw [List.foldl_cons, List.foldl_cons, put_beside, ih]

theorem putAll_eq_beside (sets : List OwnerSet) (gathered : Gathered) :
    sets.foldl Gathered.put gathered = (sets.foldl Gathered.put gathered).beside
      gathered.ignoresParents gathered.imports gathered.skipped := by
  rw [← putAll_beside, beside_self]

/-!
# Statements for some files
-/

theorem addBlockOwners_eq (hne : globs ≠ []) :
    gathered.addBlockOwners number (String.ofList raw) globs remarks emails =
      (((emails.filter isOwner).map fun email => single globs { email, remarks }).foldl
        Gathered.put gathered).beside gathered.ignoresParents gathered.imports
          (gathered.skipped ++ ((emails.filter fun email => !isOwner email).map
            SkipReason.invalidEmail).map (noteOf raw number)) := by
  induction emails generalizing gathered with
  | nil => simp [Gathered.addBlockOwners, beside_self]
  | cons email emails ih =>
      by_cases howner : isOwner email = true
      · have hstep : gathered.addBlockOwners number (String.ofList raw) globs remarks
            (email :: emails) = (gathered.put (single globs { email, remarks })).addBlockOwners
              number (String.ofList raw) globs remarks emails := by
          unfold Gathered.addBlockOwners
          rw [List.foldl_cons, howner, if_pos rfl, put_row hne]
          unfold single
          dsimp only
          rw [Bool.or_false]
          rfl
        rw [hstep, ih, List.filter_cons_of_pos howner, List.filter_cons_of_neg (by simp [howner]),
          put_ignoresParents, put_imports, put_skipped]
        rfl
      · have hstep : gathered.addBlockOwners number (String.ofList raw) globs remarks
            (email :: emails) = (gathered.skip number (String.ofList raw)
              (.invalidEmail email)).addBlockOwners number (String.ofList raw) globs remarks
                emails := by
          unfold Gathered.addBlockOwners
          rw [List.foldl_cons, if_neg howner]
        have hskip : gathered.skip number (String.ofList raw) (.invalidEmail email) =
            gathered.beside gathered.ignoresParents gathered.imports
              (gathered.skipped ++ [noteOf raw number (.invalidEmail email)]) := rfl
        rw [hstep, ih, List.filter_cons_of_neg howner, List.filter_cons_of_pos (by simp [howner]),
          hskip, putAll_beside]
        simp [Gathered.beside]

theorem addPerFile_eq : gathered.addPerFile number (String.ofList raw) remarks pattern right =
    ((perFileSets remarks pattern right).foldl Gathered.put gathered).beside
      gathered.ignoresParents gathered.imports
        (gathered.skipped ++ (perFileComplaints pattern right).map (noteOf raw number)) := by
  by_cases hempty : namedRow pattern = []
  · have hletters : Text.sortedDistinct
        ((commaPieces pattern).filter fun glob => !glob.isEmpty) = [] := hempty
    unfold Gathered.addPerFile perFileSets perFileComplaints
    rw [hletters, hempty]
    rfl
  · have hsome : (namedRow pattern).isEmpty = false := List.isEmpty_eq_false_iff.mpr hempty
    cases hfind : (namedRow pattern).find? fun glob => !Glob.isValid glob with
    | some glob =>
        have hinvalid : (!Glob.isValid glob) = true := by
          simpa using List.find?_some hfind
        have hany : ((namedRow pattern).any fun glob => !Glob.isValid glob) = true :=
          List.any_eq_true.mpr ⟨glob, List.mem_of_find?_eq_some hfind, hinvalid⟩
        have hletters : (Text.sortedDistinct ((commaPieces pattern).filter fun glob =>
            !glob.isEmpty)).isEmpty = false := hsome
        have hglob : (Text.sortedDistinct ((commaPieces pattern).filter fun glob =>
            !glob.isEmpty)).find? (fun glob => !Glob.isValid glob) = some glob := hfind
        unfold Gathered.addPerFile perFileSets perFileComplaints
        dsimp only
        rw [hletters, hglob, hsome, hany, hfind]
        rfl
    | none =>
        have hvalid : ∀ glob ∈ namedRow pattern, Glob.isValid glob = true := by
          intro glob hglob
          simpa using List.find?_eq_none.mp hfind glob hglob
        have hany : ((namedRow pattern).any fun glob => !Glob.isValid glob) = false := by
          rw [List.any_eq_false]
          intro glob hglob
          simp [hvalid glob hglob]
        rw [addPerFile_of_row rfl hempty hvalid]
        unfold perFileSets perFileComplaints
        dsimp only
        rw [hsome, hany, hfind]
        split
        · change _ = ([{ globs := namedRow pattern, overrides := true }].foldl Gathered.put
            gathered).beside gathered.ignoresParents gathered.imports (gathered.skipped ++ [])
          rw [List.append_nil, ← putAll_eq_beside]
          rfl
        · refine (addBlockOwners_eq hempty).trans ?_
          rw [put_ignoresParents, put_imports, put_skipped]
          rfl

/-!
# One line more
-/

theorem addLine_eq : Gathered.addLine folder gathered (raw, number) =
    ((saidSets raw).foldl Gathered.put gathered).beside
      (gathered.ignoresParents || saysNoParent raw)
      (joinImport gathered.imports (saidImport? folder raw))
      (gathered.skipped ++ (complaints folder raw).map (noteOf raw number)) := by
  unfold Gathered.addLine saidSets saysNoParent saidImport? complaints
  dsimp only
  cases readStatement (content raw).1 with
  | nothing => simp [joinImport, beside_self]
  | noParent => simp [joinImport, Gathered.beside]
  | importing scope target =>
      dsimp only
      cases readTarget folder scope target with
      | error reason => simp [joinImport, Gathered.beside, Gathered.skip, noteOf, Except.toOption]
      | ok imp =>
          simp only [joinImport, Except.toOption]
          split
          · simp [Gathered.beside]
          · simp [Gathered.beside]
  | perFile pattern right =>
      dsimp only
      rw [addPerFile_eq, Bool.or_false]
      rfl
  | owner email =>
      simp only [List.foldl_cons, List.foldl_nil]
      rw [put_global rfl]
      simp [joinImport, Gathered.beside, single, joinOwners]
  | unrecognized => simp [joinImport, Gathered.beside, Gathered.skip, noteOf]

/-!
# Whole texts
-/

theorem joinImport_eraseDups (said : List Import) (imp? : Option Import) :
    joinImport said.eraseDups imp? = (said ++ imp?.toList).eraseDups := by
  cases imp? with
  | none => simp [joinImport]
  | some imp =>
      rw [Option.toList_some, Text.eraseDups_append_singleton]
      simp [joinImport]

/-- What reading gathers from a text: the sets of its lines put into the tables, the flag, the imports
each once, and the complaints line by line. -/
theorem gather_eq (folder : String) (text : List Char) :
    gather folder text = (((Text.splitLines text).flatMap saidSets).foldl Gathered.put {}).beside
      ((Text.splitLines text).any saysNoParent)
      ((Text.splitLines text).filterMap (saidImport? folder)).eraseDups
      (((Text.splitLines text).zipIdx 1).flatMap fun line =>
        (complaints folder line.1).map (noteOf line.1 line.2)) := by
  unfold gather
  induction Text.splitLines text using List.reverseRecOn with
  | nil => rfl
  | append_singleton lines raw ih =>
      have himport : [raw].filterMap (saidImport? folder) = (saidImport? folder raw).toList := by
        rw [List.filterMap_cons]
        cases saidImport? folder raw with
        | none => rfl
        | some imp => rfl
      rw [List.zipIdx_append, List.foldl_append, ih, List.flatMap_append, List.foldl_append,
        List.any_append, List.filterMap_append, List.flatMap_append, himport,
        ← joinImport_eraseDups]
      change Gathered.addLine folder _ (raw, 1 + lines.length) = _
      rw [addLine_eq, putAll_beside]
      simp [Gathered.beside]

end LineFormat
end Ownership
