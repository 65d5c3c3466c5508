import Ownership.Proofs.LineFormat.Gathering

/-!
# Reading written lines

A written line puts one set into the tables, and a run of written lines puts in the sets of its lines.
So reading what was written for gathered tables gathers the same sets, wherever the lines stand.
-/

namespace Ownership
namespace LineFormat

variable {folder : String} {line : String} {lines more : List String} {sets others : List OwnerSet}
  {set : OwnerSet} {gathered : Gathered} {number : Nat} {globs emails : List String}
  {remarks : List Remark} {refs : List OwnerRef} {ref : OwnerRef} {email right : String} {c : Char}

/-!
# Lines that put sets in
-/

def OnOneLine (line : String) : Prop := ∀ c ∈ line.toList, Text.isLineBoundary c = false

/-- Reading the lines puts the sets into the tables, whatever was gathered before. -/
structure Says (folder : String) (lines : List String) (sets : List OwnerSet) : Prop where
  apart : ∀ line ∈ lines, OnOneLine line
  puts : ∀ (gathered : Gathered) (number : Nat),
    ((lines.map String.toList).zipIdx number).foldl (Gathered.addLine folder) gathered =
      sets.foldl Gathered.put gathered

theorem says_nil (folder : String) : Says folder [] [] where
  apart line hline := by cases hline
  puts _ _ := rfl

theorem Says.append (h : Says folder lines sets) (hmore : Says folder more others) :
    Says folder (lines ++ more) (sets ++ others) where
  apart line hline := by
    rcases List.mem_append.mp hline with hmem | hmem
    · exact h.apart line hmem
    · exact hmore.apart line hmem
  puts gathered number := by
    rw [List.map_append, List.zipIdx_append, List.foldl_append, List.foldl_append, h.puts,
      hmore.puts]

theorem says_flatMap {α : Type} {write : α → List String} {mean : α → List OwnerSet} {row : List α}
    (h : ∀ a ∈ row, Says folder (write a) (mean a)) :
    Says folder (row.flatMap write) (row.flatMap mean) := by
  induction row with
  | nil => exact says_nil folder
  | cons a row ih =>
      rw [List.flatMap_cons, List.flatMap_cons]
      apply (h a List.mem_cons_self).append
      apply ih
      intro b hb
      exact h b (List.mem_cons_of_mem a hb)

theorem says_line (hplain : OnOneLine line)
    (hadd : ∀ gathered number,
      Gathered.addLine folder gathered (line.toList, number) = gathered.put set) :
    Says folder [line] [set] where
  apart other hother := by
    rw [List.mem_singleton.mp hother]
    exact hplain
  puts gathered number := hadd gathered number

/-- Sets for the same files are put in as the first of them, which takes in the others. -/
theorem putAll_together (h : ∀ other ∈ others, other.globs = set.globs) :
    others.foldl Gathered.put (gathered.put set) =
      gathered.put
        { set with
          owners := set.owners ++ others.flatMap OwnerSet.owners
          overrides := set.overrides || others.any OwnerSet.overrides } := by
  induction others generalizing set with
  | nil => simp
  | cons other others ih =>
      have hglobs : ∀ later ∈ others, later.globs = (together set other).globs :=
        fun later hlater => h later (List.mem_cons_of_mem other hlater)
      rw [List.foldl_cons, put_put (h other List.mem_cons_self), ih hglobs]
      simp [together, Bool.or_assoc]

theorem Says.together (h : Says folder lines sets) (hne : sets ≠ [])
    (hglobs : ∀ set ∈ sets, set.globs = globs) :
    Says folder lines
      [{ globs, owners := sets.flatMap OwnerSet.owners,
         overrides := sets.any OwnerSet.overrides }] where
  apart := h.apart
  puts gathered number := by
    cases sets with
    | nil => exact absurd rfl hne
    | cons first others =>
        have hfirst : first.globs = globs := hglobs first List.mem_cons_self
        have hothers : ∀ other ∈ others, other.globs = first.globs := by
          intro other hother
          rw [hglobs other (List.mem_cons_of_mem first hother), hfirst]
        rw [h.puts, List.foldl_cons, putAll_together hothers, hfirst]
        rfl

/-!
# What stands in a line
-/

theorem onOneLine_of_no_blank (h : ∀ c ∈ line.toList, Text.isBlank c = false) : OnOneLine line :=
  fun c hc => Text.not_isLineBoundary_of_not_isBlank (h c hc)

theorem isKeyChar_of_isKeyStart (h : isKeyStart c = true) : isKeyChar c = true := by
  unfold isKeyStart at h
  rw [Bool.or_eq_true] at h
  unfold isKeyChar
  change ((c.isAlpha || c.isDigit) || decide (c = '_') || decide (c = '-')) = true
  rcases h with hletter | hunderscore
  · rw [hletter]
    rfl
  · rw [hunderscore, Bool.or_true]
    rfl

theorem not_isLineBoundary_of_isKeyChar (h : isKeyChar c = true) : Text.isLineBoundary c = false := by
  have hplain : c.isAlphanum = true → Text.isLineBoundary c = false := by
    intro hletter
    delta Char.isAlphanum Char.isAlpha Char.isUpper Char.isLower Char.isDigit at hletter
    simp only [Bool.or_eq_true, Bool.and_eq_true, decide_eq_true_eq, UInt32.le_iff_toNat_le,
      ge_iff_le] at hletter
    change ((65 ≤ c.toNat ∧ c.toNat ≤ 90) ∨ (97 ≤ c.toNat ∧ c.toNat ≤ 122)) ∨
      (48 ≤ c.toNat ∧ c.toNat ≤ 57) at hletter
    rw [← Bool.not_eq_true]
    intro hboundary
    simp only [Text.isLineBoundary, Bool.or_eq_true, Bool.and_eq_true,
      decide_eq_true_eq] at hboundary
    omega
  unfold isKeyChar at h
  rw [Bool.or_eq_true, Bool.or_eq_true, decide_eq_true_eq, decide_eq_true_eq] at h
  rcases h with (hletter | rfl) | rfl
  · exact hplain hletter
  · decide
  · decide

theorem not_isLineBoundary_remarkText {remark : Remark} (h : WritableRemark remark)
    (hc : c ∈ remarkText remark) : Text.isLineBoundary c = false := by
  have hkey : ∀ c ∈ remark.key.toList, Text.isLineBoundary c = false := by
    intro c hc
    have hform := h.key
    cases hletters : remark.key.toList with
    | nil =>
        rw [hletters] at hc
        cases hc
    | cons first letters =>
        rw [hletters] at hform hc
        rw [isRemarkKey, Bool.and_eq_true, List.all_eq_true] at hform
        apply not_isLineBoundary_of_isKeyChar
        rcases List.mem_cons.mp hc with rfl | hlater
        · exact isKeyChar_of_isKeyStart hform.1
        · exact hform.2 c hlater
  have hrender : ∀ c ∈ remark.render.toList, Text.isLineBoundary c = false := by
    intro c hc
    unfold Remark.render at hc
    cases hvalue : remark.value with
    | none =>
        rw [hvalue] at hc
        exact hkey c hc
    | some value =>
        rw [hvalue] at hc
        simp only [String.toList_append, List.mem_append] at hc
        rcases hc with (hmem | hcolon) | hmem
        · exact hkey c hmem
        · rw [List.mem_singleton.mp hcolon]
          decide
        · exact (h.value value hvalue c hmem).2
  unfold remarkText at hc
  rcases List.mem_cons.mp hc with rfl | hc
  · decide
  rcases List.mem_cons.mp hc with rfl | hc
  · decide
  rcases List.mem_append.mp hc with hmem | hclose
  · exact hrender c hmem
  · rw [List.mem_singleton.mp hclose]
    decide

theorem not_isLineBoundary_remarksText (h : ∀ remark ∈ remarks, WritableRemark remark)
    (hc : c ∈ remarksText remarks) : Text.isLineBoundary c = false := by
  rcases List.mem_flatMap.mp hc with ⟨remark, hremark, hin⟩
  rcases List.mem_cons.mp hin with rfl | hin
  · decide
  · exact not_isLineBoundary_remarkText (h remark hremark) hin

theorem onOneLine_of_content {content : List Char}
    (hline : line.toList = content ++ remarksText remarks)
    (hcontent : ∀ c ∈ content, Text.isLineBoundary c = false)
    (hremarks : ∀ remark ∈ remarks, WritableRemark remark) : OnOneLine line := by
  intro c hc
  rw [hline] at hc
  rcases List.mem_append.mp hc with hmem | hmem
  · exact hcontent c hmem
  · exact not_isLineBoundary_remarksText hremarks hmem

/-!
# Sets of one owner
-/

def single (globs : List String) (ref : OwnerRef) : OwnerSet := { globs, owners := [ref] }

theorem flatMap_owners_single (globs : List String) (refs : List OwnerRef) :
    (refs.map (single globs)).flatMap OwnerSet.owners = refs := by
  rw [List.flatMap_map]
  exact List.flatMap_singleton' refs

theorem any_overrides_single (globs : List String) (refs : List OwnerRef) :
    (refs.map (single globs)).any OwnerSet.overrides = false := by
  rw [List.any_map, List.any_eq_false]
  intro ref _
  exact Bool.false_ne_true

theorem says_singles {write : OwnerRef → String}
    (h : ∀ ref ∈ refs, Says folder [write ref] [single globs ref]) :
    Says folder (refs.map write) (refs.map (single globs)) := by
  rw [List.map_eq_flatMap, List.map_eq_flatMap]
  exact says_flatMap h

/-!
# Lines of owners
-/

theorem addLine_owner (hemail : StandsAlone ref.email)
    (hremarks : ∀ remark ∈ ref.remarks, WritableRemark remark) :
    Gathered.addLine folder gathered ((renderOwner ref).toList, number) =
      gathered.put (single [] ref) := by
  have hcontent : content (renderOwner ref).toList = (ref.email.toList, ref.remarks) := by
    rw [toList_renderOwner]
    exact content_written hemail.free hemail.trimmed hremarks
  unfold Gathered.addLine
  dsimp only
  rw [hcontent]
  dsimp only
  rw [readStatement_owner hemail]
  dsimp only
  rw [String.ofList_toList, put_global rfl]
  rfl

theorem says_owners (hne : refs ≠ []) (hemails : ∀ ref ∈ refs, StandsAlone ref.email)
    (hremarks : ∀ ref ∈ refs, ∀ remark ∈ ref.remarks, WritableRemark remark) :
    Says folder (refs.map renderOwner) [{ owners := refs }] := by
  have hone : ∀ ref ∈ refs, Says folder [renderOwner ref] [single [] ref] := by
    intro ref href
    apply says_line
    · apply onOneLine_of_content (toList_renderOwner ref) ?_ (hremarks ref href)
      intro c hc
      exact Text.not_isLineBoundary_of_not_isBlank
        (not_isBlank_of_isOwner (hemails ref href).owner hc)
    · intro gathered number
      exact addLine_owner (hemails ref href) (hremarks ref href)
  have hglobs : ∀ set ∈ refs.map (single []), set.globs = [] := by
    intro set hset
    rcases List.mem_map.mp hset with ⟨ref, _, rfl⟩
    rfl
  have hall := (says_singles hone).together (by simpa using hne) hglobs
  rw [flatMap_owners_single, any_overrides_single] at hall
  exact hall

/-!
# Lines for some files
-/

def rowText (globs : List String) (right : List Char) : List Char :=
  perFileWord.toList ++ ' ' :: ((",".intercalate globs).toList ++ '=' :: right)

theorem toList_perFileLine (globs : List String) (right : String) :
    (perFileLine globs right).toList = rowText globs right.toList := by
  have hword : "per-file ".toList = perFileWord.toList ++ [' '] := by decide
  unfold perFileLine rowText
  rw [String.toList_append, String.toList_append, String.toList_append, hword]
  simp

theorem mem_joined {pieces : List String} (h : c ∈ (",".intercalate pieces).toList) :
    c = ',' ∨ ∃ piece ∈ pieces, c ∈ piece.toList := by
  rw [String.toList_intercalate] at h
  rcases Text.mem_joinWith h with hcomma | ⟨piece, hpiece, hc⟩
  · exact .inl hcomma
  · rcases List.mem_map.mp hpiece with ⟨text, htext, rfl⟩
    exact .inr ⟨text, htext, hc⟩

theorem WritableRow.mem_joined (h : WritableRow globs) (hc : c ∈ (",".intercalate globs).toList) :
    c ≠ '#' ∧ c ≠ '=' ∧ Text.isLineBoundary c = false := by
  rcases LineFormat.mem_joined hc with rfl | ⟨glob, hglob, hmem⟩
  · decide
  · have hfree := (h.globs glob hglob).free c hmem
    exact ⟨hfree.1, hfree.2.2.1, hfree.2.2.2⟩

theorem WritableRow.joined_ne_nil (h : WritableRow globs) : (",".intercalate globs).toList ≠ [] := by
  cases globs with
  | nil => exact absurd rfl h.nonempty
  | cons first others =>
      have hfirst := toList_ne_nil (h.globs first List.mem_cons_self).nonempty
      rw [String.toList_intercalate]
      cases others with
      | nil => simpa [List.intercalate_singleton] using hfirst
      | cons next later =>
          rw [List.map_cons, List.map_cons, List.intercalate_cons_cons]
          simp [hfirst]

theorem WritableRow.commaPieces (h : WritableRow globs) :
    commaPieces (",".intercalate globs).toList = globs := by
  apply commaPieces_joined h.nonempty
  · intro glob hglob
    exact (h.globs glob hglob).trimmed
  · intro glob hglob hcomma
    exact ((h.globs glob hglob).free ',' hcomma).2.1 rfl

/-- Behind the equals sign can stand any trimmed text without the sign of a remark. -/
theorem content_rowText {right : List Char} (hrow : WritableRow globs) (hfree : '#' ∉ right)
    (htrim : Text.Trimmed right) (hremarks : ∀ remark ∈ remarks, WritableRemark remark) :
    content (rowText globs right ++ remarksText remarks) = (rowText globs right, remarks) := by
  apply content_written ?_ ?_ hremarks
  · intro hmem
    unfold rowText at hmem
    rcases List.mem_append.mp hmem with hword | hmem
    · revert hword
      decide
    rcases List.mem_cons.mp hmem with hspace | hmem
    · revert hspace
      decide
    rcases List.mem_append.mp hmem with hglobs | hmem
    · exact (hrow.mem_joined hglobs).1 rfl
    rcases List.mem_cons.mp hmem with hsign | hright
    · revert hsign
      decide
    · exact hfree hright
  · constructor
    · intro c hc
      have hfirst : (rowText globs right).head? = some 'p' := rfl
      rw [hfirst] at hc
      cases hc
      decide
    · intro c hc
      have hlast : (rowText globs right).getLast? = some (right.getLast?.getD '=') := by
        unfold rowText
        rw [List.getLast?_append, List.getLast?_cons, List.getLast?_append, List.getLast?_cons]
        rfl
      rw [hlast] at hc
      cases hc
      cases hright : right.getLast? with
      | none => decide
      | some last => exact htrim.2 last hright

theorem addLine_row {right : List Char} (hrow : WritableRow globs) (hfree : '#' ∉ right)
    (htrim : Text.Trimmed right) (hremarks : ∀ remark ∈ remarks, WritableRemark remark) :
    Gathered.addLine folder gathered (rowText globs right ++ remarksText remarks, number) =
      gathered.addPerFile number (String.ofList (rowText globs right ++ remarksText remarks)) remarks
        (",".intercalate globs).toList right := by
  have hequals : '=' ∉ (",".intercalate globs).toList := by
    intro hmem
    exact (hrow.mem_joined hmem).2.1 rfl
  unfold Gathered.addLine
  dsimp only
  rw [content_rowText hrow hfree htrim hremarks]
  dsimp only
  rw [rowText, readStatement_perFile hrow.joined_ne_nil hequals, Text.trim_of_trimmed htrim]

/-!
# Statements for some files
-/

theorem addPerFile_of_row {text : String} {letters owners : List Char}
    (hletters : Text.sortedDistinct ((commaPieces letters).filter fun glob => !glob.isEmpty) = globs)
    (hne : globs ≠ []) (hvalid : ∀ glob ∈ globs, Glob.isValid glob = true) :
    gathered.addPerFile number text remarks letters owners =
      if owners = noParentWords.toList then gathered.put { globs, overrides := true }
      else (gathered.put { globs }).addBlockOwners number text globs remarks (commaPieces owners) := by
  have hfind : globs.find? (fun glob => !Glob.isValid glob) = none := by
    rw [List.find?_eq_none]
    intro glob hglob
    rw [hvalid glob hglob]
    exact Bool.false_ne_true
  have hempty : globs.isEmpty = false := List.isEmpty_eq_false_iff.mpr hne
  unfold Gathered.addPerFile
  rw [hletters]
  dsimp only
  rw [hempty, hfind, if_neg Bool.false_ne_true]
  dsimp only
  rw [put_row hne, put_row hne]
  dsimp only
  rw [Bool.or_true, Bool.or_false]
  rfl

theorem addPerFile_row {text : String} {owners : List Char} (hrow : WritableRow globs) :
    gathered.addPerFile number text remarks (",".intercalate globs).toList owners =
      if owners = noParentWords.toList then gathered.put { globs, overrides := true }
      else (gathered.put { globs }).addBlockOwners number text globs remarks (commaPieces owners) := by
  have hfilter : globs.filter (fun glob => !glob.isEmpty) = globs := by
    rw [List.filter_eq_self]
    intro glob hglob
    rw [Bool.not_eq_true', ← Bool.not_eq_true, String.isEmpty_iff]
    exact (hrow.globs glob hglob).nonempty
  apply addPerFile_of_row ?_ hrow.nonempty fun glob hglob => (hrow.globs glob hglob).valid
  rw [hrow.commaPieces, hfilter, hrow.sorted]

theorem addBlockOwners_owners {text : String} (hne : globs ≠ [])
    (hemails : ∀ email ∈ emails, isOwner email = true) :
    gathered.addBlockOwners number text globs remarks emails =
      (emails.map fun email => single globs { email, remarks }).foldl Gathered.put gathered := by
  unfold Gathered.addBlockOwners
  induction emails generalizing gathered with
  | nil => rfl
  | cons email emails ih =>
      rw [List.map_cons, List.foldl_cons, List.foldl_cons, hemails email List.mem_cons_self,
        if_pos rfl, put_row hne]
      rw [ih fun other hother => hemails other (List.mem_cons_of_mem email hother)]
      congr 1
      unfold single
      dsimp only
      rw [Bool.or_false]
      rfl

theorem addPerFile_owners {text : String} (hrow : WritableRow globs) (hne : emails ≠ [])
    (hemails : ∀ email ∈ emails, StandsInList email) :
    gathered.addPerFile number text remarks (",".intercalate globs).toList
        (",".intercalate emails).toList =
      gathered.put { globs, owners := emails.map fun email => { email, remarks } } := by
  have hpieces : commaPieces (",".intercalate emails).toList = emails := by
    apply commaPieces_joined hne
    · intro email hemail
      exact (hemails email hemail).trimmed
    · intro email hemail hcomma
      exact ((hemails email hemail).free ',' hcomma).2 rfl
  have hnot : (",".intercalate emails).toList ≠ noParentWords.toList := by
    apply ne_noParentWords_of_no_blank
    intro c hc
    rcases mem_joined hc with rfl | ⟨email, hemail, hmem⟩
    · decide
    · exact not_isBlank_of_isOwner (hemails email hemail).owner hmem
  have hsame : ∀ other ∈ emails.map (fun email => single globs { email, remarks }),
      other.globs = globs := by
    intro other hother
    rcases List.mem_map.mp hother with ⟨email, _, rfl⟩
    rfl
  have hrefs : (emails.map fun email => single globs { email, remarks }) =
      (emails.map fun email => ({ email, remarks } : OwnerRef)).map (single globs) := by
    rw [List.map_map]
    rfl
  rw [addPerFile_row hrow, if_neg hnot, hpieces, addBlockOwners_owners hrow.nonempty
    fun email hemail => (hemails email hemail).owner, putAll_together hsame, hrefs,
    flatMap_owners_single, any_overrides_single]
  rfl

theorem onOneLine_row {right : List Char}
    (hline : line.toList = rowText globs right ++ remarksText remarks)
    (hrow : WritableRow globs) (hright : ∀ c ∈ right, Text.isLineBoundary c = false)
    (hremarks : ∀ remark ∈ remarks, WritableRemark remark) : OnOneLine line := by
  apply onOneLine_of_content hline ?_ hremarks
  have hword : ∀ c ∈ perFileWord.toList, Text.isLineBoundary c = false :=
    Text.forall_mem_of_all (by decide)
  intro c hc
  unfold rowText at hc
  rcases List.mem_append.mp hc with hc | hc
  · exact hword c hc
  rcases List.mem_cons.mp hc with rfl | hc
  · decide
  rcases List.mem_append.mp hc with hglobs | hc
  · exact (hrow.mem_joined hglobs).2.2
  rcases List.mem_cons.mp hc with rfl | hc
  · decide
  · exact hright c hc

theorem says_overrides (hrow : WritableRow globs) :
    Says folder [perFileLine globs noParentWords] [{ globs, overrides := true }] := by
  have hnone : ∀ remark ∈ ([] : List Remark), WritableRemark remark :=
    fun remark hremark => by cases hremark
  have hline : (perFileLine globs noParentWords).toList =
      rowText globs noParentWords.toList ++ remarksText [] := by
    rw [toList_perFileLine]
    exact (List.append_nil _).symm
  apply says_line
  · exact onOneLine_row hline hrow (Text.forall_mem_of_all (by decide)) hnone
  · intro gathered number
    rw [hline, addLine_row hrow (by decide) (by decide) hnone, addPerFile_row hrow, if_pos rfl]

theorem says_listed {line : String} (hrow : WritableRow globs) (hne : emails ≠ [])
    (hemails : ∀ email ∈ emails, StandsInList email)
    (hremarks : ∀ remark ∈ remarks, WritableRemark remark)
    (hline : line.toList = rowText globs (",".intercalate emails).toList ++ remarksText remarks) :
    Says folder [line] [{ globs, owners := emails.map fun email => { email, remarks } }] := by
  have hblank : ∀ c ∈ (",".intercalate emails).toList, Text.isBlank c = false ∧ c ≠ '#' := by
    intro c hc
    rcases mem_joined hc with rfl | ⟨email, hemail, hmem⟩
    · decide
    · have hstands := hemails email hemail
      exact ⟨not_isBlank_of_isOwner hstands.owner hmem, (hstands.free c hmem).1⟩
  have hfree : '#' ∉ (",".intercalate emails).toList := fun hmem => (hblank _ hmem).2 rfl
  have htrim : Text.Trimmed (",".intercalate emails).toList :=
    Text.trimmed_of_no_blank fun c hc => (hblank c hc).1
  apply says_line
  · apply onOneLine_row hline hrow ?_ hremarks
    intro c hc
    exact Text.not_isLineBoundary_of_not_isBlank (hblank c hc).1
  · intro gathered number
    rw [hline, addLine_row hrow hfree htrim hremarks, addPerFile_owners hrow hne hemails]

/-!
# Rows of the table
-/

/-- The order in which the owners of a row are written: those without remarks come first. -/
def plainFirst (refs : List OwnerRef) : List OwnerRef :=
  refs.filter (fun ref => ref.remarks.isEmpty) ++ refs.filter fun ref => !ref.remarks.isEmpty

theorem plainFirst_perm (refs : List OwnerRef) : (plainFirst refs).Perm refs :=
  List.filter_append_perm (fun ref : OwnerRef => ref.remarks.isEmpty) refs

/-- The owners of all files are written by email, those of a row in two groups. -/
def writtenOrder : Arrangement where
  arrange globs refs := if globs.isEmpty then refs else plainFirst refs
  perm globs refs := by
    split
    · exact List.Perm.refl refs
    · exact plainFirst_perm refs

theorem says_plain (hrow : WritableRow globs) (hemails : ∀ ref ∈ refs, StandsInList ref.email)
    (hplain : ∀ ref ∈ refs, ref.remarks = []) (hne : refs ≠ []) :
    Says folder [perFileLine globs (",".intercalate (refs.map OwnerRef.email))]
      [{ globs, owners := refs }] := by
  have hnone : ∀ remark ∈ ([] : List Remark), WritableRemark remark :=
    fun remark hremark => by cases hremark
  have hlisted : ∀ email ∈ refs.map OwnerRef.email, StandsInList email := by
    intro email hemail
    rcases List.mem_map.mp hemail with ⟨ref, href, rfl⟩
    exact hemails ref href
  have hrefs : (refs.map OwnerRef.email).map (fun email => ({ email, remarks := [] } : OwnerRef)) =
      refs := by
    rw [List.map_map]
    apply (List.map_congr_left ?_).trans (List.map_id refs)
    intro ref href
    change ({ email := ref.email, remarks := [] } : OwnerRef) = ref
    rw [← hplain ref href]
  rw [← hrefs]
  apply says_listed hrow (by simpa using hne) hlisted hnone
  rw [hrefs, toList_perFileLine]
  exact (List.append_nil _).symm

theorem says_remarked (hrow : WritableRow globs) (hemail : StandsInList ref.email)
    (hremarks : ∀ remark ∈ ref.remarks, WritableRemark remark) :
    Says folder [perFileLine globs (renderOwner ref)] [single globs ref] := by
  have hline : (perFileLine globs (renderOwner ref)).toList =
      rowText globs (",".intercalate [ref.email]).toList ++ remarksText ref.remarks := by
    rw [toList_perFileLine, toList_renderOwner, String.intercalate_singleton]
    unfold rowText
    simp
  apply says_listed hrow (List.cons_ne_nil ref.email []) ?_ hremarks hline
  intro email hmem
  rw [List.mem_singleton.mp hmem]
  exact hemail

def rowPieces (globs : List String) (block : Block) : List OwnerSet :=
  let plain := (sortedOwners block.owners).filter fun ref => ref.remarks.isEmpty
  let remarked := (sortedOwners block.owners).filter fun ref => !ref.remarks.isEmpty
  (if block.overrides then [{ globs, overrides := true }] else []) ++
    (if plain.isEmpty then [] else [{ globs, owners := plain }]) ++ remarked.map (single globs)

theorem globs_of_mem_rowPieces (h : set ∈ rowPieces globs block) : set.globs = globs := by
  unfold rowPieces at h
  rw [List.mem_append, List.mem_append, List.mem_ite_nil_right, List.mem_ite_nil_left,
    List.mem_singleton, List.mem_singleton, List.mem_map] at h
  rcases h with (⟨_, rfl⟩ | ⟨_, rfl⟩) | ⟨ref, _, rfl⟩
  · rfl
  · rfl
  · rfl

theorem owners_rowPieces (globs : List String) (block : Block) :
    (rowPieces globs block).flatMap OwnerSet.owners = plainFirst (sortedOwners block.owners) := by
  unfold rowPieces plainFirst
  rw [List.flatMap_append, List.flatMap_append, flatMap_owners_single]
  congr 1
  have hflag : (if block.overrides then [({ globs, overrides := true } : OwnerSet)] else []).flatMap
      OwnerSet.owners = [] := by
    split
    · rfl
    · rfl
  rw [hflag, List.nil_append]
  split
  · rename_i hempty
    exact (List.isEmpty_iff.mp hempty).symm
  · exact List.append_nil _

theorem overrides_rowPieces (globs : List String) (block : Block) :
    (rowPieces globs block).any OwnerSet.overrides = block.overrides := by
  unfold rowPieces
  rw [List.any_append, List.any_append, any_overrides_single, Bool.or_false]
  have hplain : ∀ plain : List OwnerRef,
      (if plain.isEmpty then [] else [({ globs, owners := plain } : OwnerSet)]).any
        OwnerSet.overrides = false := by
    intro plain
    split
    · rfl
    · rfl
  rw [hplain, Bool.or_false]
  cases block.overrides with
  | false => rfl
  | true => rfl

theorem rowPieces_ne_nil (h : block.tells = true) : rowPieces globs block ≠ [] := by
  intro hnil
  have howners := owners_rowPieces globs block
  have hoverrides := overrides_rowPieces globs block
  rw [hnil] at howners hoverrides
  have hsorted : sortedOwners block.owners = [] :=
    (howners ▸ plainFirst_perm (sortedOwners block.owners)).nil_eq.symm
  unfold Block.tells at h
  rw [← hoverrides, sortedOwners_eq_nil.mp hsorted] at h
  cases h

theorem says_block (hrow : WritableRow globs) (howners : WritableOwners StandsInList block.owners)
    (htells : block.tells = true) :
    Says folder (blockLines globs block) [writtenOrder.arrangedSet (blockSet (globs, block))] := by
  have hrefs : ∀ ref ∈ sortedOwners block.owners,
      StandsInList ref.email ∧ ∀ remark ∈ ref.remarks, WritableRemark remark := by
    intro ref href
    have hentry := mem_sortedOwners.mp href
    exact ⟨howners.admits _ hentry, (howners.remarks _ hentry).2⟩
  have hlines : Says folder (blockLines globs block) (rowPieces globs block) := by
    unfold blockLines rowPieces
    refine Says.append (Says.append ?_ ?_) ?_
    · split
      · exact says_overrides hrow
      · exact says_nil folder
    · split
      · exact says_nil folder
      · rename_i hne
        apply says_plain hrow ?_ ?_ (by simpa using hne)
        · intro ref href
          exact (hrefs ref (List.mem_filter.mp href).1).1
        · intro ref href
          exact List.isEmpty_iff.mp (List.mem_filter.mp href).2
    · apply says_singles
      intro ref href
      have href := hrefs ref (List.mem_filter.mp href).1
      exact says_remarked hrow href.1 href.2
  have hall := hlines.together (rowPieces_ne_nil htells) fun set hset => globs_of_mem_rowPieces hset
  have horder : writtenOrder.arrange globs (sortedOwners block.owners) =
      plainFirst (sortedOwners block.owners) :=
    if_neg (by simpa using hrow.nonempty)
  rw [owners_rowPieces, overrides_rowPieces, ← horder] at hall
  exact hall

theorem blockLines_of_silent (h : block.tells = false) : blockLines globs block = [] := by
  unfold Block.tells at h
  rw [Bool.or_eq_false_iff, Bool.not_eq_false'] at h
  have hnone : sortedOwners block.owners = [] := sortedOwners_eq_nil.mpr (List.isEmpty_iff.mp h.1)
  unfold blockLines
  rw [hnone, h.2]
  rfl

/-!
# The whole tables
-/

def Gathered.tableLines (gathered : Gathered) : List String :=
  (sortedOwners gathered.owners).map renderOwner ++
    (sortedBlocks gathered.blocks).flatMap fun entry => blockLines entry.1 entry.2

theorem lines_eq (gathered : Gathered) :
    gathered.lines =
      (if gathered.ignoresParents then [noParentWords] else []) ++
        (sortedImports gathered.imports).map renderImport ++ gathered.tableLines := by
  unfold Gathered.lines Gathered.tableLines
  rw [List.append_assoc _ (List.map _ _) (List.flatMap _ _)]

theorem tableLines_eq (gathered : Gathered) :
    gathered.tableLines =
      (sortedOwners gathered.owners).map renderOwner ++
        gathered.tellingRows.flatMap fun entry => blockLines entry.1 entry.2 := by
  unfold Gathered.tableLines Gathered.tellingRows
  congr 1
  induction sortedBlocks gathered.blocks with
  | nil => rfl
  | cons entry rows ih =>
      rw [List.flatMap_cons, ih, List.filter_cons]
      split
      · rfl
      · rename_i hsilent
        rw [blockLines_of_silent (by simpa using hsilent), List.nil_append]

/-- The lines written for the tables say the sets that were gathered. -/
theorem says_tableLines (h : gathered.Sound) :
    Says folder gathered.tableLines (gathered.sets.map writtenOrder.arrangedSet) := by
  rw [tableLines_eq, sets_eq, List.map_append]
  apply Says.append
  · split
    · rename_i hnone
      have hempty : sortedOwners gathered.owners = [] :=
        sortedOwners_eq_nil.mpr (List.isEmpty_iff.mp hnone)
      rw [hempty]
      exact says_nil folder
    · rename_i hsome
      apply says_owners
      · intro hnil
        exact hsome (List.isEmpty_iff.mpr (sortedOwners_eq_nil.mp hnil))
      · intro ref href
        exact h.owners.admits _ (mem_sortedOwners.mp href)
      · intro ref href
        exact (h.owners.remarks _ (mem_sortedOwners.mp href)).2
  · have hrows : (gathered.tellingRows.map blockSet).map writtenOrder.arrangedSet =
        gathered.tellingRows.flatMap fun entry => [writtenOrder.arrangedSet (blockSet entry)] := by
      rw [List.map_map, List.map_eq_flatMap]
      rfl
    rw [hrows]
    apply says_flatMap
    intro entry hentry
    rcases mem_tellingRows.mp hentry with ⟨hmem, htells⟩
    exact says_block (h.blocks entry hmem).1 (h.blocks entry hmem).2 htells

end LineFormat
end Ownership
