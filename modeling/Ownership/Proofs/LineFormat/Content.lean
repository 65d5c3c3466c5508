import Ownership.LineFormat.Line
import Ownership.LineFormat.Writer
import Ownership.Proofs.Text.Pieces

/-!
# The content of a line

Remarks are taken out of a line before anything else, and what stands behind the first `#` that is
left does not count.  So the content of a line holds no such sign, and a text without it that is
followed by written remarks is read back together with them.
-/

namespace Ownership
namespace LineFormat

variable {s t line rest behind : List Char} {remark : Remark} {remarks : List Remark} {c : Char}

/-!
# Remarks that can be written
-/

def isRemarkKey : List Char → Bool
  | [] => false
  | c :: rest => isKeyStart c && rest.all isKeyChar

/-- The key has the form of a key, and the value stays on its line and ends at the brace. -/
structure WritableRemark (remark : Remark) : Prop where
  key : isRemarkKey remark.key.toList = true
  value : ∀ value ∈ remark.value, ∀ c ∈ value.toList,
    c ≠ '}' ∧ Text.isLineBoundary c = false

def remarkText (remark : Remark) : List Char :=
  '#' :: '{' :: (remark.render.toList ++ ['}'])

def remarksText (remarks : List Remark) : List Char :=
  remarks.flatMap fun remark => ' ' :: remarkText remark

theorem toList_renderOwner (owner : OwnerRef) :
    (renderOwner owner).toList = owner.email.toList ++ remarksText owner.remarks := by
  have hjoined : ∀ first others, ([' '] : List Char) ++ List.intercalate [' ']
      ((first :: others).map fun remark => remarkText remark) =
        remarksText (first :: others) := by
    intro first others
    induction others generalizing first with
    | nil => simp [remarksText, List.intercalate_singleton]
    | cons next others ih =>
        have hrest := ih next
        rw [List.map_cons] at hrest
        rw [List.map_cons, List.map_cons, List.intercalate_cons_cons, List.append_assoc, hrest]
        rfl
  have htexts : ∀ remarks : List Remark,
      (remarks.map fun remark => "#\x7b" ++ remark.render ++ "\x7d").map String.toList =
        remarks.map fun remark => remarkText remark := by
    intro remarks
    rw [List.map_map]
    apply List.map_congr_left
    intro remark _
    simp [remarkText]
  unfold renderOwner
  cases hremarks : owner.remarks with
  | nil => simp [remarksText]
  | cons first others =>
      rw [if_neg (by simp), String.toList_append, String.toList_append, String.toList_intercalate,
        htexts, List.append_assoc, ← hjoined]
      rfl

/-!
# Reading a remark
-/

theorem not_isKeyChar_close : isKeyChar '}' = false := by decide

theorem not_isKeyChar_colon : isKeyChar ':' = false := by decide

theorem key_ends {letters : List Char} (rest : List Char)
    (hletters : ∀ x ∈ letters, isKeyChar x = true) (hend : isKeyChar c = false) :
    (letters ++ c :: rest).takeWhile isKeyChar = letters ∧
      (letters ++ c :: rest).dropWhile isKeyChar = c :: rest := by
  constructor
  · rw [List.takeWhile_append_of_pos hletters, List.takeWhile_cons_of_neg (by simp [hend]),
      List.append_nil]
  · rw [List.dropWhile_append_of_pos hletters, List.dropWhile_cons_of_neg (by simp [hend])]

theorem readRemark?_written (rest : List Char) (h : WritableRemark remark) :
    readRemark? ('{' :: (remark.render.toList ++ ['}']) ++ rest) = some (remark, rest) := by
  rcases remark with ⟨key, value⟩
  have hkey : isRemarkKey key.toList = true := h.key
  cases hletters : key.toList with
  | nil =>
      rw [hletters] at hkey
      cases hkey
  | cons first letters =>
      rw [hletters, isRemarkKey, Bool.and_eq_true, List.all_eq_true] at hkey
      have hwhole : String.ofList (first :: letters) = key := by
        rw [← hletters, String.ofList_toList]
      cases value with
      | none =>
          have hends := key_ends rest hkey.2 not_isKeyChar_close
          have hform : '{' :: ((Remark.render ⟨key, none⟩).toList ++ ['}']) ++ rest =
              '{' :: first :: (letters ++ '}' :: rest) := by
            simp [Remark.render, hletters]
          rw [hform, readRemark?, if_pos hkey.1, hends.1, hends.2, hwhole]
          rfl
      | some value =>
          have hends := key_ends (value.toList ++ '}' :: rest) hkey.2 not_isKeyChar_colon
          have hvalue : '}' ∉ value.toList := by
            intro hmem
            exact (h.value value rfl _ hmem).1 rfl
          have hform : '{' :: ((Remark.render ⟨key, some value⟩).toList ++ ['}']) ++ rest =
              '{' :: first :: (letters ++ ':' :: (value.toList ++ '}' :: rest)) := by
            simp [Remark.render, hletters]
          rw [hform, readRemark?, if_pos hkey.1, hends.1, hends.2, hwhole]
          change (Text.cutAt? '}' (value.toList ++ '}' :: rest)).map _ = _
          rw [Text.cutAt?_append hvalue, Option.map_some]
          dsimp only
          rw [String.ofList_toList]

theorem readRemark?_eq_some (h : readRemark? s = some (remark, behind)) :
    isRemarkKey remark.key.toList = true ∧
      (∀ value ∈ remark.value, ∀ c ∈ value.toList, c ≠ '}' ∧ c ∈ s) ∧
        ∀ c ∈ behind, c ∈ s := by
  unfold readRemark? at h
  split at h
  · rename_i first letters
    split at h
    · rename_i hfirst
      have hkey : isRemarkKey (String.ofList (first :: letters.takeWhile isKeyChar)).toList =
          true := by
        rw [String.toList_ofList, isRemarkKey, hfirst, Bool.true_and, List.all_eq_true]
        intro c hc
        exact List.mem_takeWhile_imp hc
      have hdrop : ∀ c ∈ letters.dropWhile isKeyChar, c ∈ '{' :: first :: letters := by
        intro c hc
        apply List.mem_cons_of_mem
        apply List.mem_cons_of_mem
        exact (List.dropWhile_sublist isKeyChar).mem hc
      dsimp only at h
      split at h
      · rename_i after hafter
        cases h
        rw [hafter] at hdrop
        refine ⟨hkey, ?_, ?_⟩
        · intro value hvalue
          cases hvalue
        · intro c hc
          exact hdrop c (List.mem_cons_of_mem _ hc)
      · rename_i more hmore
        rw [hmore] at hdrop
        rcases Option.map_eq_some_iff.mp h with ⟨⟨value, after⟩, hcut, hpair⟩
        cases hpair
        rcases Text.eq_append_of_cutAt? hcut with ⟨rfl, hfree⟩
        refine ⟨hkey, ?_, ?_⟩
        · intro text htext c hc
          cases htext
          rw [String.toList_ofList] at hc
          constructor
          · intro heq
            exact hfree (heq ▸ hc)
          · exact hdrop c (by simp [hc])
        · intro c hc
          exact hdrop c (by simp [hc])
      · cases h
    · cases h
  · cases h

/-!
# Taking the remarks out
-/

theorem splitRemarks_nil : splitRemarks [] = ([], []) := by rw [splitRemarks]

theorem splitRemarks_of_ne (h : c ≠ '#') :
    splitRemarks (c :: rest) = (c :: (splitRemarks rest).1, (splitRemarks rest).2) := by
  rw [splitRemarks]
  exact h

theorem splitRemarks_of_remark (h : readRemark? rest = some (remark, behind)) :
    splitRemarks ('#' :: rest) =
      (' ' :: (splitRemarks behind).1, remark :: (splitRemarks behind).2) := by
  rw [splitRemarks]
  split
  · rename_i hread
    rw [h] at hread
    cases hread
    rfl
  · rename_i hread
    rw [h] at hread
    cases hread

theorem splitRemarks_append (h : '#' ∉ s) :
    splitRemarks (s ++ rest) = (s ++ (splitRemarks rest).1, (splitRemarks rest).2) := by
  induction s with
  | nil => rfl
  | cons c s ih =>
      rw [List.mem_cons, not_or] at h
      rw [List.cons_append, splitRemarks_of_ne (Ne.symm h.1), ih h.2]
      rfl

theorem splitRemarks_written (h : ∀ remark ∈ remarks, WritableRemark remark) :
    ∃ blanks, splitRemarks (remarksText remarks) = (blanks, remarks) ∧ ∀ c ∈ blanks, c = ' ' := by
  induction remarks with
  | nil => exact ⟨[], splitRemarks_nil, fun c hc => by cases hc⟩
  | cons remark remarks ih =>
      rcases ih fun other hother => h other (List.mem_cons_of_mem remark hother) with
        ⟨blanks, hrest, hblank⟩
      have hread := readRemark?_written (remarksText remarks) (h remark List.mem_cons_self)
      refine ⟨' ' :: ' ' :: blanks, ?_, ?_⟩
      · change splitRemarks (' ' :: '#' ::
          ('{' :: (remark.render.toList ++ ['}']) ++ remarksText remarks)) = _
        rw [splitRemarks_of_ne (by decide), splitRemarks_of_remark hread, hrest]
      · intro c hc
        rcases List.mem_cons.mp hc with rfl | hc
        · rfl
        rcases List.mem_cons.mp hc with rfl | hc
        · rfl
        exact hblank c hc

theorem mem_splitRemarks (hc : c ∈ (splitRemarks line).1) : c ∈ line ∨ c = ' ' := by
  fun_induction splitRemarks line with
  | case1 => cases hc
  | case2 rest remark behind hread text remarks hsplit ih =>
      rw [hsplit] at ih
      rcases List.mem_cons.mp hc with hspace | hlater
      · exact .inr hspace
      · rcases ih hlater with hmem | hspace
        · refine .inl (List.mem_cons_of_mem _ ?_)
          exact (readRemark?_eq_some hread).2.2 c hmem
        · exact .inr hspace
  | case3 rest hread text remarks hsplit ih =>
      rw [hsplit] at ih
      rcases List.mem_cons.mp hc with heq | hlater
      · exact .inl (heq ▸ List.mem_cons_self)
      · rcases ih hlater with hmem | hspace
        · exact .inl (List.mem_cons_of_mem _ hmem)
        · exact .inr hspace
  | case4 first rest hne text remarks hsplit ih =>
      rw [hsplit] at ih
      rcases List.mem_cons.mp hc with heq | hlater
      · exact .inl (heq ▸ List.mem_cons_self)
      · rcases ih hlater with hmem | hspace
        · exact .inl (List.mem_cons_of_mem _ hmem)
        · exact .inr hspace

theorem writable_of_splitRemarks (hline : ∀ c ∈ line, Text.isLineBoundary c = false)
    (h : remark ∈ (splitRemarks line).2) : WritableRemark remark := by
  fun_induction splitRemarks line with
  | case1 => cases h
  | case2 rest found behind hread text remarks hsplit ih =>
      rw [hsplit] at ih
      rcases readRemark?_eq_some hread with ⟨hkey, hvalue, hbehind⟩
      rcases List.mem_cons.mp h with rfl | hlater
      · refine ⟨hkey, ?_⟩
        intro value hsome c hc
        have hin := hvalue value hsome c hc
        exact ⟨hin.1, hline c (List.mem_cons_of_mem _ hin.2)⟩
      · apply ih _ hlater
        intro c hc
        exact hline c (List.mem_cons_of_mem _ (hbehind c hc))
  | case3 rest hread text remarks hsplit ih =>
      rw [hsplit] at ih
      exact ih (fun c hc => hline c (List.mem_cons_of_mem _ hc)) h
  | case4 first rest hne text remarks hsplit ih =>
      rw [hsplit] at ih
      exact ih (fun c hc => hline c (List.mem_cons_of_mem _ hc)) h

/-!
# Contents
-/

theorem mem_content (h : c ∈ (content line).1) : c ≠ '#' ∧ (c ∈ line ∨ c = ' ') := by
  have htaken : c ∈ (splitRemarks line).1.takeWhile (· ≠ '#') := Text.mem_of_mem_trim h
  constructor
  · have hplain := List.mem_takeWhile_imp htaken
    exact of_decide_eq_true hplain
  · exact mem_splitRemarks ((List.takeWhile_sublist _).mem htaken)

/-- A content and the remarks written behind it are read back. -/
theorem content_written (hfree : '#' ∉ s) (htrim : Text.Trimmed s)
    (hremarks : ∀ remark ∈ remarks, WritableRemark remark) :
    content (s ++ remarksText remarks) = (s, remarks) := by
  rcases splitRemarks_written hremarks with ⟨blanks, hsplit, hblanks⟩
  have htake : (s ++ blanks).takeWhile (· ≠ '#') = s ++ blanks := by
    rw [List.takeWhile_eq_self_iff]
    intro c hc
    apply decide_eq_true
    intro heq
    rcases List.mem_append.mp hc with hs | hblank
    · exact hfree (heq ▸ hs)
    · rw [hblanks c hblank] at heq
      cases heq
  have htrimmed : Text.trim (s ++ blanks) = s := by
    apply Text.trim_append_blanks htrim
    intro c hc
    rw [hblanks c hc]
    decide
  unfold content
  rw [splitRemarks_append hfree, hsplit]
  dsimp only
  rw [htake, htrimmed]

theorem content_plain (hfree : '#' ∉ s) (htrim : Text.Trimmed s) : content s = (s, []) := by
  have hremarks : ∀ remark ∈ ([] : List Remark), WritableRemark remark :=
    fun remark hremark => by cases hremark
  rw [← content_written hfree htrim hremarks]
  congr 1
  exact (List.append_nil s).symm

/-- A beginning without the sign and without blanks at its ends stays at the front. -/
theorem content_append (hne : s ≠ []) (hfree : '#' ∉ s) (htrim : Text.Trimmed s) :
    ∃ more, (content (s ++ t)).1 = s ++ more := by
  refine ⟨Text.trimRight ((splitRemarks t).1.takeWhile (· ≠ '#')), ?_⟩
  have htake : ∀ later : List Char,
      (s ++ later).takeWhile (· ≠ '#') = s ++ later.takeWhile (· ≠ '#') := by
    intro later
    apply List.takeWhile_append_of_pos
    intro c hc
    apply decide_eq_true
    intro heq
    exact hfree (heq ▸ hc)
  unfold content
  rw [splitRemarks_append hfree]
  dsimp only
  rw [htake, Text.trim_append hne htrim]

end LineFormat
end Ownership
