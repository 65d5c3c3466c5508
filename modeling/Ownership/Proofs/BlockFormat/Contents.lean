import Ownership.BlockFormat.Reader

/-!
# What a text in the block format can say

The format has neither imports nor remarks nor sets that override, so whatever text is read, the
configuration has none of them.
-/

namespace Ownership
namespace BlockFormat

variable {set : OwnerSet} {key : ConfigKey} {config : OwnerConfig} {text : String}

/-- Nothing but path expressions and emails. -/
structure PlainSet (set : OwnerSet) : Prop where
  overrides : set.overrides = false
  remarks : ∀ owner ∈ set.owners, owner.remarks = []

theorem remarks_of_ownerBlock {keyword : Token} {tokens rest : List Token} {owner : OwnerRef}
    (h : ownerBlock keyword tokens = .ok (owner, rest)) : owner.remarks = [] := by
  simp only [ownerBlock, bind, Except.bind, pure, Except.pure] at h
  split at h
  · cases h
  split at h
  · cases h
  split at h
  · cases h
    rfl
  · cases h

theorem plainSet_of_setFields {result : OwnerSet} {tokens rest : List Token} (hset : PlainSet set)
    (h : setFields set tokens = .ok (result, rest)) : PlainSet result := by
  fun_induction setFields set tokens with
  | case1 => cases h
  | case2 set tokens behind hfield =>
      cases h
      exact hset
  | case3 => cases h
  | case4 set tokens field behind hfield hname glob after hvalue ih =>
      exact ih ⟨hset.overrides, hset.remarks⟩ h
  | case5 => cases h
  | case6 set tokens field behind hfield hname hname' owner after howner ih =>
      apply ih ⟨hset.overrides, ?_⟩ h
      intro other hother
      rcases List.mem_append.mp hother with hold | hsame
      · exact hset.remarks other hold
      · rw [List.mem_singleton.mp hsame]
        exact remarks_of_ownerBlock howner
  | case7 => cases h

theorem plainSet_of_setBlock {tokens rest : List Token} (h : setBlock tokens = .ok (set, rest)) :
    PlainSet set := by
  simp only [setBlock, bind, Except.bind] at h
  split at h
  · cases h
  · apply plainSet_of_setFields ⟨rfl, ?_⟩ h
    intro owner howner
    cases howner

theorem plainSets_of_configFields {fields result : Fields} {tokens rest : List Token}
    (hfields : ∀ set ∈ fields.sets, PlainSet set)
    (h : configFields fields tokens = .ok (result, rest)) : ∀ set ∈ result.sets, PlainSet set := by
  fun_induction configFields fields tokens with
  | case1 => cases h
  | case2 fields tokens behind hfield =>
      cases h
      exact hfields
  | case3 => cases h
  | case4 => cases h
  | case5 fields tokens field behind hfield hname value after hvalue ignoresParents htruth ih =>
      exact ih hfields h
  | case6 => cases h
  | case7 fields tokens field behind hfield hname hname' set after hset hempty ih =>
      exact ih hfields h
  | case8 fields tokens field behind hfield hname hname' set after hset hsome ih =>
      apply ih ?_ h
      intro other hother
      rcases List.mem_append.mp hother with hold | hsame
      · exact hfields other hold
      · rw [List.mem_singleton.mp hsame]
        exact plainSet_of_setBlock hset
  | case9 => cases h

theorem plainSets_of_readFields {found : List Token} {fields : Fields}
    (h : readFields found = .ok fields) : ∀ set ∈ fields.sets, PlainSet set := by
  have hnone : ∀ set ∈ ({} : Fields).sets, PlainSet set := by
    intro set hset
    cases hset
  simp only [readFields, bind, Except.bind, pure, Except.pure] at h
  split at h
  · cases h
    exact hnone
  split at h
  · cases h
  split at h
  · cases h
  split at h
  · cases h
  · rename_i result hresult
    have hplain := plainSets_of_configFields hnone hresult
    split at h
    · cases h
      exact hplain
    · cases h

theorem plain_of_read (h : read key text = .ok config) :
    config.key = key ∧ config.imports = [] ∧ ∀ set ∈ config.sets, PlainSet set := by
  simp only [read, bind, Except.bind, pure, Except.pure] at h
  split at h
  · cases h
  split at h
  · cases h
  · rename_i fields hfields
    cases h
    exact ⟨rfl, rfl, plainSets_of_readFields hfields⟩

end BlockFormat
end Ownership
