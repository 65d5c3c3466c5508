import Ownership.Proofs.BlockFormat.Spelling
import Ownership.Proofs.Steps

/-!
# Reading what was written in the block format

Writing fails for exactly the configurations that say something the format has no place for.  What
is written otherwise spells the tokens of the configuration, and the reader takes these tokens apart
in the order in which they were written: all that is lost are the sets without owners.
-/

namespace Ownership
namespace BlockFormat

/-!
# What cannot be written
-/

variable {owner : OwnerRef} {set : OwnerSet} {config : OwnerConfig}

theorem renderOwner_fails_iff : (∃ reason, renderOwner owner = .error reason) ↔ owner.remarks ≠ [] := by
  unfold renderOwner
  cases owner.remarks with
  | nil => simp
  | cons remark remarks => simp

theorem renderSet_fails_iff : (∃ reason, renderSet set = .error reason) ↔
    set.overrides = true ∨ ∃ owner ∈ set.owners, owner.remarks ≠ [] := by
  unfold renderSet
  cases hoverrides : set.overrides with
  | true => simp
  | false =>
      have hlast : (∃ reason, set.owners.mapM renderOwner = .error reason) ↔
          ∃ owner ∈ set.owners, owner.remarks ≠ [] := by
        rw [mapM_fails_iff]
        simp only [renderOwner_fails_iff]
      cases howners : set.owners with
      | nil => simp
      | cons first others =>
          rw [howners] at hlast
          rw [← hlast]
          cases (first :: others).mapM renderOwner with
          | error reason => simp [bind, Except.bind]
          | ok owners => simp [bind, Except.bind, pure, Except.pure]

theorem write_fails_iff : (∃ reason, write config = .error reason) ↔
    config.imports ≠ [] ∨ (∃ set ∈ config.sets, set.overrides = true) ∨
      ∃ set ∈ config.sets, ∃ owner ∈ set.owners, owner.remarks ≠ [] := by
  unfold write
  cases himports : config.imports with
  | cons first others => simp
  | nil =>
      have hsets : (∃ reason, config.sets.mapM renderSet = .error reason) ↔
          (∃ set ∈ config.sets, set.overrides = true) ∨
            ∃ set ∈ config.sets, ∃ owner ∈ set.owners, owner.remarks ≠ [] := by
        rw [mapM_fails_iff]
        simp only [renderSet_fails_iff]
        constructor
        · intro h
          rcases h with ⟨set, hset, hoverrides | howner⟩
          · exact .inl ⟨set, hset, hoverrides⟩
          · exact .inr ⟨set, hset, howner⟩
        · intro h
          rcases h with ⟨set, hset, hoverrides⟩ | ⟨set, hset, howner⟩
          · exact ⟨set, hset, .inl hoverrides⟩
          · exact ⟨set, hset, .inr howner⟩
      have hnone : ¬ (([] : List Import) ≠ []) := fun h => h rfl
      rw [or_iff_right hnone, ← hsets]
      cases config.sets.mapM renderSet with
      | error reason => simp [bind, Except.bind]
      | ok sets => simp [bind, Except.bind, pure, Except.pure]

/-!
# What is written
-/

def ownerText (owner : OwnerRef) : String :=
  "    owners \x7b\n      email: " ++ quoteText owner.email ++ "\n    \x7d\n"

def globText (glob : String) : String := "    path_expressions: " ++ quoteText glob ++ "\n"

def setText (set : OwnerSet) : String :=
  if set.owners.isEmpty then ""
  else
    "  owner_sets \x7b\n" ++ String.join (set.globs.map globText) ++
      String.join (set.owners.map ownerText) ++ "  \x7d\n"

def flagText (ignoresParents : Bool) : String :=
  if ignoresParents then "  ignore_parent_owners: true\n" else ""

theorem renderOwner_of_plain (h : owner.remarks = []) : renderOwner owner = .ok (ownerText owner) := by
  unfold renderOwner
  rw [h]
  rfl

theorem renderSet_of_plain (hoverrides : set.overrides = false)
    (hplain : ∀ owner ∈ set.owners, owner.remarks = []) : renderSet set = .ok (setText set) := by
  unfold renderSet setText
  rw [hoverrides, if_neg Bool.false_ne_true,
    mapM_of_all_ok fun owner howner => renderOwner_of_plain (hplain owner howner)]
  split
  · rfl
  · rfl

theorem plain_of_write {text : String} (h : write config = .ok text) :
    config.imports = [] ∧ (∀ set ∈ config.sets, set.overrides = false) ∧
      ∀ set ∈ config.sets, ∀ owner ∈ set.owners, owner.remarks = [] := by
  have hsound : ¬ ∃ reason, write config = .error reason := by
    intro hfails
    rcases hfails with ⟨reason, hfails⟩
    rw [h] at hfails
    cases hfails
  rw [write_fails_iff, not_or, not_or] at hsound
  rcases hsound with ⟨himports, hoverrides, hremarks⟩
  refine ⟨Decidable.not_not.mp himports, ?_, ?_⟩
  · intro set hset
    rw [← Bool.not_eq_true]
    intro htrue
    exact hoverrides ⟨set, hset, htrue⟩
  · intro set hset owner howner
    apply Decidable.not_not.mp
    intro hsome
    exact hremarks ⟨set, hset, owner, howner, hsome⟩

theorem eq_of_write {text : String} (h : write config = .ok text) :
    text = "owners_config \x7b\n" ++ flagText config.ignoresParents ++
      String.join (config.sets.map setText) ++ "\x7d\n" := by
  rcases plain_of_write h with ⟨himports, hoverrides, hplain⟩
  have hsets : config.sets.mapM renderSet = .ok (config.sets.map setText) :=
    mapM_of_all_ok fun set hset => renderSet_of_plain (hoverrides set hset) (hplain set hset)
  unfold write at h
  rw [himports, hsets] at h
  cases h
  rfl

/-!
# The signs of a configuration
-/

def openSign : Sign := (.mark, "\x7b")

def closeSign : Sign := (.mark, "\x7d")

def colonSign : Sign := (.mark, ":")

def ownerSigns (owner : OwnerRef) : List Sign :=
  [(.word, "owners"), openSign, (.word, "email"), colonSign, (.text, owner.email), closeSign]

def globSigns (glob : String) : List Sign :=
  [(.word, "path_expressions"), colonSign, (.text, glob)]

def setSigns (set : OwnerSet) : List Sign :=
  if set.owners.isEmpty then []
  else
    (.word, "owner_sets") :: openSign ::
      (set.globs.flatMap globSigns ++ set.owners.flatMap ownerSigns ++ [closeSign])

def flagSigns (ignoresParents : Bool) : List Sign :=
  if ignoresParents then [(.word, "ignore_parent_owners"), colonSign, (.word, "true")] else []

def configSigns (config : OwnerConfig) : List Sign :=
  (.word, "owners_config") :: openSign ::
    (flagSigns config.ignoresParents ++ config.sets.flatMap setSigns ++ [closeSign])

theorem spells_keyword (word : String) (hne : word ≠ "")
    (hletters : word.toList.all isWordChar = true) :
    Spells (word.toList ++ [' ']) [(.word, word)] ∧
      Spells (word.toList ++ [':']) [(.word, word), colonSign] := by
  constructor
  · exact spells_word word hne hletters (by decide) spells_space
  · exact spells_word word hne hletters (by decide) (spells_mark rfl)

theorem spells_indent (width : Nat) : Spells (List.replicate width ' ') [] := by
  induction width with
  | zero => exact spells_nil
  | succ width ih => exact spells_space.append ih

theorem spells_openLine : Spells ['{', '\n'] [openSign] :=
  Spells.append (spells_mark rfl) spells_lineFeed

theorem spells_closeLine (width : Nat) :
    Spells (List.replicate width ' ' ++ ['}', '\n']) [closeSign] :=
  (spells_indent width).append (Spells.append (spells_mark rfl) spells_lineFeed)

theorem spells_globText (glob : String) : Spells (globText glob).toList (globSigns glob) := by
  have hpieces : (globText glob).toList = List.replicate 4 ' ' ++
      (("path_expressions".toList ++ [':']) ++ ([' '] ++ ((quoteText glob).toList ++ ['\n']))) := by
    unfold globText
    simp [List.replicate]
  rw [hpieces]
  have hword := (spells_keyword "path_expressions" (by decide) (by decide)).2
  exact (spells_indent 4).append <| hword.append <| spells_space.append <|
    (spells_text glob).append spells_lineFeed

theorem spells_ownerText (owner : OwnerRef) :
    Spells (ownerText owner).toList (ownerSigns owner) := by
  have hpieces : (ownerText owner).toList = List.replicate 4 ' ' ++
      (("owners".toList ++ [' ']) ++ (['{', '\n'] ++ (List.replicate 6 ' ' ++
        (("email".toList ++ [':']) ++ ([' '] ++ ((quoteText owner.email).toList ++
          (['\n'] ++ (List.replicate 4 ' ' ++ ['}', '\n'])))))))) := by
    unfold ownerText
    simp [List.replicate]
  rw [hpieces]
  have howners := (spells_keyword "owners" (by decide) (by decide)).1
  have hemail := (spells_keyword "email" (by decide) (by decide)).2
  exact (spells_indent 4).append <| howners.append <| spells_openLine.append <|
    (spells_indent 6).append <| hemail.append <| spells_space.append <|
      (spells_text owner.email).append <| spells_lineFeed.append (spells_closeLine 4)

theorem spells_setText (set : OwnerSet) : Spells (setText set).toList (setSigns set) := by
  unfold setText setSigns
  split
  · exact spells_nil
  · have hpieces : ("  owner_sets \x7b\n" ++ String.join (set.globs.map globText) ++
        String.join (set.owners.map ownerText) ++ "  \x7d\n").toList =
        List.replicate 2 ' ' ++ (("owner_sets".toList ++ [' ']) ++ (['{', '\n'] ++
          (set.globs.flatMap (fun glob => (globText glob).toList) ++
            set.owners.flatMap (fun owner => (ownerText owner).toList) ++
              (List.replicate 2 ' ' ++ ['}', '\n'])))) := by
      simp [List.replicate, List.flatMap_map]
    rw [hpieces]
    have hword := (spells_keyword "owner_sets" (by decide) (by decide)).1
    have hglobs := spells_flatMap set.globs fun glob _ => spells_globText glob
    have howners := spells_flatMap set.owners fun owner _ => spells_ownerText owner
    exact (spells_indent 2).append <| hword.append <| spells_openLine.append <|
      (hglobs.append howners).append (spells_closeLine 2)

theorem spells_flagText (ignoresParents : Bool) :
    Spells (flagText ignoresParents).toList (flagSigns ignoresParents) := by
  cases ignoresParents with
  | false => exact spells_nil
  | true =>
      have hword := (spells_keyword "ignore_parent_owners" (by decide) (by decide)).2
      have htrue := spells_word "true" (by decide) (by decide) (by decide) spells_lineFeed
      exact (spells_indent 2).append <| hword.append <| spells_space.append htrue

theorem spells_written (config : OwnerConfig) :
    Spells ("owners_config \x7b\n" ++ flagText config.ignoresParents ++
      String.join (config.sets.map setText) ++ "\x7d\n").toList (configSigns config) := by
  have hpieces : ("owners_config \x7b\n" ++ flagText config.ignoresParents ++
      String.join (config.sets.map setText) ++ "\x7d\n").toList =
      ("owners_config".toList ++ [' ']) ++ (['{', '\n'] ++
        ((flagText config.ignoresParents).toList ++
          config.sets.flatMap (fun set => (setText set).toList) ++
            (List.replicate 0 ' ' ++ ['}', '\n']))) := by
    simp [List.flatMap_map]
  rw [hpieces]
  have hword := (spells_keyword "owners_config" (by decide) (by decide)).1
  have hsets := spells_flatMap config.sets fun set _ => spells_setText set
  exact hword.append <| spells_openLine.append <|
    ((spells_flagText config.ignoresParents).append hsets).append (spells_closeLine 0)

theorem tokens_written {text : String} (h : write config = .ok text) :
    ∃ found, found.map Token.sign = configSigns config ∧ tokens text = .ok found := by
  rcases spells_written config 1 [] with ⟨found, later, hfound, hscan⟩
  refine ⟨found, hfound, ?_⟩
  rw [List.append_nil, ← eq_of_write h] at hscan
  unfold tokens
  rw [hscan, tokensFrom]
  simp [Except.map]

/-!
# Reading the signs

The numbers of the lines only show in errors, so each step of the reader goes by the signs.
-/

variable {token keyword : Token} {found rest : List Token}

theorem Token.kind_of_sign {kind : TokenKind} {value : String} (h : token.sign = (kind, value)) :
    token.kind = kind := congrArg Prod.fst h

theorem Token.value_of_sign {kind : TokenKind} {value : String} (h : token.sign = (kind, value)) :
    token.value = value := congrArg Prod.snd h

theorem signs_cons {sign : Sign} {signs : List Sign} (h : found.map Token.sign = sign :: signs) :
    ∃ token others, found = token :: others ∧ token.sign = sign ∧
      others.map Token.sign = signs :=
  List.map_eq_cons_iff.mp h

theorem openBlock_of_sign (h : token.sign = openSign) :
    openBlock (token :: rest) = .ok (token, rest) := by
  have hkind := token.kind_of_sign h
  have hvalue := token.value_of_sign h
  simp [openBlock, Token.isMark, expectValue, hkind, hvalue]

theorem scalar_of_signs {colon : Token} {kind : TokenKind} {value : String}
    (hcolon : colon.sign = colonSign) (htoken : token.sign = (kind, value)) :
    scalar kind (colon :: token :: rest) = .ok (value, rest) := by
  have hfirst : expectValue .mark ":" (colon :: token :: rest) = .ok (colon, token :: rest) :=
    if_pos ⟨Token.kind_of_sign hcolon, Token.value_of_sign hcolon⟩
  have hsecond : expectKind kind (token :: rest) = .ok (token, rest) :=
    if_pos (Token.kind_of_sign htoken)
  unfold scalar
  rw [hfirst]
  change (expectKind kind (token :: rest) >>= _) = _
  rw [hsecond, ← Token.value_of_sign htoken]
  rfl

theorem fieldOrEnd_of_close (h : token.sign = closeSign) :
    fieldOrEnd (token :: rest) = .ok (none, rest) := by
  have hkind := token.kind_of_sign h
  have hvalue := token.value_of_sign h
  simp [fieldOrEnd, Token.isMark, hkind, hvalue]

theorem fieldOrEnd_of_word {word : String} (h : token.sign = (.word, word)) :
    fieldOrEnd (token :: rest) = .ok (some token, rest) := by
  have hkind := token.kind_of_sign h
  simp [fieldOrEnd, Token.isMark, hkind]

/-!
# One field of a block

The fields of the three kinds of block are read by recursion on the rest of the tokens.  What one
field adds, and where the block ends, is said here once for each kind.
-/

variable {behind : List Token} {value : String}

theorem ownerFields_of_end {email : Option String} (h : fieldOrEnd found = .ok (none, rest)) :
    ownerFields email found = .ok (email, rest) := by
  rw [ownerFields]
  split <;> simp_all

theorem ownerFields_of_email {email : Option String}
    (hfield : fieldOrEnd found = .ok (some token, behind)) (hname : token.value = "email")
    (hvalue : scalar .text behind = .ok (value, rest)) :
    ownerFields email found = ownerFields (some value) rest := by
  rw [ownerFields]
  split
  · simp_all
  · simp_all
  · rename_i field after hsame
    rw [hfield] at hsame
    cases hsame
    rw [if_pos hname]
    split
    · simp_all
    · simp_all

theorem setFields_of_end (h : fieldOrEnd found = .ok (none, rest)) :
    setFields set found = .ok (set, rest) := by
  rw [setFields]
  split <;> simp_all

theorem setFields_of_glob (hfield : fieldOrEnd found = .ok (some token, behind))
    (hname : token.value = "path_expressions")
    (hvalue : scalar .text behind = .ok (value, rest)) :
    setFields set found = setFields { set with globs := set.globs ++ [value] } rest := by
  rw [setFields]
  split
  · simp_all
  · simp_all
  · rename_i field after hsame
    rw [hfield] at hsame
    cases hsame
    rw [if_pos hname]
    split
    · simp_all
    · simp_all

theorem setFields_of_owner (hfield : fieldOrEnd found = .ok (some token, behind))
    (hname : token.value = "owners") (howner : ownerBlock token behind = .ok (owner, rest)) :
    setFields set found = setFields { set with owners := set.owners ++ [owner] } rest := by
  rw [setFields]
  split
  · simp_all
  · simp_all
  · rename_i field after hsame
    rw [hfield] at hsame
    cases hsame
    rw [hname, if_neg (by decide), if_pos rfl]
    split
    · simp_all
    · simp_all

variable {fields : Fields}

theorem configFields_of_end (h : fieldOrEnd found = .ok (none, rest)) :
    configFields fields found = .ok (fields, rest) := by
  rw [configFields]
  split <;> simp_all

theorem configFields_of_flag {ignoresParents : Bool}
    (hfield : fieldOrEnd found = .ok (some token, behind))
    (hname : token.value = "ignore_parent_owners")
    (hvalue : scalar .word behind = .ok (value, rest))
    (htruth : truthValue token value = .ok ignoresParents) :
    configFields fields found = configFields { fields with ignoresParents } rest := by
  rw [configFields]
  split
  · simp_all
  · simp_all
  · rename_i field after hsame
    rw [hfield] at hsame
    cases hsame
    rw [if_pos hname]
    split
    · simp_all
    · rename_i answer last hlast
      rw [hvalue] at hlast
      cases hlast
      rw [htruth]

theorem configFields_of_set (hfield : fieldOrEnd found = .ok (some token, behind))
    (hname : token.value = "owner_sets") (hset : setBlock behind = .ok (set, rest)) :
    configFields fields found =
      if set.owners.isEmpty then configFields fields rest
      else configFields { fields with sets := fields.sets ++ [set] } rest := by
  rw [configFields]
  split
  · simp_all
  · simp_all
  · rename_i field after hsame
    rw [hfield] at hsame
    cases hsame
    rw [hname, if_neg (by decide), if_pos rfl]
    split
    · simp_all
    · simp_all

/-!
# Whole blocks
-/

theorem ownerBlock_of_signs (h : found.map Token.sign = (ownerSigns owner).tail)
    (hplain : owner.remarks = []) : ownerBlock keyword (found ++ rest) = .ok (owner, rest) := by
  rcases signs_cons h with ⟨brace, found, rfl, hbrace, h⟩
  rcases signs_cons h with ⟨email, found, rfl, hemail, h⟩
  rcases signs_cons h with ⟨colon, found, rfl, hcolon, h⟩
  rcases signs_cons h with ⟨text, found, rfl, htext, h⟩
  rcases signs_cons h with ⟨last, found, rfl, hlast, h⟩
  rw [List.map_eq_nil_iff] at h
  subst h
  have hfields : ownerFields none (email :: colon :: text :: last :: rest) =
      .ok (some owner.email, rest) := by
    rw [ownerFields_of_email (fieldOrEnd_of_word hemail) (Token.value_of_sign hemail)
      (scalar_of_signs hcolon htext)]
    exact ownerFields_of_end (fieldOrEnd_of_close hlast)
  unfold ownerBlock
  change (openBlock (brace :: email :: colon :: text :: last :: rest) >>= _) = _
  rw [openBlock_of_sign hbrace]
  change (ownerFields none (email :: colon :: text :: last :: rest) >>= _) = _
  rw [hfields]
  cases owner with
  | mk email remarks =>
      cases hplain
      rfl

theorem setFields_of_globs {globs : List String} (h : found.map Token.sign = globs.flatMap globSigns) :
    setFields set (found ++ rest) = setFields { set with globs := set.globs ++ globs } rest := by
  induction globs generalizing found set with
  | nil =>
      rw [List.flatMap_nil, List.map_eq_nil_iff] at h
      rw [h, List.append_nil]
      rfl
  | cons glob globs ih =>
      rcases signs_cons h with ⟨word, found, rfl, hword, h⟩
      rcases signs_cons h with ⟨colon, found, rfl, hcolon, h⟩
      rcases signs_cons h with ⟨text, found, rfl, htext, h⟩
      change setFields set (word :: colon :: text :: (found ++ rest)) = _
      rw [setFields_of_glob (fieldOrEnd_of_word hword) (Token.value_of_sign hword)
        (scalar_of_signs hcolon htext), ih h, List.append_assoc]
      rfl

theorem setFields_of_owners {owners : List OwnerRef}
    (h : found.map Token.sign = owners.flatMap ownerSigns)
    (hplain : ∀ owner ∈ owners, owner.remarks = []) :
    setFields set (found ++ rest) = setFields { set with owners := set.owners ++ owners } rest := by
  induction owners generalizing found set with
  | nil =>
      rw [List.flatMap_nil, List.map_eq_nil_iff] at h
      rw [h, List.append_nil]
      rfl
  | cons owner owners ih =>
      rw [List.flatMap_cons, List.map_eq_append_iff] at h
      rcases h with ⟨first, others, rfl, hfirst, h⟩
      rcases signs_cons hfirst with ⟨word, inner, rfl, hword, hinner⟩
      rw [List.append_assoc, List.cons_append]
      have hblock : ownerBlock word (inner ++ (others ++ rest)) = .ok (owner, others ++ rest) :=
        ownerBlock_of_signs hinner (hplain owner List.mem_cons_self)
      rw [setFields_of_owner (fieldOrEnd_of_word hword) (Token.value_of_sign hword) hblock,
        ih h fun other hother => hplain other (List.mem_cons_of_mem owner hother),
        List.append_assoc]
      rfl

theorem setBlock_of_signs (h : found.map Token.sign =
      openSign :: (set.globs.flatMap globSigns ++ set.owners.flatMap ownerSigns ++ [closeSign]))
    (hoverrides : set.overrides = false) (hplain : ∀ owner ∈ set.owners, owner.remarks = []) :
    setBlock (found ++ rest) = .ok (set, rest) := by
  rcases signs_cons h with ⟨brace, found, rfl, hbrace, h⟩
  rw [List.append_assoc, List.map_eq_append_iff] at h
  rcases h with ⟨globs, found, rfl, hglobs, h⟩
  rw [List.map_eq_append_iff] at h
  rcases h with ⟨owners, found, rfl, howners, h⟩
  rcases signs_cons h with ⟨last, found, rfl, hlast, h⟩
  rw [List.map_eq_nil_iff] at h
  subst h
  unfold setBlock
  change (openBlock (brace :: (globs ++ (owners ++ [last]) ++ rest)) >>= _) = _
  rw [openBlock_of_sign hbrace]
  change setFields {} (globs ++ (owners ++ [last]) ++ rest) = _
  rw [List.append_assoc, setFields_of_globs hglobs, List.append_assoc,
    setFields_of_owners howners hplain]
  change setFields _ (last :: rest) = _
  rw [setFields_of_end (fieldOrEnd_of_close hlast)]
  cases set with
  | mk globs owners overrides =>
      cases hoverrides
      rfl

theorem configFields_of_sets {sets : List OwnerSet}
    (h : found.map Token.sign = sets.flatMap setSigns)
    (hoverrides : ∀ set ∈ sets, set.overrides = false)
    (hplain : ∀ set ∈ sets, ∀ owner ∈ set.owners, owner.remarks = []) :
    configFields fields (found ++ rest) = configFields
      { fields with sets := fields.sets ++ sets.filter fun set => !set.owners.isEmpty } rest := by
  induction sets generalizing found fields with
  | nil =>
      rw [List.flatMap_nil, List.map_eq_nil_iff] at h
      rw [h, List.filter_nil, List.append_nil]
      rfl
  | cons set sets ih =>
      have hothers : ∀ other ∈ sets, other.overrides = false :=
        fun other hother => hoverrides other (List.mem_cons_of_mem set hother)
      have hplainOthers : ∀ other ∈ sets, ∀ owner ∈ other.owners, owner.remarks = [] :=
        fun other hother => hplain other (List.mem_cons_of_mem set hother)
      rw [List.flatMap_cons] at h
      by_cases hempty : set.owners = []
      · -- a set without owners spells nothing
        have hsilent : setSigns set = [] := by
          unfold setSigns
          rw [hempty]
          rfl
        rw [hsilent, List.nil_append] at h
        rw [ih h hothers hplainOthers, List.filter_cons_of_neg (by simp [hempty])]
      · have hsigns : setSigns set = (.word, "owner_sets") :: openSign ::
            (set.globs.flatMap globSigns ++ set.owners.flatMap ownerSigns ++ [closeSign]) := by
          unfold setSigns
          rw [if_neg (by simp [hempty])]
        rw [List.map_eq_append_iff] at h
        rcases h with ⟨first, others, rfl, hfirst, h⟩
        rw [hsigns] at hfirst
        rcases signs_cons hfirst with ⟨word, inner, rfl, hword, hinner⟩
        have hblock : setBlock (inner ++ (others ++ rest)) = .ok (set, others ++ rest) :=
          setBlock_of_signs hinner (hoverrides set List.mem_cons_self)
            (hplain set List.mem_cons_self)
        rw [List.append_assoc, List.cons_append,
          configFields_of_set (fieldOrEnd_of_word hword) (Token.value_of_sign hword) hblock,
          if_neg (by simp [hempty]), ih h hothers hplainOthers, List.append_assoc,
          List.filter_cons_of_pos (by simp [hempty])]
        rfl

theorem configFields_of_flagSigns {ignoresParents : Bool}
    (h : found.map Token.sign = flagSigns ignoresParents) :
    configFields {} (found ++ rest) = configFields { ignoresParents } rest := by
  cases ignoresParents with
  | false =>
      rw [show flagSigns false = [] from rfl, List.map_eq_nil_iff] at h
      rw [h]
      rfl
  | true =>
      rcases signs_cons h with ⟨word, found, rfl, hword, h⟩
      rcases signs_cons h with ⟨colon, found, rfl, hcolon, h⟩
      rcases signs_cons h with ⟨answer, found, rfl, hanswer, h⟩
      rw [List.map_eq_nil_iff] at h
      subst h
      exact configFields_of_flag (fieldOrEnd_of_word hword) (Token.value_of_sign hword)
        (scalar_of_signs hcolon hanswer) rfl

theorem readFields_of_signs (h : found.map Token.sign = configSigns config)
    (hoverrides : ∀ set ∈ config.sets, set.overrides = false)
    (hplain : ∀ set ∈ config.sets, ∀ owner ∈ set.owners, owner.remarks = []) :
    readFields found = .ok {
      ignoresParents := config.ignoresParents
      sets := config.sets.filter fun set => !set.owners.isEmpty } := by
  rcases signs_cons h with ⟨word, found, rfl, hword, h⟩
  rcases signs_cons h with ⟨brace, found, rfl, hbrace, h⟩
  rw [List.append_assoc, List.map_eq_append_iff] at h
  rcases h with ⟨flag, found, rfl, hflag, h⟩
  rw [List.map_eq_append_iff] at h
  rcases h with ⟨sets, found, rfl, hsets, h⟩
  rcases signs_cons h with ⟨last, found, rfl, hlast, h⟩
  rw [List.map_eq_nil_iff] at h
  subst h
  have hfirst : expectValue .word "owners_config" (word :: brace :: (flag ++ (sets ++ [last]))) =
      .ok (word, brace :: (flag ++ (sets ++ [last]))) :=
    if_pos ⟨Token.kind_of_sign hword, Token.value_of_sign hword⟩
  have hfields : configFields {} (flag ++ (sets ++ [last])) = .ok ({
      ignoresParents := config.ignoresParents
      sets := config.sets.filter fun set => !set.owners.isEmpty }, []) := by
    rw [configFields_of_flagSigns hflag, configFields_of_sets hsets hoverrides hplain]
    exact configFields_of_end (fieldOrEnd_of_close hlast)
  unfold readFields
  rw [hfirst]
  change (openBlock (brace :: (flag ++ (sets ++ [last]))) >>= _) = _
  rw [openBlock_of_sign hbrace]
  change (configFields {} (flag ++ (sets ++ [last])) >>= _) = _
  rw [hfields]
  rfl

/-!
# The round trip
-/

theorem read_of_write {text : String} (h : write config = .ok text) :
    read config.key text = .ok
      { config with sets := config.sets.filter fun set => !set.owners.isEmpty } := by
  rcases plain_of_write h with ⟨himports, hoverrides, hplain⟩
  rcases tokens_written h with ⟨found, hfound, htokens⟩
  have hfields := readFields_of_signs hfound hoverrides hplain
  unfold read
  rw [htokens]
  change (readFields found >>= _) = _
  rw [hfields]
  cases config with
  | mk key ignoresParents sets imports =>
      cases himports
      rfl

/-- Writing fails for imports, overriding sets and remarks, and for nothing else.  What is written
reads as the configuration without the sets that have no owners. -/
theorem write_fails_or_reads_back (config : OwnerConfig) :
    ((∃ reason, write config = .error reason) ↔
      config.imports ≠ [] ∨ (∃ set ∈ config.sets, set.overrides = true) ∨
        ∃ set ∈ config.sets, ∃ owner ∈ set.owners, owner.remarks ≠ []) ∧
    ∀ text, write config = .ok text → read config.key text = .ok
      { config with sets := config.sets.filter fun set => !set.owners.isEmpty } := by
  constructor
  · exact write_fails_iff
  · intro text h
    exact read_of_write h

/-- Marks of the format inside its texts, control characters, an empty email, the same owner twice,
and a set without owners. -/
def awkwardConfig : OwnerConfig where
  key := { project := "village", branch := "main" }
  ignoresParents := true
  sets := [
    { globs := ["*.md", "a\"b\\\n#\x7b"]
      owners := [{ email := "ann\t@village" }, { email := "" }, { email := "" }] },
    { globs := ["nobody"] }]

theorem awkwardConfig_reads_back : ∃ text, write awkwardConfig = .ok text ∧
    read awkwardConfig.key text = .ok
      { awkwardConfig with sets := awkwardConfig.sets.take 1 } := by
  have hwritten : (write awkwardConfig).toOption.isSome = true := by decide +kernel
  cases h : write awkwardConfig with
  | error reason =>
      rw [h] at hwritten
      cases hwritten
  | ok text => exact ⟨text, rfl, (write_fails_or_reads_back awkwardConfig).2 text h⟩

end BlockFormat
end Ownership
