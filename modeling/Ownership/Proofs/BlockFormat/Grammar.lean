import Ownership.Proofs.BlockFormat.RoundTrip
import Ownership.Proofs.BlockFormat.Scanning

/-!
# The grammar of the block format

The grammar is written down as derivations of rows of signs, each of which carries the fields it was
made from; what the fields mean is said beside it.  Every reading function takes a derivation
of its own kind off the front of the tokens, and takes off nothing that is not one, so a text can be
read if and only if it comes apart into tokens that are derived, and reads as what its fields mean.
-/

namespace Ownership
namespace BlockFormat

/-!
# Derivations
-/

inductive SetField
  | glob (pattern : String)
  | owner (emails : List String)

inductive ConfigField
  | flag (ignoresParents : Bool)
  | set (fields : List SetField)

def emailSigns (email : String) : List Sign := [(.word, "email"), colonSign, (.text, email)]

def truthWord (ignoresParents : Bool) : String := if ignoresParents then "true" else "false"

inductive Opening : List Sign → Prop
  | plain : Opening [openSign]
  | colon : Opening [colonSign, openSign]

inductive Row {α : Type} (Derives : α → List Sign → Prop) : List α → List Sign → Prop
  | nil : Row Derives [] []
  | cons {x : α} {xs : List α} {front signs : List Sign} (h : Derives x front)
      (hs : Row Derives xs signs) : Row Derives (x :: xs) (front ++ signs)

inductive SetField.Derives : SetField → List Sign → Prop
  | glob (pattern : String) : SetField.Derives (.glob pattern) (globSigns pattern)
  | owner {emails : List String} {opening : List Sign} (hopen : Opening opening)
      (hsome : emails ≠ []) : SetField.Derives (.owner emails)
        ((.word, "owners") :: (opening ++ (emails.flatMap emailSigns ++ [closeSign])))

inductive ConfigField.Derives : ConfigField → List Sign → Prop
  | flag (ignoresParents : Bool) : ConfigField.Derives (.flag ignoresParents)
      [(.word, "ignore_parent_owners"), colonSign, (.word, truthWord ignoresParents)]
  | set {fields : List SetField} {opening signs : List Sign} (hopen : Opening opening)
      (hfields : Row SetField.Derives fields signs) : ConfigField.Derives (.set fields)
        ((.word, "owner_sets") :: (opening ++ (signs ++ [closeSign])))

inductive DerivesConfig : List ConfigField → List Sign → Prop
  | block {fields : List ConfigField} {opening signs : List Sign} (hopen : Opening opening)
      (hfields : Row ConfigField.Derives fields signs) : DerivesConfig fields
        ((.word, "owners_config") :: (opening ++ (signs ++ [closeSign])))

/-!
# What the fields mean
-/

def SetField.glob? : SetField → Option String
  | .glob pattern => some pattern
  | .owner _ => none

/-- Of the emails of an owner the last counts. -/
def SetField.owner? : SetField → Option OwnerRef
  | .glob _ => none
  | .owner emails => emails.getLast?.map fun email => { email }

def setOf (fields : List SetField) : OwnerSet where
  globs := fields.filterMap SetField.glob?
  owners := fields.filterMap SetField.owner?

def ConfigField.flag? : ConfigField → Option Bool
  | .flag ignoresParents => some ignoresParents
  | .set _ => none

def ConfigField.set? : ConfigField → Option OwnerSet
  | .flag _ => none
  | .set fields => some (setOf fields)

/-- Of the flags the last counts, and sets without owners do not. -/
def configOf (key : ConfigKey) (fields : List ConfigField) : OwnerConfig where
  key := key
  ignoresParents := (fields.filterMap ConfigField.flag?).getLast?.getD false
  sets := (fields.filterMap ConfigField.set?).filter fun set => !set.owners.isEmpty

variable {token keyword : Token} {found rest behind after : List Token} {sign : Sign}
  {signs others : List Sign} {kind : TokenKind} {value word : String}
  {email result : Option String} {owner : OwnerRef} {set final : OwnerSet}

/-!
# What stands at the front
-/

/-- The tokens begin with the signs, and these tokens are left behind them. -/
def Begins (found : List Token) (signs : List Sign) (rest : List Token) : Prop :=
  ∃ used, found = used ++ rest ∧ used.map Token.sign = signs

theorem begins_nil : Begins found [] rest ↔ found = rest := by
  constructor
  · intro h
    rcases h with ⟨used, rfl, hused⟩
    rw [List.map_eq_nil_iff.mp hused, List.nil_append]
  · intro h
    exact ⟨[], h, rfl⟩

theorem begins_cons : Begins found (sign :: signs) rest ↔
    ∃ token behind, found = token :: behind ∧ token.sign = sign ∧ Begins behind signs rest := by
  constructor
  · intro h
    rcases h with ⟨used, rfl, hused⟩
    rcases signs_cons hused with ⟨token, others, rfl, hsign, hothers⟩
    exact ⟨token, others ++ rest, rfl, hsign, others, rfl, hothers⟩
  · intro h
    rcases h with ⟨token, behind, rfl, hsign, used, rfl, hused⟩
    refine ⟨token :: used, rfl, ?_⟩
    rw [List.map_cons, hsign, hused]

theorem begins_append : Begins found (signs ++ others) rest ↔
    ∃ behind, Begins found signs behind ∧ Begins behind others rest := by
  constructor
  · intro h
    rcases h with ⟨used, rfl, hused⟩
    rcases List.map_eq_append_iff.mp hused with ⟨first, second, rfl, hfirst, hsecond⟩
    exact ⟨second ++ rest, ⟨first, List.append_assoc first second rest, hfirst⟩,
      second, rfl, hsecond⟩
  · intro h
    rcases h with ⟨behind, ⟨first, rfl, hfirst⟩, second, rfl, hsecond⟩
    refine ⟨first ++ second, (List.append_assoc first second rest).symm, ?_⟩
    rw [List.map_append, hfirst, hsecond]

theorem begins_all : Begins found signs [] ↔ found.map Token.sign = signs := by
  simp [Begins]

theorem Token.sign_eq_iff :
    token.sign = (kind, value) ↔ token.kind = kind ∧ token.value = value := by
  simp [Token.sign]

theorem Token.isMark_iff : token.isMark value = true ↔ token.sign = (.mark, value) := by
  simp [Token.isMark, Token.sign_eq_iff]

/-!
# Single pieces
-/

theorem expectValue_iff : expectValue kind value found = .ok (token, rest) ↔
    found = token :: rest ∧ token.sign = (kind, value) := by
  rw [Token.sign_eq_iff]
  cases found with
  | nil => simp [expectValue]
  | cons first behind => grind [expectValue]

theorem expectKind_iff : expectKind kind found = .ok (token, rest) ↔
    found = token :: rest ∧ token.kind = kind := by
  cases found with
  | nil => simp [expectKind]
  | cons first behind => grind [expectKind]

theorem begins_scalar : Begins found (colonSign :: (kind, value) :: signs) rest ↔
    ∃ behind, scalar kind found = .ok (value, behind) ∧ Begins behind signs rest := by
  simp only [begins_cons]
  constructor
  · intro h
    rcases h with ⟨colon, _, rfl, hcolon, token, behind, rfl, htoken, h⟩
    exact ⟨behind, scalar_of_signs hcolon htoken, h⟩
  · intro h
    rcases h with ⟨behind, hscalar, h⟩
    rcases except_bind_eq_ok.mp hscalar with ⟨⟨colon, after⟩, hfirst, hscalar⟩
    rcases except_bind_eq_ok.mp hscalar with ⟨⟨token, last⟩, hsecond, hscalar⟩
    cases hscalar
    rcases expectValue_iff.mp hfirst with ⟨rfl, hcolon⟩
    rcases expectKind_iff.mp hsecond with ⟨rfl, hkind⟩
    exact ⟨colon, _, rfl, hcolon, token, _, rfl, Token.sign_eq_iff.mpr ⟨hkind, rfl⟩, h⟩

theorem begins_opening : (∃ opening, Opening opening ∧ Begins found (opening ++ signs) rest) ↔
    ∃ token behind, openBlock found = .ok (token, behind) ∧ Begins behind signs rest := by
  constructor
  · intro h
    rcases h with ⟨opening, hopen, h⟩
    cases hopen with
    | plain =>
        rcases begins_cons.mp h with ⟨brace, behind, rfl, hbrace, h⟩
        exact ⟨brace, behind, openBlock_of_sign hbrace, h⟩
    | colon =>
        rcases begins_cons.mp h with ⟨colon, _, rfl, hcolon, h⟩
        rcases begins_cons.mp h with ⟨brace, behind, rfl, hbrace, h⟩
        refine ⟨brace, behind, ?_, h⟩
        rw [openBlock, if_pos (Token.isMark_iff.mpr hcolon)]
        exact expectValue_iff.mpr ⟨rfl, hbrace⟩
  · intro h
    rcases h with ⟨brace, behind, hopen, h⟩
    cases found with
    | nil => cases hopen
    | cons first others =>
        simp only [openBlock] at hopen
        split at hopen
        · rename_i hcolon
          rcases expectValue_iff.mp hopen with ⟨rfl, hbrace⟩
          exact ⟨_, .colon, begins_cons.mpr ⟨first, _, rfl, Token.isMark_iff.mp hcolon,
            begins_cons.mpr ⟨brace, behind, rfl, hbrace, h⟩⟩⟩
        · rcases expectValue_iff.mp hopen with ⟨hfound, hbrace⟩
          exact ⟨_, .plain, begins_cons.mpr ⟨brace, behind, hfound, hbrace, h⟩⟩

theorem begins_end : Begins found [closeSign] rest ↔ fieldOrEnd found = .ok (none, rest) := by
  simp only [begins_cons, begins_nil]
  constructor
  · intro h
    rcases h with ⟨token, behind, rfl, hclose, rfl⟩
    exact fieldOrEnd_of_close hclose
  · intro h
    cases found with
    | nil => cases h
    | cons first behind =>
        simp only [fieldOrEnd] at h
        split at h
        · rename_i hclose
          cases h
          exact ⟨first, rest, rfl, Token.isMark_iff.mp hclose, rfl⟩
        · split at h
          · cases h
          · cases h

theorem begins_field : Begins found ((.word, word) :: signs) rest ↔
    ∃ token behind, fieldOrEnd found = .ok (some token, behind) ∧ token.value = word ∧
      Begins behind signs rest := by
  rw [begins_cons]
  constructor
  · intro h
    rcases h with ⟨token, behind, rfl, hword, h⟩
    exact ⟨token, behind, fieldOrEnd_of_word hword, Token.value_of_sign hword, h⟩
  · intro h
    rcases h with ⟨token, behind, hfield, rfl, h⟩
    cases found with
    | nil => cases hfield
    | cons first others =>
        simp only [fieldOrEnd] at hfield
        split at hfield
        · cases hfield
        · split at hfield
          · rename_i hword
            cases hfield
            exact ⟨token, behind, rfl, Token.sign_eq_iff.mpr ⟨hword, rfl⟩, h⟩
          · cases hfield

theorem truthValue_iff {ignoresParents : Bool} :
    truthValue keyword value = .ok ignoresParents ↔ value = truthWord ignoresParents := by
  unfold truthValue truthWord
  cases ignoresParents with
  | false => grind
  | true => grind

/-!
# Owners
-/

theorem getLast?_cons_or {emails : List String} :
    (value :: emails).getLast?.or email = emails.getLast?.or (some value) := by
  rw [List.getLast?_cons]
  cases emails.getLast? with
  | none => rfl
  | some last => rfl

theorem ownerFields_iff : ownerFields email found = .ok (result, rest) ↔
    ∃ emails : List String, Begins found (emails.flatMap emailSigns ++ [closeSign]) rest ∧
      result = emails.getLast?.or email := by
  constructor
  · intro h
    fun_induction ownerFields email found with
    | case1 => cases h
    | case2 email found behind hfield =>
        cases h
        exact ⟨[], begins_end.mpr hfield, rfl⟩
    | case3 => cases h
    | case4 email found field behind hfield hname value after hvalue ih =>
        rcases ih h with ⟨emails, hbegins, rfl⟩
        exact ⟨value :: emails, begins_field.mpr ⟨field, behind, hfield, hname,
          begins_scalar.mpr ⟨after, hvalue, hbegins⟩⟩, getLast?_cons_or.symm⟩
    | case5 => cases h
  · intro h
    rcases h with ⟨emails, hbegins, rfl⟩
    induction emails generalizing email found with
    | nil => exact ownerFields_of_end (begins_end.mp hbegins)
    | cons value emails ih =>
        rcases begins_field.mp hbegins with ⟨field, behind, hfield, hname, hbegins⟩
        rcases begins_scalar.mp hbegins with ⟨after, hvalue, hbegins⟩
        rw [ownerFields_of_email hfield hname hvalue, ih hbegins, getLast?_cons_or]

theorem ownerBlock_iff : ownerBlock keyword found = .ok (owner, rest) ↔
    ∃ opening, Opening opening ∧ ∃ emails : List String,
      Begins found (opening ++ (emails.flatMap emailSigns ++ [closeSign])) rest ∧
        (SetField.owner emails).owner? = some owner := by
  constructor
  · intro h
    rcases except_bind_eq_ok.mp h with ⟨⟨brace, behind⟩, hopen, h⟩
    rcases except_bind_eq_ok.mp h with ⟨⟨email, after⟩, hfields, h⟩
    cases email with
    | none => cases h
    | some email =>
        cases h
        rcases ownerFields_iff.mp hfields with ⟨emails, hbegins, hlast⟩
        rw [Option.or_none] at hlast
        rcases begins_opening.mpr ⟨brace, behind, hopen, hbegins⟩ with ⟨opening, hopening, hblock⟩
        refine ⟨opening, hopening, emails, hblock, ?_⟩
        exact Option.map_eq_some_iff.mpr ⟨email, hlast.symm, rfl⟩
  · intro h
    rcases h with ⟨opening, hopening, emails, hblock, howner⟩
    rcases Option.map_eq_some_iff.mp howner with ⟨email, hlast, rfl⟩
    rcases begins_opening.mp ⟨opening, hopening, hblock⟩ with ⟨brace, behind, hopen, hbegins⟩
    have hfields : ownerFields none behind = .ok (some email, rest) := by
      apply ownerFields_iff.mpr
      refine ⟨emails, hbegins, ?_⟩
      rw [hlast]
      rfl
    exact except_bind_eq_ok.mpr ⟨(brace, behind), hopen,
      except_bind_eq_ok.mpr ⟨(some email, rest), hfields, rfl⟩⟩

/-!
# Sets
-/

def setAfter (set : OwnerSet) (fields : List SetField) : OwnerSet :=
  { set with
    globs := set.globs ++ (setOf fields).globs
    owners := set.owners ++ (setOf fields).owners }

theorem setAfter_nil : setAfter set [] = set := by simp [setAfter, setOf]

theorem setAfter_glob {pattern : String} {fields : List SetField} :
    setAfter set (.glob pattern :: fields) =
      setAfter { set with globs := set.globs ++ [pattern] } fields := by
  simp [setAfter, setOf, List.filterMap_cons, SetField.glob?, SetField.owner?]

theorem setAfter_owner {emails : List String} {fields : List SetField}
    (h : (SetField.owner emails).owner? = some owner) : setAfter set (.owner emails :: fields) =
      setAfter { set with owners := set.owners ++ [owner] } fields := by
  simp [setAfter, setOf, List.filterMap_cons, SetField.glob?, h]

theorem setFields_iff : setFields set found = .ok (final, rest) ↔
    ∃ fields signs, Row SetField.Derives fields signs ∧ Begins found (signs ++ [closeSign]) rest ∧
      final = setAfter set fields := by
  constructor
  · intro h
    fun_induction setFields set found with
    | case1 => cases h
    | case2 set found behind hfield =>
        cases h
        exact ⟨[], [], .nil, begins_end.mpr hfield, setAfter_nil.symm⟩
    | case3 => cases h
    | case4 set found field behind hfield hname glob after hvalue ih =>
        rcases ih h with ⟨fields, signs, hfields, hbegins, rfl⟩
        refine ⟨.glob glob :: fields, _, .cons (.glob glob) hfields, ?_, setAfter_glob.symm⟩
        exact begins_field.mpr ⟨field, behind, hfield, hname,
          begins_scalar.mpr ⟨after, hvalue, hbegins⟩⟩
    | case5 => cases h
    | case6 set found field behind hfield hglob hname owner after howner ih =>
        rcases ih h with ⟨fields, signs, hfields, hbegins, rfl⟩
        rcases ownerBlock_iff.mp howner with ⟨opening, hopen, emails, hblock, hlast⟩
        have hsome : emails ≠ [] := by
          rintro rfl
          cases hlast
        refine ⟨.owner emails :: fields, _, .cons (.owner hopen hsome) hfields, ?_,
          (setAfter_owner hlast).symm⟩
        rw [List.append_assoc]
        exact begins_field.mpr ⟨field, behind, hfield, hname,
          begins_append.mpr ⟨after, hblock, hbegins⟩⟩
    | case7 => cases h
  · intro h
    rcases h with ⟨fields, signs, hfields, hbegins, rfl⟩
    induction hfields generalizing set found with
    | nil => rw [setFields_of_end (begins_end.mp hbegins), setAfter_nil]
    | @cons field fields front signs hfield hfields ih =>
        rw [List.append_assoc, begins_append] at hbegins
        rcases hbegins with ⟨after, hfront, hbegins⟩
        cases hfield with
        | glob glob =>
            rcases begins_field.mp hfront with ⟨field, behind, hfield, hname, hfront⟩
            rcases begins_scalar.mp hfront with ⟨_, hvalue, hend⟩
            rw [begins_nil] at hend
            rw [setFields_of_glob hfield hname hvalue, hend, ih hbegins, setAfter_glob]
        | @owner emails opening hopen hsome =>
            rcases begins_field.mp hfront with ⟨field, behind, hfield, hname, hfront⟩
            rcases Option.ne_none_iff_exists'.mp (mt List.getLast?_eq_none_iff.mp hsome) with
              ⟨email, hlast⟩
            have howner : (SetField.owner emails).owner? = some { email } := by
              rw [SetField.owner?, hlast]
              rfl
            have hblock : ownerBlock field behind = .ok ({ email }, after) :=
              ownerBlock_iff.mpr ⟨opening, hopen, emails, hfront, howner⟩
            rw [setFields_of_owner hfield hname hblock, ih hbegins, setAfter_owner howner]

theorem setBlock_iff : setBlock found = .ok (set, rest) ↔
    ∃ opening, Opening opening ∧ ∃ fields signs, Row SetField.Derives fields signs ∧
      Begins found (opening ++ (signs ++ [closeSign])) rest ∧ set = setOf fields := by
  have hfresh (fields : List SetField) : setAfter {} fields = setOf fields := by
    simp [setAfter, setOf]
  constructor
  · intro h
    rcases except_bind_eq_ok.mp h with ⟨⟨brace, behind⟩, hopen, h⟩
    rcases setFields_iff.mp h with ⟨fields, signs, hfields, hbegins, rfl⟩
    rcases begins_opening.mpr ⟨brace, behind, hopen, hbegins⟩ with ⟨opening, hopening, hblock⟩
    exact ⟨opening, hopening, fields, signs, hfields, hblock, hfresh fields⟩
  · intro h
    rcases h with ⟨opening, hopening, fields, signs, hfields, hblock, rfl⟩
    rcases begins_opening.mp ⟨opening, hopening, hblock⟩ with ⟨brace, behind, hopen, hbegins⟩
    exact except_bind_eq_ok.mpr ⟨(brace, behind), hopen,
      setFields_iff.mpr ⟨fields, signs, hfields, hbegins, (hfresh fields).symm⟩⟩

/-!
# Configurations
-/

def fieldsAfter (read : Fields) (fields : List ConfigField) : Fields where
  ignoresParents := (fields.filterMap ConfigField.flag?).getLast?.getD read.ignoresParents
  sets := read.sets ++ (fields.filterMap ConfigField.set?).filter fun set => !set.owners.isEmpty

variable {sofar last : Fields} {fields : List ConfigField}

theorem fieldsAfter_nil : fieldsAfter sofar [] = sofar := by simp [fieldsAfter]

theorem fieldsAfter_flag {ignoresParents : Bool} :
    fieldsAfter sofar (.flag ignoresParents :: fields) =
      fieldsAfter { sofar with ignoresParents } fields := by
  simp [fieldsAfter, List.filterMap_cons, ConfigField.flag?, ConfigField.set?, List.getLast?_cons]

theorem fieldsAfter_set {inner : List SetField} : fieldsAfter sofar (.set inner :: fields) =
    if (setOf inner).owners.isEmpty then fieldsAfter sofar fields
    else fieldsAfter { sofar with sets := sofar.sets ++ [setOf inner] } fields := by
  split
  · rename_i hempty
    simp [fieldsAfter, List.filterMap_cons, ConfigField.flag?, ConfigField.set?, hempty]
  · rename_i howned
    simp [fieldsAfter, List.filterMap_cons, ConfigField.flag?, ConfigField.set?, howned]

theorem row_set (hfield : fieldOrEnd found = .ok (some token, behind))
    (hname : token.value = "owner_sets") (hset : setBlock behind = .ok (set, rest))
    (hfields : Row ConfigField.Derives fields signs)
    (hbegins : Begins rest (signs ++ [closeSign]) after) :
    ∃ inner longer, set = setOf inner ∧ Row ConfigField.Derives (.set inner :: fields) longer ∧
      Begins found (longer ++ [closeSign]) after := by
  rcases setBlock_iff.mp hset with ⟨opening, hopen, inner, front, hinner, hblock, rfl⟩
  refine ⟨inner, _, rfl, .cons (.set hopen hinner) hfields, ?_⟩
  rw [List.append_assoc]
  exact begins_field.mpr ⟨token, behind, hfield, hname,
    begins_append.mpr ⟨rest, hblock, hbegins⟩⟩

theorem configFields_iff : configFields sofar found = .ok (last, rest) ↔
    ∃ fields signs, Row ConfigField.Derives fields signs ∧
      Begins found (signs ++ [closeSign]) rest ∧ last = fieldsAfter sofar fields := by
  constructor
  · intro h
    fun_induction configFields sofar found with
    | case1 => cases h
    | case2 sofar found behind hfield =>
        cases h
        exact ⟨[], [], .nil, begins_end.mpr hfield, fieldsAfter_nil.symm⟩
    | case3 => cases h
    | case4 => cases h
    | case5 sofar found field behind hfield hname value after hvalue ignoresParents htruth ih =>
        rcases ih h with ⟨fields, signs, hfields, hbegins, rfl⟩
        rw [truthValue_iff.mp htruth] at hvalue
        refine ⟨.flag ignoresParents :: fields, _, .cons (.flag ignoresParents) hfields, ?_, ?_⟩
        · exact begins_field.mpr ⟨field, behind, hfield, hname,
            begins_scalar.mpr ⟨after, hvalue, hbegins⟩⟩
        · exact fieldsAfter_flag.symm
    | case6 => cases h
    | case7 sofar found field behind hfield hflag hname set after hset hempty ih =>
        rcases ih h with ⟨fields, signs, hfields, hbegins, rfl⟩
        rcases row_set hfield hname hset hfields hbegins with ⟨inner, longer, rfl, hrow, hall⟩
        refine ⟨.set inner :: fields, longer, hrow, hall, ?_⟩
        rw [fieldsAfter_set, if_pos hempty]
    | case8 sofar found field behind hfield hflag hname set after hset howned ih =>
        rcases ih h with ⟨fields, signs, hfields, hbegins, rfl⟩
        rcases row_set hfield hname hset hfields hbegins with ⟨inner, longer, rfl, hrow, hall⟩
        refine ⟨.set inner :: fields, longer, hrow, hall, ?_⟩
        rw [fieldsAfter_set, if_neg howned]
    | case9 => cases h
  · intro h
    rcases h with ⟨fields, signs, hfields, hbegins, rfl⟩
    induction hfields generalizing sofar found with
    | nil => rw [configFields_of_end (begins_end.mp hbegins), fieldsAfter_nil]
    | @cons field fields front signs hfield hfields ih =>
        rw [List.append_assoc, begins_append] at hbegins
        rcases hbegins with ⟨after, hfront, hbegins⟩
        cases hfield with
        | flag ignoresParents =>
            rcases begins_field.mp hfront with ⟨field, behind, hfield, hname, hfront⟩
            rcases begins_scalar.mp hfront with ⟨_, hvalue, hend⟩
            rw [begins_nil] at hend
            rw [configFields_of_flag hfield hname hvalue (truthValue_iff.mpr rfl), hend,
              ih hbegins, fieldsAfter_flag]
        | @set inner opening innerSigns hopen hinner =>
            rcases begins_field.mp hfront with ⟨field, behind, hfield, hname, hfront⟩
            have hblock : setBlock behind = .ok (setOf inner, after) :=
              setBlock_iff.mpr ⟨opening, hopen, inner, innerSigns, hinner, hfront, rfl⟩
            rw [configFields_of_set hfield hname hblock, fieldsAfter_set]
            split
            · exact ih hbegins
            · exact ih hbegins

/-!
# Whole texts
-/

theorem readFields_iff : readFields found = .ok last ↔
    (found = [] ∧ last = {}) ∨ ∃ fields, DerivesConfig fields (found.map Token.sign) ∧
      last = fieldsAfter {} fields := by
  cases found with
  | nil =>
      have hnone : ¬ ∃ fields, DerivesConfig fields [] ∧ last = fieldsAfter {} fields := by
        intro h
        rcases h with ⟨fields, hderives, hlast⟩
        cases hderives
      rw [List.map_nil, or_iff_left hnone]
      constructor
      · intro h
        cases h
        exact ⟨rfl, rfl⟩
      · intro h
        rw [h.2]
        rfl
  | cons first others =>
      rw [or_iff_right (by simp)]
      constructor
      · intro h
        rcases except_bind_eq_ok.mp h with ⟨⟨word, behind⟩, hword, h⟩
        rcases except_bind_eq_ok.mp h with ⟨⟨brace, inside⟩, hopen, h⟩
        rcases except_bind_eq_ok.mp h with ⟨⟨read, rest⟩, hfields, h⟩
        cases rest with
        | cons trailing rest => cases h
        | nil =>
            cases h
            rcases expectValue_iff.mp hword with ⟨hfirst, hsign⟩
            rcases configFields_iff.mp hfields with ⟨fields, signs, hrow, hbegins, rfl⟩
            rcases begins_opening.mpr ⟨brace, inside, hopen, hbegins⟩ with
              ⟨opening, hopening, hblock⟩
            refine ⟨fields, ?_, rfl⟩
            rw [begins_all.mp (begins_cons.mpr ⟨word, behind, hfirst, hsign, hblock⟩)]
            exact .block hopening hrow
      · intro h
        rcases h with ⟨fields, hderives, rfl⟩
        generalize hall : (first :: others).map Token.sign = all at hderives
        cases hderives with
        | @block opening signs hopening hrow =>
            rcases begins_cons.mp (begins_all.mpr hall) with ⟨word, behind, hfirst, hsign, hblock⟩
            rcases begins_opening.mp ⟨opening, hopening, hblock⟩ with
              ⟨brace, inside, hopen, hbegins⟩
            have hword : expectValue .word "owners_config" (first :: others) = .ok (word, behind) :=
              expectValue_iff.mpr ⟨hfirst, hsign⟩
            have hfields : configFields {} inside = .ok (fieldsAfter {} fields, []) :=
              configFields_iff.mpr ⟨fields, signs, hrow, hbegins, rfl⟩
            exact except_bind_eq_ok.mpr ⟨(word, behind), hword,
              except_bind_eq_ok.mpr ⟨(brace, inside), hopen,
                except_bind_eq_ok.mpr ⟨_, hfields, rfl⟩⟩⟩

/-!
# Reading
-/

variable {key : ConfigKey} {text : String} {config : OwnerConfig}

/-- What the grammar derives can be read, and nothing else. -/
theorem read_eq_ok_iff : read key text = .ok config ↔ ∃ signs, Scans text.toList signs ∧
    ((signs = [] ∧ config = { key }) ∨
      ∃ fields, DerivesConfig fields signs ∧ config = configOf key fields) := by
  constructor
  · intro h
    rcases except_bind_eq_ok.mp h with ⟨found, htokens, h⟩
    rcases except_bind_eq_ok.mp h with ⟨last, hlast, h⟩
    cases h
    refine ⟨found.map Token.sign, scans_of_tokensFrom (except_mapError_eq_ok.mp htokens), ?_⟩
    rcases readFields_iff.mp hlast with ⟨rfl, rfl⟩ | ⟨fields, hderives, rfl⟩
    · exact .inl ⟨rfl, rfl⟩
    · refine .inr ⟨fields, hderives, ?_⟩
      simp [fieldsAfter, configOf]
  · intro h
    rcases h with ⟨signs, hscans, h⟩
    rcases tokensFrom_of_scans hscans 1 with ⟨found, htokens, rfl⟩
    refine except_bind_eq_ok.mpr ⟨found, except_mapError_eq_ok.mpr htokens, ?_⟩
    rcases h with ⟨hnone, rfl⟩ | ⟨fields, hderives, rfl⟩
    · rw [List.map_eq_nil_iff.mp hnone]
      rfl
    · refine except_bind_eq_ok.mpr ⟨_, readFields_iff.mpr (.inr ⟨fields, hderives, rfl⟩), ?_⟩
      simp [fieldsAfter, configOf, pure, Except.pure]

/-- A text can be read if and only if it comes apart into signs that are none at all or are derived
by the grammar, and then it reads as what the fields of the derivation mean; whatever else stands
in a text, reading it ends with an error of the format. -/
theorem reads_iff_derives (key : ConfigKey) (text : String) :
    (∀ config, read key text = .ok config ↔ ∃ signs, Scans text.toList signs ∧
      ((signs = [] ∧ config = { key }) ∨
        ∃ fields, DerivesConfig fields signs ∧ config = configOf key fields)) ∧
    ((¬ ∃ signs, Scans text.toList signs ∧
        (signs = [] ∨ ∃ fields, DerivesConfig fields signs)) ↔
      ∃ error : BlockError, read key text = .error error) := by
  constructor
  · intro config
    exact read_eq_ok_iff
  · cases h : read key text with
    | ok config =>
        rcases read_eq_ok_iff.mp h with ⟨signs, hscans, hsigns⟩
        have hderived : ∃ signs, Scans text.toList signs ∧
            (signs = [] ∨ ∃ fields, DerivesConfig fields signs) := by
          rcases hsigns with ⟨hnone, hconfig⟩ | ⟨fields, hderives, hconfig⟩
          · exact ⟨signs, hscans, .inl hnone⟩
          · exact ⟨signs, hscans, .inr ⟨fields, hderives⟩⟩
        simp only [hderived, not_true_eq_false, reduceCtorEq, exists_false]
    | error error =>
        have hunderived : ¬ ∃ signs, Scans text.toList signs ∧
            (signs = [] ∨ ∃ fields, DerivesConfig fields signs) := by
          intro hderived
          rcases hderived with ⟨signs, hscans, hsigns⟩
          have hread : ∃ config, read key text = .ok config := by
            rcases hsigns with hnone | ⟨fields, hderives⟩
            · exact ⟨_, read_eq_ok_iff.mpr ⟨signs, hscans, .inl ⟨hnone, rfl⟩⟩⟩
            · exact ⟨_, read_eq_ok_iff.mpr ⟨signs, hscans, .inr ⟨fields, hderives, rfl⟩⟩⟩
          rcases hread with ⟨config, hread⟩
          rw [h] at hread
          cases hread
        simp only [hunderived, not_false_eq_true, Except.error.injEq, exists_eq']

end BlockFormat
end Ownership
