import Ownership.Proofs.BlockFormat.Sharpness

/-!
# What does not fit into the grammar

The blocks of owners, sets and configurations fail at one token each.  So does the reading of a
whole text: what stands in front of this token begins some configuration, and nothing that begins
with the token as well is one.
-/

namespace Ownership
namespace BlockFormat

/-- The signs can be continued to those of a configuration. -/
def CanGoOn (signs : List Sign) : Prop := ∃ more fields, DerivesConfig fields (signs ++ more)

variable {used found rest piece : List Token} {token field keyword : Token} {error : BlockError}
  {value word : String}

/-!
# Owners
-/

def afterEmail (email : String) : List Token → Except BlockError (Option String × List Token) :=
  ownerFields (some email)

def ownerField (email : Option String) :
    Option Token → List Token → Except BlockError (Option String × List Token)
  | none => fun rest => .ok (email, rest)
  | some field =>
      if field.value = "email" then
        fun rest => scalar .text rest >>= fun part => afterEmail part.1 part.2
      else fun _ => .error (.unknownField field)

section

variable (email : Option String)

theorem ownerField_email (h : field.value = "email") (rest : List Token) :
    ownerField email (some field) rest =
      scalar .text rest >>= fun part => afterEmail part.1 part.2 :=
  congrFun (if_pos h) rest

theorem ownerField_unknown (h : field.value ≠ "email") (rest : List Token) :
    ownerField email (some field) rest = .error (.unknownField field) :=
  congrFun (if_neg h) rest

theorem ownerFields_eq (found : List Token) : ownerFields email found =
    fieldOrEnd found >>= fun part => ownerField email part.1 part.2 := by
  fun_cases ownerFields email found with
  | case1 failure hfield =>
      rw [hfield]
      rfl
  | case2 behind hfield =>
      rw [hfield]
      rfl
  | case3 field behind hfield hname failure hvalue =>
      rw [bind_field_of_error (ownerField email) hfield (ownerField_email email hname) hvalue]
  | case4 field behind hfield hname value after hvalue =>
      rw [bind_field_of_ok (ownerField email) hfield (ownerField_email email hname) hvalue]
      rfl
  | case5 field behind hfield hname =>
      rw [hfield]
      exact (ownerField_unknown email hname behind).symm

theorem fits_ownerField (h : field.sign = (.word, "email")) :
    Fits (ownerField email (some field)) (fun email => email.isSome = true) [] := by
  have hclose : Takes (ownerFields (some "")) [tokenOf closeSign] (some "") :=
    fun _ => ownerFields_of_end (fieldOrEnd_of_close rfl)
  exact fits_parts afterEmail (ownerField_email email (Token.value_of_sign h))
    (takes_scalar_tokenOf .text "") ⟨_, _, rfl, hclose⟩

theorem fits_ownerFields : Fits (ownerFields email) (fun email => email.isSome = true) [] :=
  fits_parts (ownerField email) (ownerFields_eq email)
    (takes_fieldOrEnd (by rfl : (tokenOf (.word, "email")).kind = .word))
    (fits_ownerField email rfl)

theorem failsIn_ownerFields (h : ownerFields email found = .error error) :
    FailsIn (ownerFields email) (fun email => email.isSome = true) error found := by
  fun_induction ownerFields email found with
  | case1 email found failure hfield =>
      cases h
      exact failsIn_start (ownerField email) (ownerFields_eq email) "email"
        (fun field => fits_ownerField email) hfield
  | case2 => cases h
  | case3 email found field behind hfield hname failure hvalue =>
      cases h
      exact failsIn_part (ownerField email) (ownerFields_eq email) afterEmail
        (ownerField_email email hname) hfield (fun value _ => fits_ownerFields (some value))
        ((sharp_scalar .text "").fails hvalue)
  | case4 email found field behind hfield hname value after hvalue ih =>
      exact failsIn_later (ownerField email) (ownerFields_eq email) afterEmail
        (ownerField_email email hname) hfield ((sharp_scalar .text "").takes hvalue) (ih h)
  | case5 email found field behind hfield hname =>
      cases h
      exact failsIn_unknown (ownerField email) (ownerFields_eq email) hfield
        (fits_ownerFields email) (ownerField_unknown email hname)

end

def ownerEnd (keyword : Token) (email : Option String) (rest : List Token) :
    Except BlockError (OwnerRef × List Token) :=
  match email with
  | some email => .ok ({ email }, rest)
  | none => .error (.ownerWithoutEmail keyword)

def ownerInside (keyword : Token) (found : List Token) :
    Except BlockError (OwnerRef × List Token) :=
  ownerFields none found >>= fun part => ownerEnd keyword part.1 part.2

theorem ownerBlock_eq (keyword : Token) (found : List Token) : ownerBlock keyword found =
    openBlock found >>= fun part => ownerInside keyword part.2 := rfl

theorem fits_ownerInside (keyword : Token) : Fits (ownerInside keyword) (fun _ => True) [] := by
  rcases fits_nil.mp (fits_ownerFields none) with ⟨more, email?, hsome, htakes⟩
  rcases Option.isSome_iff_exists.mp hsome with ⟨email, rfl⟩
  have hend : Takes (ownerEnd keyword (some email)) [] { email } := fun _ => rfl
  exact fits_nil.mpr ⟨_, _, trivial, takes_parts (ownerEnd keyword) (fun _ => rfl) htakes hend⟩

/-- An owner without an email fails when its block is closed. -/
structure ClosesEmpty (keyword : Token) (error : BlockError) (opening : List Token)
    (close : Token) : Prop where
  without : error = .ownerWithoutEmail keyword
  opens : Opening (opening.map Token.sign)
  closes : close.sign = closeSign
  fits : Fits (ownerBlock keyword) (fun _ => True) opening
  stops : ∀ rest, ownerBlock keyword (opening ++ close :: rest) = .error error

theorem failsIn_ownerBlock (h : ownerBlock keyword found = .error error) :
    FailsIn (ownerBlock keyword) (fun _ => True) error found ∨
      ∃ opening close rest, found = opening ++ close :: rest ∧
        ClosesEmpty keyword error opening close := by
  cases hopen : openBlock found with
  | error failure =>
      rw [ownerBlock_eq, hopen] at h
      cases h
      exact .inl ((goesOn_first (fun _ => ownerInside keyword) (ownerBlock_eq keyword)
        fun _ _ => fits_ownerInside keyword).failsIn (sharp_openBlock.fails hopen))
  | ok result =>
      rcases result with ⟨brace, inside⟩
      rcases openBlock_eq_ok hopen with ⟨opening, rfl, hopening, htakes⟩
      have hinside : GoesOn (ownerBlock keyword) (fun _ => True) opening (ownerInside keyword)
          fun _ => True := goesOn_next (fun _ => ownerInside keyword) (ownerBlock_eq keyword) htakes
      rw [ownerBlock_eq, hopen] at h
      change ownerInside keyword inside = .error error at h
      cases hfields : ownerFields none inside with
      | error failure =>
          unfold ownerInside at h
          rw [hfields] at h
          cases h
          refine .inl (hinside.failsIn ?_)
          refine (goesOn_first (ownerEnd keyword) (fun _ => rfl) ?_).failsIn
            (failsIn_ownerFields none hfields)
          intro email? hsome
          rcases Option.isSome_iff_exists.mp hsome with ⟨email, rfl⟩
          exact ⟨[], { email }, trivial, fun _ => rfl⟩
      | ok result =>
          rcases result with ⟨email?, rest⟩
          unfold ownerInside at h
          rw [hfields] at h
          rcases ownerFields_iff.mp hfields with ⟨emails, hbegins, hlast⟩
          rw [Option.or_none] at hlast
          cases emails with
          | cons email emails =>
              rw [hlast, List.getLast?_cons] at h
              cases h
          | nil =>
              rw [hlast] at h
              cases h
              rcases begins_cons.mp hbegins with ⟨close, behind, rfl, hclose, hbehind⟩
              rw [begins_nil.mp hbehind]
              refine .inr ⟨opening, close, rest, rfl, rfl, hopening, hclose, ?_, ?_⟩
              · have hfits := hinside.fits_of_fits (fits_ownerInside keyword)
                rw [List.append_nil] at hfits
                exact hfits
              · intro others
                apply hinside.fails
                unfold ownerInside
                rw [ownerFields_of_end (fieldOrEnd_of_close hclose)]
                rfl

/-!
# Sets
-/

def afterGlob (set : OwnerSet) (glob : String) :
    List Token → Except BlockError (OwnerSet × List Token) :=
  setFields { set with globs := set.globs ++ [glob] }

def afterOwner (set : OwnerSet) (owner : OwnerRef) :
    List Token → Except BlockError (OwnerSet × List Token) :=
  setFields { set with owners := set.owners ++ [owner] }

def setField (set : OwnerSet) :
    Option Token → List Token → Except BlockError (OwnerSet × List Token)
  | none => fun rest => .ok (set, rest)
  | some field =>
      if field.value = "path_expressions" then
        fun rest => scalar .text rest >>= fun part => afterGlob set part.1 part.2
      else if field.value = "owners" then
        fun rest => ownerBlock field rest >>= fun part => afterOwner set part.1 part.2
      else fun _ => .error (.unknownField field)

section

variable (set : OwnerSet)

theorem setField_glob (h : field.value = "path_expressions") (rest : List Token) :
    setField set (some field) rest =
      scalar .text rest >>= fun part => afterGlob set part.1 part.2 :=
  congrFun (if_pos h) rest

theorem setField_owner (h : field.value = "owners") (rest : List Token) :
    setField set (some field) rest =
      ownerBlock field rest >>= fun part => afterOwner set part.1 part.2 := by
  have hother : field.value ≠ "path_expressions" := by
    rw [h]
    decide
  exact congrFun ((if_neg hother).trans (if_pos h)) rest

theorem setField_unknown (hglob : field.value ≠ "path_expressions")
    (howner : field.value ≠ "owners") (rest : List Token) : setField set (some field) rest = .error (.unknownField field) :=
  congrFun ((if_neg hglob).trans (if_neg howner)) rest

theorem setFields_eq (found : List Token) : setFields set found =
    fieldOrEnd found >>= fun part => setField set part.1 part.2 := by
  fun_cases setFields set found with
  | case1 failure hfield =>
      rw [hfield]
      rfl
  | case2 behind hfield =>
      rw [hfield]
      rfl
  | case3 field behind hfield hname failure hvalue =>
      rw [bind_field_of_error (setField set) hfield (setField_glob set hname) hvalue]
  | case4 field behind hfield hname value after hvalue =>
      rw [bind_field_of_ok (setField set) hfield (setField_glob set hname) hvalue]
      rfl
  | case5 field behind hfield hglob hname failure howner =>
      rw [bind_field_of_error (setField set) hfield (setField_owner set hname) howner]
  | case6 field behind hfield hglob hname owner after howner =>
      rw [bind_field_of_ok (setField set) hfield (setField_owner set hname) howner]
      rfl
  | case7 field behind hfield hglob hname =>
      rw [hfield]
      exact (setField_unknown set hglob hname behind).symm

theorem takes_setFields_end : Takes (setFields set) [tokenOf closeSign] set :=
  fun _ => setFields_of_end (fieldOrEnd_of_close rfl)

theorem fits_setFields : Fits (setFields set) (fun _ => True) [] :=
  ⟨[tokenOf closeSign], set, trivial, takes_setFields_end set⟩

theorem ownerBlock_eq_ok {owner : OwnerRef} (h : ownerBlock keyword found = .ok (owner, rest)) :
    ∃ used, found = used ++ rest ∧ Takes (ownerBlock keyword) used owner := by
  rcases ownerBlock_iff.mp h with ⟨opening, hopen, emails, ⟨used, rfl, hused⟩, howner⟩
  exact ⟨used, rfl, fun _ =>
    ownerBlock_iff.mpr ⟨opening, hopen, emails, ⟨used, rfl, hused⟩, howner⟩⟩

theorem failsIn_setFields (h : setFields set found = .error error) :
    FailsIn (setFields set) (fun _ => True) error found := by
  fun_induction setFields set found with
  | case1 set found failure hfield =>
      cases h
      apply failsIn_start (setField set) (setFields_eq set) "path_expressions" ?_ hfield
      intro field hsign
      exact fits_parts (afterGlob set) (setField_glob set (Token.value_of_sign hsign))
        (takes_scalar_tokenOf .text "") (fits_setFields _)
  | case2 => cases h
  | case3 set found field behind hfield hname failure hvalue =>
      cases h
      exact failsIn_part (setField set) (setFields_eq set) (afterGlob set)
        (setField_glob set hname) hfield (fun _ _ => fits_setFields _)
        ((sharp_scalar .text "").fails hvalue)
  | case4 set found field behind hfield hname glob after hvalue ih =>
      exact failsIn_later (setField set) (setFields_eq set) (afterGlob set)
        (setField_glob set hname) hfield ((sharp_scalar .text "").takes hvalue) (ih h)
  | case5 set found field behind hfield hglob hname failure howner =>
      cases h
      rcases failsIn_ownerBlock howner with hfails | ⟨opening, close, rest, rfl, hempty⟩
      · exact failsIn_part (setField set) (setFields_eq set) (afterOwner set)
          (setField_owner set hname) hfield (fun _ _ => fits_setFields _) hfails
      · rcases fieldOrEnd_eq_some hfield with ⟨rfl, hkind⟩
        have hblock : GoesOn (setField set (some field)) (fun _ => True) [] (ownerBlock field)
            fun _ => True := goesOn_first (afterOwner set) (setField_owner set hname)
          fun _ _ => fits_setFields _
        have hfield : GoesOn (setFields set) (fun _ => True) [field] (setField set (some field))
            fun _ => True := goesOn_next (setField set) (setFields_eq set) (takes_fieldOrEnd hkind)
        rw [hempty.without]
        refine .inr ⟨[], field :: (opening ++ [close]), rest, by simp, ?_, ?_, ?_⟩
        · exact .ownerWithoutEmail (Token.sign_eq_iff.mpr ⟨hkind, hname⟩) hempty.opens hempty.closes
        · have hfront : (field :: (opening ++ [close])).dropLast = [field] ++ ([] ++ opening) := by
            rw [← List.cons_append, List.dropLast_concat]
            rfl
          rw [hfront, List.nil_append]
          exact hfield.fits_of_fits (hblock.fits_of_fits hempty.fits)
        · intro others
          have hstops := hfield.fails (hblock.fails (hempty.stops others))
          rw [hempty.without] at hstops
          simpa using hstops
  | case6 set found field behind hfield hglob hname owner after howner ih =>
      exact failsIn_later (setField set) (setFields_eq set) (afterOwner set)
        (setField_owner set hname) hfield (ownerBlock_eq_ok howner) (ih h)
  | case7 set found field behind hfield hglob hname =>
      cases h
      exact failsIn_unknown (setField set) (setFields_eq set) hfield (fits_setFields set)
        (setField_unknown set hglob hname)

end

theorem setBlock_eq (found : List Token) :
    setBlock found = openBlock found >>= fun part => setFields {} part.2 := rfl

theorem sharp_setFields (set : OwnerSet) : Sharp (setFields set) fun _ => True := by
  refine ⟨?_, failsIn_setFields set⟩
  intro found final rest h
  rcases setFields_iff.mp h with ⟨fields, signs, hfields, ⟨used, rfl, hused⟩, rfl⟩
  exact ⟨used, rfl, fun _ => setFields_iff.mpr ⟨fields, signs, hfields, ⟨used, rfl, hused⟩, rfl⟩⟩

theorem sharp_setBlock : Sharp setBlock fun _ => True :=
  sharp_parts (fun _ => setFields {}) setBlock_eq sharp_openBlock (fun _ => sharp_setFields {})
    fun _ _ => fits_setFields {}

/-!
# Configurations
-/

def afterSet (fields : Fields) (set : OwnerSet) :
    List Token → Except BlockError (Fields × List Token) :=
  configFields (if set.owners.isEmpty then fields else { fields with sets := fields.sets ++ [set] })

def afterFlag (fields : Fields) (keyword : Token) (value : String) (rest : List Token) :
    Except BlockError (Fields × List Token) :=
  truthValue keyword value >>= fun ignoresParents =>
    configFields { fields with ignoresParents } rest

def configField (fields : Fields) :
    Option Token → List Token → Except BlockError (Fields × List Token)
  | none => fun rest => .ok (fields, rest)
  | some field =>
      if field.value = "ignore_parent_owners" then
        fun rest => scalar .word rest >>= fun part => afterFlag fields field part.1 part.2
      else if field.value = "owner_sets" then
        fun rest => setBlock rest >>= fun part => afterSet fields part.1 part.2
      else fun _ => .error (.unknownField field)

section

variable (fields : Fields)

theorem configField_flag (h : field.value = "ignore_parent_owners") (rest : List Token) :
    configField fields (some field) rest =
      scalar .word rest >>= fun part => afterFlag fields field part.1 part.2 :=
  congrFun (if_pos h) rest

theorem configField_set (h : field.value = "owner_sets") (rest : List Token) :
    configField fields (some field) rest =
      setBlock rest >>= fun part => afterSet fields part.1 part.2 := by
  have hother : field.value ≠ "ignore_parent_owners" := by
    rw [h]
    decide
  exact congrFun ((if_neg hother).trans (if_pos h)) rest

theorem configField_unknown (hflag : field.value ≠ "ignore_parent_owners")
    (hset : field.value ≠ "owner_sets") (rest : List Token) :
    configField fields (some field) rest = .error (.unknownField field) :=
  congrFun ((if_neg hflag).trans (if_neg hset)) rest

theorem configFields_eq (found : List Token) : configFields fields found =
    fieldOrEnd found >>= fun part => configField fields part.1 part.2 := by
  fun_cases configFields fields found with
  | case1 failure hfield =>
      rw [hfield]
      rfl
  | case2 behind hfield =>
      rw [hfield]
      rfl
  | case3 field behind hfield hname failure hvalue =>
      rw [bind_field_of_error (configField fields) hfield (configField_flag fields hname) hvalue]
  | case4 field behind hfield hname value after hvalue failure htruth =>
      rw [bind_field_of_ok (configField fields) hfield (configField_flag fields hname) hvalue]
      unfold afterFlag
      rw [htruth]
      rfl
  | case5 field behind hfield hname value after hvalue ignoresParents htruth =>
      rw [bind_field_of_ok (configField fields) hfield (configField_flag fields hname) hvalue]
      unfold afterFlag
      rw [htruth]
      rfl
  | case6 field behind hfield hflag hname failure hset =>
      rw [bind_field_of_error (configField fields) hfield (configField_set fields hname) hset]
  | case7 field behind hfield hflag hname set after hset hempty =>
      rw [bind_field_of_ok (configField fields) hfield (configField_set fields hname) hset]
      unfold afterSet
      rw [if_pos hempty]
  | case8 field behind hfield hflag hname set after hset hsome =>
      rw [bind_field_of_ok (configField fields) hfield (configField_set fields hname) hset]
      unfold afterSet
      rw [if_neg hsome]
  | case9 field behind hfield hflag hname =>
      rw [hfield]
      exact (configField_unknown fields hflag hname behind).symm

theorem fits_configFields : Fits (configFields fields) (fun _ => True) [] :=
  ⟨[tokenOf closeSign], fields, trivial, fun _ => configFields_of_end (fieldOrEnd_of_close rfl)⟩

theorem fits_afterFlag : Fits (afterFlag fields keyword "true") (fun _ => True) [] :=
  fits_configFields { fields with ignoresParents := true }

theorem truthValue_eq_error (h : truthValue keyword value = .error error) :
    error = .notTruthValue keyword value ∧ value ≠ "true" ∧ value ≠ "false" := by
  unfold truthValue at h
  split at h
  · cases h
  · rename_i htrue
    split at h
    · cases h
    · rename_i hfalse
      cases h
      exact ⟨rfl, htrue, hfalse⟩

theorem failsIn_configFields (h : configFields fields found = .error error) :
    FailsIn (configFields fields) (fun _ => True) error found := by
  fun_induction configFields fields found with
  | case1 fields found failure hfield =>
      cases h
      apply failsIn_start (configField fields) (configFields_eq fields) "ignore_parent_owners" ?_
        hfield
      intro field hsign
      exact fits_parts (afterFlag fields field)
        (configField_flag fields (Token.value_of_sign hsign)) (takes_scalar_tokenOf .word "true") (fits_afterFlag fields)
  | case2 => cases h
  | case3 fields found field behind hfield hname failure hvalue =>
      cases h
      refine failsIn_part (configField fields) (configFields_eq fields) (afterFlag fields field)
        (configField_flag fields hname) hfield ?_ ((sharp_scalar .word "true").fails hvalue)
      intro value htrue
      rw [htrue]
      exact fits_afterFlag fields
  | case4 fields found field behind hfield hname value after hvalue failure htruth =>
      cases h
      rcases fieldOrEnd_eq_some hfield with ⟨rfl, hkind⟩
      rcases scalar_eq_ok hvalue with ⟨colon, token, rfl, hcolon, htoken⟩
      have hblock : GoesOn (configFields fields) (fun _ => True) [field]
          (configField fields (some field)) fun _ => True :=
        goesOn_next (configField fields) (configFields_eq fields) (takes_fieldOrEnd hkind)
      have hstops : ∀ others, afterFlag fields field value others = .error error := by
        intro others
        unfold afterFlag
        rw [htruth]
        rfl
      rcases truthValue_eq_error htruth with ⟨rfl, htrue, hfalse⟩
      have hcomplains : (BlockError.notTruthValue field value).Complains [field, colon, token] := by
        rw [← Token.value_of_sign htoken] at htrue hfalse ⊢
        exact .notTruthValue (Token.sign_eq_iff.mpr ⟨hkind, hname⟩) hcolon
          (Token.kind_of_sign htoken) htrue hfalse
      refine .inr ⟨[], [field, colon, token], after, rfl, hcomplains, ?_, ?_⟩
      · have hflag : GoesOn (configField fields (some field)) (fun _ => True) [] (scalar .word)
            fun value => value = "true" :=
          goesOn_first (afterFlag fields field) (configField_flag fields hname) (by
            rintro _ rfl
            exact fits_afterFlag fields)
        have hvalued : Fits (scalar .word) (fun value => value = "true") [colon] :=
          ⟨[tokenOf (.word, "true")], "true", rfl, takes_scalar hcolon rfl⟩
        exact hblock.fits_of_fits (hflag.fits_of_fits hvalued)
      · intro others
        have hflag : GoesOn (configField fields (some field)) (fun _ => True) [colon, token]
            (afterFlag fields field value) fun _ => True :=
          goesOn_next (afterFlag fields field) (configField_flag fields hname)
            (takes_scalar hcolon htoken)
        exact hblock.fails (hflag.fails (hstops others))
  | case5 fields found field behind hfield hname value after hvalue ignoresParents htruth ih =>
      refine failsIn_later (configField fields) (configFields_eq fields) (afterFlag fields field)
        (configField_flag fields hname) hfield ((sharp_scalar .word value).takes hvalue) ?_
      have hnext : afterFlag fields field value = configFields { fields with ignoresParents } := by
        unfold afterFlag
        rw [htruth]
        rfl
      rw [hnext]
      exact ih h
  | case6 fields found field behind hfield hflag hname failure hset =>
      cases h
      exact failsIn_part (configField fields) (configFields_eq fields) (afterSet fields)
        (configField_set fields hname) hfield (fun _ _ => fits_configFields _)
        (sharp_setBlock.fails hset)
  | case7 fields found field behind hfield hflag hname set after hset hempty ih =>
      refine failsIn_later (configField fields) (configFields_eq fields) (afterSet fields)
        (configField_set fields hname) hfield (sharp_setBlock.takes hset) ?_
      unfold afterSet
      rw [if_pos hempty]
      exact ih h
  | case8 fields found field behind hfield hflag hname set after hset hsome ih =>
      refine failsIn_later (configField fields) (configFields_eq fields) (afterSet fields)
        (configField_set fields hname) hfield (sharp_setBlock.takes hset) ?_
      unfold afterSet
      rw [if_neg hsome]
      exact ih h
  | case9 fields found field behind hfield hflag hname =>
      cases h
      exact failsIn_unknown (configField fields) (configFields_eq fields) hfield
        (fits_configFields fields) (configField_unknown fields hflag hname)

end

/-!
# Whole rows of tokens
-/

theorem sharp_configFields (fields : Fields) : Sharp (configFields fields) fun _ => True := by
  refine ⟨?_, failsIn_configFields fields⟩
  intro found last rest h
  rcases configFields_iff.mp h with ⟨fields, signs, hrow, ⟨used, rfl, hused⟩, rfl⟩
  exact ⟨used, rfl, fun _ => configFields_iff.mpr ⟨fields, signs, hrow, ⟨used, rfl, hused⟩, rfl⟩⟩

def configInside (found : List Token) : Except BlockError (Fields × List Token) :=
  openBlock found >>= fun part => configFields {} part.2

def configBlock (found : List Token) : Except BlockError (Fields × List Token) :=
  expectValue .word "owners_config" found >>= fun part => configInside part.2

theorem sharp_configInside : Sharp configInside fun _ => True :=
  sharp_parts (fun _ => configFields {}) (fun _ => rfl) sharp_openBlock
    (fun _ => sharp_configFields {}) fun _ _ => fits_configFields {}

theorem sharp_configBlock : Sharp configBlock fun _ => True :=
  sharp_parts (fun _ => configInside) (fun _ => rfl) (sharp_expectValue .word "owners_config")
    (fun _ => sharp_configInside)
    fun _ _ => fits_parts (fun _ => configFields {}) (fun _ => rfl) takes_openBlock
      (fits_configFields {})

def configEnd (fields : Fields) : List Token → Except BlockError Fields
  | [] => .ok fields
  | token :: _ => .error (.trailing token)

theorem readFields_eq (hsome : found ≠ []) : readFields found =
    configBlock found >>= fun part => configEnd part.1 part.2 := by
  have hempty : ¬ found.isEmpty = true := by
    rw [List.isEmpty_iff]
    exact hsome
  unfold readFields configBlock configInside
  rw [if_neg hempty]
  cases expectValue .word "owners_config" found with
  | error failure => rfl
  | ok keyword =>
      cases hopen : openBlock keyword.2 with
      | error failure => simp [bind, Except.bind, hopen]
      | ok brace =>
          cases hfields : configFields {} brace.2 with
          | error failure => simp [bind, Except.bind, hopen, hfields]
          | ok read =>
              rcases read with ⟨fields, _ | ⟨token, rest⟩⟩
              · simp [bind, Except.bind, hopen, hfields, configEnd, pure, Except.pure]
              · simp [bind, Except.bind, hopen, hfields, configEnd, throw, throwThe,
                  MonadExceptOf.throw]

theorem readFields_of_takes {fields : Fields} (h : Takes configBlock used fields) :
    used ≠ [] ∧ readFields used = .ok fields := by
  have hread := h []
  rw [List.append_nil] at hread
  have hsome : used ≠ [] := by
    rintro rfl
    cases hread
  rw [readFields_eq hsome, hread]
  exact ⟨hsome, rfl⟩

theorem derives_of_takes {fields : Fields} (h : Takes configBlock used fields) :
    ∃ fields, DerivesConfig fields (used.map Token.sign) := by
  rcases readFields_of_takes h with ⟨hsome, hread⟩
  rcases readFields_iff.mp hread with ⟨hnone, _⟩ | ⟨fields, hderives, _⟩
  · exact absurd hnone hsome
  · exact ⟨fields, hderives⟩

theorem canGoOn_of_fits (h : Fits configBlock (fun _ => True) used) :
    CanGoOn (used.map Token.sign) := by
  rcases h with ⟨more, fields, _, htakes⟩
  rcases derives_of_takes htakes with ⟨fields, hderives⟩
  rw [List.map_append] at hderives
  exact ⟨more.map Token.sign, fields, hderives⟩

theorem not_canGoOn (h : ∀ rest, readFields (used ++ rest) = .error error) :
    ¬ CanGoOn (used.map Token.sign) := by
  intro hgoes
  rcases hgoes with ⟨more, fields, hderives⟩
  have hsigns : (used ++ more.map tokenOf).map Token.sign = used.map Token.sign ++ more := by
    have hsame : Token.sign ∘ tokenOf = id := rfl
    rw [List.map_append, List.map_map, hsame, List.map_id]
  have hread : readFields (used ++ more.map tokenOf) = .ok (fieldsAfter {} fields) := by
    apply readFields_iff.mpr
    rw [hsigns]
    exact .inr ⟨fields, hderives, rfl⟩
  rw [h] at hread
  cases hread

theorem BlockError.Complains.ne_nil (h : error.Complains piece) : piece ≠ [] := by
  cases h with
  | mismatch => exact List.cons_ne_nil _ _
  | unknownField => exact List.cons_ne_nil _ _
  | trailing => exact List.cons_ne_nil _ _
  | ownerWithoutEmail => exact List.cons_ne_nil _ _
  | notTruthValue => exact List.cons_ne_nil _ _

/-- Reading fails because tokens are missing at the end, or because of the last token of the piece
that the error complains of: in front of it the tokens can go on, and with it they cannot. -/
theorem readFields_eq_error (h : readFields found = .error error) :
    error.AtEnd ∨ ∃ front piece rest, found = front ++ (piece ++ rest) ∧ error.Complains piece ∧
      CanGoOn ((front ++ piece.dropLast).map Token.sign) ∧
        ¬ CanGoOn ((front ++ piece).map Token.sign) := by
  have hsome : found ≠ [] := by
    rintro rfl
    cases h
  cases hblock : configBlock found with
  | error failure =>
      have hfailure : failure = error := by
        rw [readFields_eq hsome, hblock] at h
        cases h
        rfl
      rw [hfailure] at hblock
      rcases sharp_configBlock.fails hblock with hend | ⟨front, piece, rest, rfl, hfails⟩
      · exact .inl hend
      · refine .inr ⟨front, piece, rest, rfl, hfails.complains, canGoOn_of_fits hfails.fits, ?_⟩
        apply not_canGoOn
        intro others
        have hne : front ++ piece ++ others ≠ [] := by
          intro hnil
          have hfront := (List.append_eq_nil_iff.mp hnil).1
          exact hfails.complains.ne_nil (List.append_eq_nil_iff.mp hfront).2
        rw [readFields_eq hne, List.append_assoc, hfails.stops]
        rfl
  | ok result =>
      rcases result with ⟨fields, rest⟩
      rcases sharp_configBlock.takes hblock with ⟨used, rfl, htakes⟩
      rw [readFields_eq hsome, hblock] at h
      cases rest with
      | nil => cases h
      | cons token rest =>
          cases h
          refine .inr ⟨used, [token], rest, rfl, .trailing token, ?_, ?_⟩
          · apply canGoOn_of_fits
            exact ⟨[], fields, trivial, by simpa using htakes⟩
          · apply not_canGoOn
            intro others
            have hne : used ++ [token] ++ others ≠ [] := by simp
            rw [readFields_eq hne, List.append_assoc, htakes]
            rfl

end BlockFormat
end Ownership
