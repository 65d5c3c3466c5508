import Ownership.Proofs.BlockFormat.Grammar

/-!
# Readers that fail at one token

Reading stops at the first token that cannot stand where it stands: up to there the tokens can be
continued to something that is read, and with it they cannot, whatever follows.  The error is the
same for all of these rows of tokens.  It tells of this token, or of a keyword in front of it.  A
reader with two parts fails in this way if both of its parts do.
-/

namespace Ownership
namespace BlockFormat

/-!
# Errors and the tokens they tell of
-/

inductive BlockError.AtEnd : BlockError → Prop
  | endOfInput (expected : String) : BlockError.AtEnd (.endOfInput expected)
  | unterminatedBlock : BlockError.AtEnd .unterminatedBlock

/-- The tokens that an error complains of.  The first is the one that it tells of, and the last is
the one that does not fit. -/
inductive BlockError.Complains : BlockError → List Token → Prop
  | mismatch (found : Token) (expected : String) :
      BlockError.Complains (.mismatch found expected) [found]
  | unknownField (field : Token) : BlockError.Complains (.unknownField field) [field]
  | trailing (found : Token) : BlockError.Complains (.trailing found) [found]
  /-- An owner whose block is closed before it has an email. -/
  | ownerWithoutEmail {keyword close : Token} {opening : List Token}
      (hkeyword : keyword.sign = (.word, "owners")) (hopen : Opening (opening.map Token.sign))
      (hclose : close.sign = closeSign) :
      BlockError.Complains (.ownerWithoutEmail keyword) (keyword :: (opening ++ [close]))
  /-- A flag with a word that is no truth value. -/
  | notTruthValue {keyword colon value : Token}
      (hkeyword : keyword.sign = (.word, "ignore_parent_owners"))
      (hcolon : colon.sign = colonSign) (hvalue : value.kind = .word)
      (htrue : value.value ≠ "true") (hfalse : value.value ≠ "false") :
      BlockError.Complains (.notTruthValue keyword value.value) [keyword, colon, value]

variable {α β : Type} {f : List Token → Except BlockError (α × List Token)}
  {g : List Token → Except BlockError (β × List Token)} {good : α → Prop} {goodPart : β → Prop}
  {used found inner front piece rest : List Token} {token field keyword : Token} {x : α} {y : β}
  {error : BlockError} {kind : TokenKind} {value word : String} {sign : Sign}

def Takes (f : List Token → Except BlockError (α × List Token)) (used : List Token) (x : α) :
    Prop :=
  ∀ rest, f (used ++ rest) = .ok (x, rest)

def Fits (f : List Token → Except BlockError (α × List Token)) (good : α → Prop)
    (used : List Token) : Prop := ∃ more x, good x ∧ Takes f (used ++ more) x

theorem fits_nil : Fits f good [] ↔ ∃ more x, good x ∧ Takes f more x := Iff.rfl

/-- Reading fails at the end of `piece`, and the error complains of it. -/
structure FailsAt (f : List Token → Except BlockError (α × List Token)) (good : α → Prop)
    (error : BlockError) (front piece : List Token) : Prop where
  complains : error.Complains piece
  fits : Fits f good (front ++ piece.dropLast)
  stops : ∀ rest, f (front ++ (piece ++ rest)) = .error error

def FailsIn (f : List Token → Except BlockError (α × List Token)) (good : α → Prop)
    (error : BlockError) (found : List Token) : Prop :=
  error.AtEnd ∨
    ∃ front piece rest, found = front ++ (piece ++ rest) ∧ FailsAt f good error front piece

/-- Behind the used tokens one reader goes on like another one does from the start. -/
structure GoesOn (f : List Token → Except BlockError (α × List Token)) (good : α → Prop)
    (used : List Token) (g : List Token → Except BlockError (β × List Token))
    (goodPart : β → Prop) : Prop where
  fails : ∀ {found error}, g found = .error error → f (used ++ found) = .error error
  fits : ∀ {inner y}, goodPart y → Takes g inner y → Fits f good (used ++ inner)

theorem GoesOn.fits_of_fits (h : GoesOn f good used g goodPart) (hpart : Fits g goodPart inner) :
    Fits f good (used ++ inner) := by
  rcases hpart with ⟨more, y, hgood, htakes⟩
  rcases h.fits hgood htakes with ⟨later, x, hx, hwhole⟩
  refine ⟨more ++ later, x, hx, ?_⟩
  simpa only [List.append_assoc] using hwhole

theorem GoesOn.failsIn (h : GoesOn f good used g goodPart)
    (hpart : FailsIn g goodPart error found) : FailsIn f good error (used ++ found) := by
  rcases hpart with hend | ⟨front, piece, rest, rfl, hfails⟩
  · exact .inl hend
  · refine .inr ⟨used ++ front, piece, rest, (List.append_assoc _ _ _).symm, hfails.complains,
      ?_, ?_⟩
    · rw [List.append_assoc]
      exact h.fits_of_fits hfails.fits
    · intro rest
      rw [List.append_assoc]
      exact h.fails (hfails.stops rest)

theorem failsIn_first (hcomplains : error.Complains [token]) (hfits : Fits f good [])
    (hstops : ∀ rest, f (token :: rest) = .error error) : FailsIn f good error (token :: rest) :=
  .inr ⟨[], [token], rest, rfl, hcomplains, hfits, hstops⟩

/-- A reader takes what it reads off the front, whatever follows, and fails at the end of a
piece. -/
structure Sharp (f : List Token → Except BlockError (α × List Token)) (good : α → Prop) : Prop where
  takes : ∀ {found x rest}, f found = .ok (x, rest) → ∃ used, found = used ++ rest ∧ Takes f used x
  fails : ∀ {found error}, f found = .error error → FailsIn f good error found

/-!
# Readers with two parts
-/

section

variable (next : β → List Token → Except BlockError (α × List Token))
  (hf : ∀ found, f found = g found >>= fun part => next part.1 part.2)

include hf

theorem takes_parts (hfirst : Takes g used y) (hnext : Takes (next y) inner x) :
    Takes f (used ++ inner) x := by
  intro rest
  rw [hf, List.append_assoc, hfirst]
  exact hnext rest

theorem goesOn_next (htakes : Takes g used y) : GoesOn f good used (next y) good := by
  constructor
  · intro found error hfails
    rw [hf, htakes]
    exact hfails
  · intro inner x hx hinner
    refine ⟨[], x, hx, ?_⟩
    rw [List.append_nil]
    exact takes_parts next hf htakes hinner

/-- It fails like its first part does, if what the part gives can be gone on with. -/
theorem goesOn_first (hnext : ∀ y, goodPart y → Fits (next y) good []) :
    GoesOn f good [] g goodPart := by
  constructor
  · intro found error hfails
    rw [List.nil_append, hf, hfails]
    rfl
  · intro inner y hgood htakes
    rcases hnext y hgood with ⟨more, x, hx, hmore⟩
    exact ⟨more, x, hx, takes_parts next hf htakes hmore⟩

theorem fits_parts (htakes : Takes g used y) (hnext : Fits (next y) good []) : Fits f good [] := by
  rcases hnext with ⟨more, x, hx, hmore⟩
  refine ⟨used ++ more, x, hx, ?_⟩
  rw [List.nil_append]
  exact takes_parts next hf htakes hmore

theorem sharp_parts (hg : Sharp g goodPart) (hnext : ∀ y, Sharp (next y) good)
    (hfits : ∀ y, goodPart y → Fits (next y) good []) : Sharp f good := by
  constructor
  · intro found x rest h
    rw [hf] at h
    rcases except_bind_eq_ok.mp h with ⟨⟨y, behind⟩, hfirst, hsecond⟩
    rcases hg.takes hfirst with ⟨used, rfl, htakes⟩
    rcases (hnext y).takes hsecond with ⟨more, rfl, hmore⟩
    exact ⟨used ++ more, (List.append_assoc _ _ _).symm, takes_parts next hf htakes hmore⟩
  · intro found error h
    cases hfirst : g found with
    | error failure =>
        rw [hf, hfirst] at h
        cases h
        exact (goesOn_first next hf hfits).failsIn (hg.fails hfirst)
    | ok result =>
        rcases result with ⟨y, behind⟩
        rcases hg.takes hfirst with ⟨used, rfl, htakes⟩
        rw [hf, hfirst] at h
        exact (goesOn_next next hf htakes).failsIn ((hnext y).fails h)

end

/-!
# Single pieces
-/

def tokenOf (sign : Sign) : Token := { kind := sign.1, value := sign.2, line := 0 }

theorem takes_expectValue (h : token.sign = (kind, value)) :
    Takes (expectValue kind value) [token] token :=
  fun _ => expectValue_iff.mpr ⟨rfl, h⟩

theorem expectValue_eq_error (h : expectValue kind value (token :: rest) = .error error) :
    error = .mismatch token value ∧
      ∀ others, expectValue kind value (token :: others) = .error error := by
  rw [expectValue] at h
  split at h
  · cases h
  · rename_i hother
    cases h
    exact ⟨rfl, fun _ => if_neg hother⟩

theorem sharp_expectValue (kind : TokenKind) (value : String) :
    Sharp (expectValue kind value) fun token => token.sign = (kind, value) := by
  constructor
  · intro found token rest h
    rcases expectValue_iff.mp h with ⟨rfl, hsign⟩
    exact ⟨[token], rfl, takes_expectValue hsign⟩
  · intro found error h
    cases found with
    | nil =>
        cases h
        exact .inl (.endOfInput value)
    | cons token rest =>
        rcases expectValue_eq_error h with ⟨rfl, hstops⟩
        refine failsIn_first (.mismatch token value) ?_ hstops
        exact ⟨[tokenOf (kind, value)], _, rfl, takes_expectValue rfl⟩

theorem openBlock_of_colon (h : token.sign = colonSign) :
    openBlock (token :: found) = expectValue .mark "\x7b" found := by
  rw [openBlock, if_pos (Token.isMark_iff.mpr h)]

theorem openBlock_of_not_colon (h : token.sign ≠ colonSign) :
    openBlock (token :: found) = expectValue .mark "\x7b" (token :: found) := by
  rw [openBlock, if_neg (mt Token.isMark_iff.mp h)]

theorem openBlock_eq_ok (h : openBlock found = .ok (token, rest)) :
    ∃ opening, found = opening ++ rest ∧ Opening (opening.map Token.sign) ∧
      Takes openBlock opening token := by
  cases found with
  | nil => cases h
  | cons first others =>
      by_cases hcolon : first.sign = colonSign
      · rw [openBlock_of_colon hcolon] at h
        rcases expectValue_iff.mp h with ⟨rfl, hbrace⟩
        refine ⟨[first, token], rfl, ?_, ?_⟩
        · rw [List.map_cons, List.map_singleton, hcolon, hbrace]
          exact .colon
        · intro rest
          exact (openBlock_of_colon hcolon).trans (expectValue_iff.mpr ⟨rfl, hbrace⟩)
      · rw [openBlock_of_not_colon hcolon] at h
        rcases expectValue_iff.mp h with ⟨hfound, hbrace⟩
        cases hfound
        refine ⟨[token], rfl, ?_, fun _ => openBlock_of_sign hbrace⟩
        rw [List.map_singleton, hbrace]
        exact .plain

theorem takes_openBlock : Takes openBlock [tokenOf openSign] (tokenOf openSign) :=
  fun _ => openBlock_of_sign rfl

theorem sharp_openBlock : Sharp openBlock fun _ => True := by
  constructor
  · intro found token rest h
    rcases openBlock_eq_ok h with ⟨opening, hfound, _, htakes⟩
    exact ⟨opening, hfound, htakes⟩
  · intro found error h
    cases found with
    | nil =>
        cases h
        exact .inl (.endOfInput _)
    | cons first others =>
        by_cases hcolon : first.sign = colonSign
        · have hgoes : GoesOn openBlock (fun _ => True) [first] (expectValue .mark "\x7b")
              fun token => token.sign = (.mark, "\x7b") := by
            refine ⟨fun hfails => (openBlock_of_colon hcolon).trans hfails, ?_⟩
            intro inner brace _ htakes
            refine ⟨[], brace, trivial, ?_⟩
            intro rest
            rw [List.append_nil]
            exact (openBlock_of_colon hcolon).trans (htakes rest)
          rw [openBlock_of_colon hcolon] at h
          exact hgoes.failsIn ((sharp_expectValue _ _).fails h)
        · rw [openBlock_of_not_colon hcolon] at h
          rcases expectValue_eq_error h with ⟨rfl, hstops⟩
          refine failsIn_first (.mismatch first _) ⟨_, _, trivial, takes_openBlock⟩ ?_
          intro rest
          exact (openBlock_of_not_colon hcolon).trans (hstops rest)

def valueOf (kind : TokenKind) (found : List Token) : Except BlockError (String × List Token) :=
  expectKind kind found >>= fun part => .ok (part.1.value, part.2)

theorem takes_valueOf (h : token.kind = kind) : Takes (valueOf kind) [token] token.value := by
  intro rest
  unfold valueOf
  rw [expectKind_iff.mpr ⟨List.singleton_append, h⟩]
  rfl

theorem sharp_valueOf (kind : TokenKind) (value : String) :
    Sharp (valueOf kind) fun given => given = value := by
  constructor
  · intro found given rest h
    rcases except_bind_eq_ok.mp h with ⟨⟨token, behind⟩, hkind, hsame⟩
    rcases expectKind_iff.mp hkind with ⟨rfl, htoken⟩
    cases hsame
    exact ⟨[token], rfl, takes_valueOf htoken⟩
  · intro found error h
    cases found with
    | nil =>
        cases h
        exact .inl (.endOfInput kind.name)
    | cons token rest =>
        by_cases hkind : token.kind = kind
        · rw [← List.singleton_append, takes_valueOf hkind] at h
          cases h
        · have hstops : ∀ others,
              valueOf kind (token :: others) = .error (.mismatch token kind.name) := by
            intro others
            unfold valueOf
            rw [expectKind, if_neg hkind]
            rfl
          rw [hstops] at h
          cases h
          refine failsIn_first (.mismatch token kind.name) ?_ hstops
          exact ⟨[tokenOf (kind, value)], _, rfl, takes_valueOf rfl⟩

theorem scalar_eq (kind : TokenKind) (found : List Token) : scalar kind found =
    expectValue .mark ":" found >>= fun part => valueOf kind part.2 := rfl

theorem sharp_scalar (kind : TokenKind) (value : String) :
    Sharp (scalar kind) fun given => given = value :=
  sharp_parts (fun _ => valueOf kind) (scalar_eq kind) (sharp_expectValue .mark ":")
    (fun _ => sharp_valueOf kind value)
    fun _ _ => ⟨[tokenOf (kind, value)], value, rfl, takes_valueOf rfl⟩

theorem scalar_eq_ok (h : scalar kind found = .ok (value, rest)) :
    ∃ colon token, found = colon :: token :: rest ∧ colon.sign = colonSign ∧
      token.sign = (kind, value) := by
  rcases begins_scalar.mpr ⟨rest, h, begins_nil.mpr rfl⟩ with ⟨used, hfound, hused⟩
  rcases signs_cons hused with ⟨colon, others, rfl, hcolon, hothers⟩
  rcases signs_cons hothers with ⟨token, last, rfl, htoken, hlast⟩
  rw [List.map_eq_nil_iff.mp hlast] at hfound
  exact ⟨colon, token, hfound, hcolon, htoken⟩

theorem takes_scalar {colon : Token} (hcolon : colon.sign = colonSign)
    (htoken : token.sign = (kind, value)) : Takes (scalar kind) [colon, token] value :=
  fun _ => scalar_of_signs hcolon htoken

theorem takes_scalar_tokenOf (kind : TokenKind) (value : String) :
    Takes (scalar kind) [tokenOf colonSign, tokenOf (kind, value)] value :=
  takes_scalar rfl rfl

/-!
# Fields
-/

theorem fieldOrEnd_eq_some (h : fieldOrEnd found = .ok (some field, rest)) :
    found = field :: rest ∧ field.kind = .word := by
  have hbegins : Begins found [(.word, field.value)] rest :=
    begins_field.mpr ⟨field, rest, h, rfl, begins_nil.mpr rfl⟩
  rcases begins_cons.mp hbegins with ⟨token, behind, rfl, hsign, hbehind⟩
  rw [begins_nil.mp hbehind] at h ⊢
  rw [fieldOrEnd_of_word hsign] at h
  cases h
  exact ⟨rfl, Token.kind_of_sign hsign⟩

theorem takes_fieldOrEnd (h : field.kind = .word) : Takes fieldOrEnd [field] (some field) :=
  fun _ => fieldOrEnd_of_word (Token.sign_eq_iff.mpr ⟨h, rfl⟩)

/-- A block can go on with any field where it can go on at all. -/
theorem failsIn_fieldOrEnd (word : String) (h : fieldOrEnd found = .error error) :
    FailsIn fieldOrEnd (fun field? => ∃ field, field? = some field ∧ field.sign = (.word, word))
      error found := by
  cases found with
  | nil =>
      cases h
      exact .inl .unterminatedBlock
  | cons token rest =>
      simp only [fieldOrEnd] at h
      split at h
      · cases h
      · rename_i hclose
        split at h
        · cases h
        · rename_i hword
          cases h
          refine failsIn_first (.mismatch token _) ?_ ?_
          · exact ⟨[tokenOf (.word, word)], _, ⟨_, rfl, rfl⟩, takes_fieldOrEnd rfl⟩
          · intro others
            simp only [fieldOrEnd]
            rw [if_neg hclose, if_neg hword]

/-!
# Blocks of fields

The three kinds of block are read alike: the keyword of a field decides how it goes on.
-/

section

variable (next : Option Token → List Token → Except BlockError (α × List Token))
  (hf : ∀ found, f found = fieldOrEnd found >>= fun part => next part.1 part.2)

include hf

theorem failsIn_start (word : String)
    (hnext : ∀ field : Token, field.sign = (.word, word) → Fits (next (some field)) good [])
    (h : fieldOrEnd found = .error error) : FailsIn f good error found := by
  refine (goesOn_first next hf ?_).failsIn (failsIn_fieldOrEnd word h)
  intro field? hfield
  rcases hfield with ⟨field, rfl, hsign⟩
  exact hnext field hsign

theorem failsIn_field (hfield : fieldOrEnd found = .ok (some field, rest))
    (h : FailsIn (next (some field)) good error rest) : FailsIn f good error found := by
  rcases fieldOrEnd_eq_some hfield with ⟨rfl, hkind⟩
  exact (goesOn_next next hf (takes_fieldOrEnd hkind)).failsIn h

theorem failsIn_unknown (hfield : fieldOrEnd found = .ok (some field, rest))
    (hfits : Fits f good []) (h : ∀ rest, next (some field) rest = .error (.unknownField field)) :
    FailsIn f good (.unknownField field) found := by
  rcases fieldOrEnd_eq_some hfield with ⟨rfl, hkind⟩
  refine failsIn_first (.unknownField field) hfits ?_
  intro rest
  rw [hf, ← List.singleton_append, takes_fieldOrEnd hkind]
  exact h rest

variable (later : β → List Token → Except BlockError (α × List Token))
  (hnext : ∀ rest, next (some field) rest = g rest >>= fun part => later part.1 part.2)

include hnext

theorem failsIn_part (hfield : fieldOrEnd found = .ok (some field, rest))
    (hfits : ∀ y, goodPart y → Fits (later y) good []) (h : FailsIn g goodPart error rest) :
    FailsIn f good error found :=
  failsIn_field next hf hfield ((goesOn_first later hnext hfits).failsIn h)

theorem failsIn_later (hfield : fieldOrEnd found = .ok (some field, inner))
    (htakes : ∃ used, inner = used ++ rest ∧ Takes g used y)
    (h : FailsIn (later y) good error rest) : FailsIn f good error found := by
  rcases htakes with ⟨used, rfl, htakes⟩
  exact failsIn_field next hf hfield ((goesOn_next later hnext htakes).failsIn h)

end

section

variable (next : Option Token → List Token → Except BlockError (α × List Token))
  {later : β → List Token → Except BlockError (α × List Token)}

theorem bind_field_of_error (hfield : fieldOrEnd found = .ok (some field, rest))
    (hnext : ∀ rest, next (some field) rest = g rest >>= fun part => later part.1 part.2)
    (hpart : g rest = .error error) :
    (fieldOrEnd found >>= fun part => next part.1 part.2) = .error error := by
  rw [hfield]
  apply (hnext rest).trans
  rw [hpart]
  rfl

theorem bind_field_of_ok (hfield : fieldOrEnd found = .ok (some field, inner))
    (hnext : ∀ rest, next (some field) rest = g rest >>= fun part => later part.1 part.2)
    (hpart : g inner = .ok (y, rest)) :
    (fieldOrEnd found >>= fun part => next part.1 part.2) = later y rest := by
  rw [hfield]
  apply (hnext inner).trans
  rw [hpart]
  rfl

end

end BlockFormat
end Ownership
