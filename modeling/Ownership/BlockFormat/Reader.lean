import Ownership.BlockFormat.Token
import Ownership.OwnerConfig
import Ownership.Text.DecimalDigit

/-!
# Reading the block format

A configuration is one block `owners_config { … }` whose fields are a flag and blocks for the sets
of owners; a set has path expressions and blocks for its owners; an owner has an email.  The colon
before an opening brace may be left out.  Any defect makes the whole text unreadable.  A text
without tokens is a configuration without owners.

Each reading function takes one piece off the front of the tokens and gives the rest, which is
shorter.
-/

namespace Ownership
namespace BlockFormat

inductive BlockError
  | token (error : TokenError)
  | endOfInput (expected : String)
  | mismatch (found : Token) (expected : String)
  | unterminatedBlock
  | unknownField (field : Token)
  | ownerWithoutEmail (keyword : Token)
  | notTruthValue (keyword : Token) (value : String)
  | trailing (found : Token)
deriving DecidableEq, Repr

def lineMark (line : Nat) : String := "line " ++ Text.integerText line ++ ": "

def TokenError.message : TokenError → String
  | .unterminated line => lineMark line ++ "unterminated string"
  | .unexpected line c => lineMark line ++ "unexpected character " ++ Text.quoted c.toString

def BlockError.message : BlockError → String
  | .token error => error.message
  | .endOfInput expected => "unexpected end of input, expected " ++ expected
  | .mismatch found expected =>
      lineMark found.line ++ "expected " ++ expected ++ ", got " ++ Text.quoted found.value
  | .unterminatedBlock => "unterminated block, expected '\x7d'"
  | .unknownField field => lineMark field.line ++ "unknown field " ++ Text.quoted field.value
  | .ownerWithoutEmail keyword => lineMark keyword.line ++ "owners block without email"
  | .notTruthValue keyword value =>
      lineMark keyword.line ++ "expected true or false, got " ++ Text.quoted value
  | .trailing found =>
      lineMark found.line ++ "unexpected " ++ Text.quoted found.value ++ " after owners_config"

/-!
# Single pieces
-/

def Token.isMark (token : Token) (value : String) : Bool :=
  token.kind = .mark && token.value = value

def expectKind (kind : TokenKind) : List Token → Except BlockError (Token × List Token)
  | [] => .error (.endOfInput kind.name)
  | token :: rest =>
      if token.kind = kind then .ok (token, rest) else .error (.mismatch token kind.name)

def expectValue (kind : TokenKind) (value : String) :
    List Token → Except BlockError (Token × List Token)
  | [] => .error (.endOfInput value)
  | token :: rest =>
      if token.kind = kind ∧ token.value = value then .ok (token, rest)
      else .error (.mismatch token value)

def openBlock (tokens : List Token) : Except BlockError (Token × List Token) :=
  match tokens with
  | token :: rest =>
      if token.isMark ":" then expectValue .mark "\x7b" rest
      else expectValue .mark "\x7b" tokens
  | [] => expectValue .mark "\x7b" []

def scalar (kind : TokenKind) (tokens : List Token) : Except BlockError (String × List Token) := do
  let (_, rest) ← expectValue .mark ":" tokens
  let (token, rest) ← expectKind kind rest
  return (token.value, rest)

/-- What comes next in a block: its end, or the keyword of a field. -/
def fieldOrEnd (tokens : List Token) : Except BlockError (Option Token × List Token) :=
  match tokens with
  | [] => .error .unterminatedBlock
  | token :: rest =>
      if token.isMark "\x7d" then .ok (none, rest)
      else if token.kind = .word then .ok (some token, rest)
      else .error (.mismatch token TokenKind.word.name)

/-!
# Every piece makes the rest shorter
-/

theorem length_of_expectKind {kind : TokenKind} {tokens rest : List Token} {token : Token}
    (h : expectKind kind tokens = .ok (token, rest)) : rest.length < tokens.length := by
  cases tokens with
  | nil => cases h
  | cons head tail =>
      simp only [expectKind] at h
      split at h
      · simp only [Except.ok.injEq, Prod.mk.injEq] at h
        simp [h.2]
      · cases h

theorem length_of_expectValue {kind : TokenKind} {value : String} {tokens rest : List Token}
    {token : Token} (h : expectValue kind value tokens = .ok (token, rest)) :
    rest.length < tokens.length := by
  cases tokens with
  | nil => cases h
  | cons head tail =>
      simp only [expectValue] at h
      split at h
      · simp only [Except.ok.injEq, Prod.mk.injEq] at h
        simp [h.2]
      · cases h

theorem length_of_openBlock {tokens rest : List Token} {token : Token}
    (h : openBlock tokens = .ok (token, rest)) : rest.length < tokens.length := by
  cases tokens with
  | nil => cases h
  | cons head tail =>
      simp only [openBlock] at h
      split at h
      · have := length_of_expectValue h
        simp only [List.length_cons]
        omega
      · exact length_of_expectValue h

theorem length_of_scalar {kind : TokenKind} {tokens rest : List Token} {value : String}
    (h : scalar kind tokens = .ok (value, rest)) : rest.length < tokens.length := by
  simp only [scalar, bind, Except.bind, pure, Except.pure] at h
  split at h
  · cases h
  · rename_i first hfirst
    obtain ⟨colon, behind⟩ := first
    split at h
    · cases h
    · rename_i second hsecond
      obtain ⟨token, after⟩ := second
      simp only [Except.ok.injEq, Prod.mk.injEq] at h
      have h1 := length_of_expectValue hfirst
      have h2 := length_of_expectKind hsecond
      simp only at h2
      rw [← h.2]
      omega

theorem length_of_fieldOrEnd {tokens rest : List Token} {field : Option Token}
    (h : fieldOrEnd tokens = .ok (field, rest)) : rest.length < tokens.length := by
  cases tokens with
  | nil => cases h
  | cons head tail =>
      simp only [fieldOrEnd] at h
      split at h
      · simp only [Except.ok.injEq, Prod.mk.injEq] at h
        simp [h.2]
      · split at h
        · simp only [Except.ok.injEq, Prod.mk.injEq] at h
          simp [h.2]
        · cases h

/-!
# Blocks

The three kinds of block are read field by field up to their closing brace.
-/

/-- The fields of an owner; of several emails the last counts. -/
def ownerFields (email : Option String) (tokens : List Token) :
    Except BlockError (Option String × List Token) :=
  match _hfield : fieldOrEnd tokens with
  | .error error => .error error
  | .ok (none, rest) => .ok (email, rest)
  | .ok (some field, rest) =>
      if field.value = "email" then
        match _hvalue : scalar .text rest with
        | .error error => .error error
        | .ok (value, rest) => ownerFields (some value) rest
      else .error (.unknownField field)
termination_by tokens.length
decreasing_by
  have h1 := length_of_fieldOrEnd _hfield
  have h2 := length_of_scalar _hvalue
  omega

theorem length_of_ownerFields {email : Option String} {tokens rest : List Token}
    {result : Option String} (h : ownerFields email tokens = .ok (result, rest)) :
    rest.length < tokens.length := by
  fun_induction ownerFields email tokens with
  | case1 => cases h
  | case2 email tokens behind hfield =>
      cases h
      exact length_of_fieldOrEnd hfield
  | case3 => cases h
  | case4 email tokens field behind hfield hname value after hvalue ih =>
      have h1 := length_of_fieldOrEnd hfield
      have h2 := length_of_scalar hvalue
      have h3 := ih h
      omega
  | case5 => cases h

/-- The block of an owner; `keyword` is the word in front of it. -/
def ownerBlock (keyword : Token) (tokens : List Token) :
    Except BlockError (OwnerRef × List Token) := do
  let (_, rest) ← openBlock tokens
  let (email, rest) ← ownerFields none rest
  match email with
  | some email => return ({ email }, rest)
  | none => throw (.ownerWithoutEmail keyword)

theorem length_of_ownerBlock {keyword : Token} {tokens rest : List Token} {owner : OwnerRef}
    (h : ownerBlock keyword tokens = .ok (owner, rest)) : rest.length < tokens.length := by
  simp only [ownerBlock, bind, Except.bind, pure, Except.pure] at h
  split at h
  · cases h
  · rename_i first hfirst
    obtain ⟨brace, behind⟩ := first
    split at h
    · cases h
    · rename_i second hsecond
      obtain ⟨email, after⟩ := second
      split at h
      · simp only [Except.ok.injEq, Prod.mk.injEq] at h
        have h1 := length_of_openBlock hfirst
        have h2 := length_of_ownerFields hsecond
        simp only at h2
        rw [← h.2]
        omega
      · cases h

def setFields (set : OwnerSet) (tokens : List Token) : Except BlockError (OwnerSet × List Token) :=
  match _hfield : fieldOrEnd tokens with
  | .error error => .error error
  | .ok (none, rest) => .ok (set, rest)
  | .ok (some field, rest) =>
      if field.value = "path_expressions" then
        match _hvalue : scalar .text rest with
        | .error error => .error error
        | .ok (glob, rest) => setFields { set with globs := set.globs ++ [glob] } rest
      else if field.value = "owners" then
        match _howner : ownerBlock field rest with
        | .error error => .error error
        | .ok (owner, rest) => setFields { set with owners := set.owners ++ [owner] } rest
      else .error (.unknownField field)
termination_by tokens.length
decreasing_by
  · have h1 := length_of_fieldOrEnd _hfield
    have h2 := length_of_scalar _hvalue
    omega
  · have h1 := length_of_fieldOrEnd _hfield
    have h2 := length_of_ownerBlock _howner
    omega

theorem length_of_setFields {set result : OwnerSet} {tokens rest : List Token}
    (h : setFields set tokens = .ok (result, rest)) : rest.length < tokens.length := by
  fun_induction setFields set tokens with
  | case1 => cases h
  | case2 set tokens behind hfield =>
      cases h
      exact length_of_fieldOrEnd hfield
  | case3 => cases h
  | case4 set tokens field behind hfield hname glob after hvalue ih =>
      have h1 := length_of_fieldOrEnd hfield
      have h2 := length_of_scalar hvalue
      have h3 := ih h
      omega
  | case5 => cases h
  | case6 set tokens field behind hfield hname hname' owner after howner ih =>
      have h1 := length_of_fieldOrEnd hfield
      have h2 := length_of_ownerBlock howner
      have h3 := ih h
      omega
  | case7 => cases h

def setBlock (tokens : List Token) : Except BlockError (OwnerSet × List Token) := do
  let (_, rest) ← openBlock tokens
  setFields {} rest

theorem length_of_setBlock {tokens rest : List Token} {set : OwnerSet}
    (h : setBlock tokens = .ok (set, rest)) : rest.length < tokens.length := by
  simp only [setBlock, bind, Except.bind] at h
  split at h
  · cases h
  · rename_i first hfirst
    obtain ⟨brace, behind⟩ := first
    have h1 := length_of_openBlock hfirst
    have h2 := length_of_setFields h
    simp only at h2
    omega

def truthValue (keyword : Token) (value : String) : Except BlockError Bool :=
  if value = "true" then .ok true
  else if value = "false" then .ok false
  else .error (.notTruthValue keyword value)

/-- What the fields of a configuration say; sets without owners are left out. -/
structure Fields where
  ignoresParents : Bool := false
  sets : List OwnerSet := []
deriving DecidableEq, Repr

def configFields (fields : Fields) (tokens : List Token) :
    Except BlockError (Fields × List Token) :=
  match _hfield : fieldOrEnd tokens with
  | .error error => .error error
  | .ok (none, rest) => .ok (fields, rest)
  | .ok (some field, rest) =>
      if field.value = "ignore_parent_owners" then
        match _hvalue : scalar .word rest with
        | .error error => .error error
        | .ok (value, rest) =>
            match truthValue field value with
            | .error error => .error error
            | .ok ignoresParents => configFields { fields with ignoresParents } rest
      else if field.value = "owner_sets" then
        match _hset : setBlock rest with
        | .error error => .error error
        | .ok (set, rest) =>
            if set.owners.isEmpty then configFields fields rest
            else configFields { fields with sets := fields.sets ++ [set] } rest
      else .error (.unknownField field)
termination_by tokens.length
decreasing_by
  · have h1 := length_of_fieldOrEnd _hfield
    have h2 := length_of_scalar _hvalue
    omega
  all_goals
    have h1 := length_of_fieldOrEnd _hfield
    have h2 := length_of_setBlock _hset
    omega

/-!
# Whole texts
-/

def readFields (tokens : List Token) : Except BlockError Fields :=
  if tokens.isEmpty then .ok {}
  else do
    let (_, rest) ← expectValue .word "owners_config" tokens
    let (_, rest) ← openBlock rest
    let (fields, rest) ← configFields {} rest
    match rest with
    | [] => return fields
    | found :: _ => throw (.trailing found)

def read (key : ConfigKey) (text : String) : Except BlockError OwnerConfig := do
  let tokens ← (tokens text).mapError .token
  let fields ← readFields tokens
  return { key, ignoresParents := fields.ignoresParents, sets := fields.sets }

end BlockFormat
end Ownership
