import Ownership.Proofs.BlockFormat.Blame
import Ownership.Proofs.Tree.Commits

/-!
# The lines that errors tell of

Every token has the number of the line on which it begins, and so does everything that belongs to no
token.  The scan counts the line feeds in front of it, but for those that stand in a quoted text,
where a backslash can be put in front of a line feed.
-/

namespace Ownership
namespace BlockFormat

/-- The scan of a text gets to `rest` behind what stands in front of it, with these signs, and
passes over so many line feeds in quoted texts. -/
inductive Reaches (rest : List Char) : List Char → List Sign → Nat → Prop
  | here : Reaches rest [] [] 0
  | blank {c : Char} {before : List Char} {signs : List Sign} {hidden : Nat}
      (hblank : Text.isBlank c = true) (h : Reaches rest before signs hidden) :
      Reaches rest (c :: before) signs hidden
  | comment {text before : List Char} {signs : List Sign} {hidden : Nat} (hline : '\n' ∉ text)
      (hend : ∀ c ∈ (before ++ rest).head?, c = '\n') (h : Reaches rest before signs hidden) :
      Reaches rest ('#' :: (text ++ before)) signs hidden
  | mark {c : Char} {before : List Char} {signs : List Sign} {hidden : Nat}
      (hmark : isMark c = true) (h : Reaches rest before signs hidden) :
      Reaches rest (c :: before) ((.mark, c.toString) :: signs) hidden
  | text {body text before : List Char} {signs : List Sign} {hidden : Nat}
      (hbody : Quoted body text) (h : Reaches rest before signs hidden) :
      Reaches rest ('"' :: (body ++ '"' :: before)) ((.text, String.ofList text) :: signs)
        (body.count '\n' + hidden)
  | word {word before : List Char} {signs : List Sign} {hidden : Nat} (hne : word ≠ [])
      (hletters : ∀ c ∈ word, isWordChar c = true)
      (hend : ∀ c ∈ (before ++ rest).head?, isWordChar c = false)
      (h : Reaches rest before signs hidden) :
      Reaches rest (word ++ before) ((.word, String.ofList word) :: signs) hidden

inductive Stuck : TokenError → List Char → Prop
  | unterminated {line : Nat} {rest : List Char}
      (hopen : ∀ body text behind, Quoted body text → rest ≠ body ++ '"' :: behind) :
      Stuck (.unterminated line) ('"' :: rest)
  | unexpected {line : Nat} {c : Char} {rest : List Char} (hblank : Text.isBlank c = false)
      (hcomment : c ≠ '#') (hmark : isMark c = false) (hquote : c ≠ '"')
      (hletter : isWordChar c = false) : Stuck (.unexpected line c) (c :: rest)

def TokenError.line : TokenError → Nat
  | .unterminated line => line
  | .unexpected line _ => line

/-- The scan of `s` begins on one line and arrives at `rest` on another one, as it counts them. -/
def Arrives (line : Nat) (s : List Char) (later : Nat) (signs : List Sign) (rest : List Char) :
    Prop :=
  ∃ before hidden, s = before ++ rest ∧ Reaches rest before signs hidden ∧
    later + hidden = line + before.count '\n'

variable {s rest before body inner letters behind : List Char} {signs : List Sign}
  {line later hidden : Nat} {c : Char} {used tail : List Token} {token : Token} {error : TokenError}

/-!
# Steps of the scan
-/

theorem arrives_here : Arrives line s line [] s := ⟨[], 0, rfl, .here, rfl⟩

theorem Arrives.lineFeed (h : Arrives (line + 1) s later signs rest) :
    Arrives line ('\n' :: s) later signs rest := by
  rcases h with ⟨before, hidden, rfl, hreaches, hcount⟩
  refine ⟨'\n' :: before, hidden, rfl, .blank (by decide) hreaches, ?_⟩
  rw [List.count_cons_self]
  omega

theorem Arrives.blank (hfeed : c ≠ '\n') (hblank : Text.isBlank c = true)
    (h : Arrives line s later signs rest) : Arrives line (c :: s) later signs rest := by
  rcases h with ⟨before, hidden, rfl, hreaches, hcount⟩
  refine ⟨c :: before, hidden, rfl, .blank hblank hreaches, ?_⟩
  rw [List.count_cons_of_ne hfeed, hcount]

theorem Arrives.comment (h : Arrives line (s.dropWhile (· ≠ '\n')) later signs rest) :
    Arrives line ('#' :: s) later signs rest := by
  rcases h with ⟨before, hidden, hdrop, hreaches, hcount⟩
  have hwhole : s = s.takeWhile (· ≠ '\n') ++ (before ++ rest) := by
    rw [← hdrop, List.takeWhile_append_dropWhile]
  have hline : '\n' ∉ s.takeWhile (· ≠ '\n') := by
    intro hmem
    have hplain := List.mem_takeWhile_imp hmem
    simp at hplain
  have hend : ∀ c ∈ (before ++ rest).head?, c = '\n' := by
    intro c hc
    rw [← hdrop] at hc
    have hstop := not_of_head_dropWhile hc
    simpa using hstop
  refine ⟨'#' :: (s.takeWhile (· ≠ '\n') ++ before), hidden, ?_, .comment hline hend hreaches, ?_⟩
  · rw [List.cons_append, List.append_assoc, ← hwhole]
  · rw [List.count_cons_of_ne (by decide), List.count_append, List.count_eq_zero.mpr hline, hcount]
    omega

theorem Arrives.mark (hmark : isMark c = true) (h : Arrives line s later signs rest) :
    Arrives line (c :: s) later ((.mark, c.toString) :: signs) rest := by
  rcases h with ⟨before, hidden, rfl, hreaches, hcount⟩
  have hfeed : c ≠ '\n' := by
    rintro rfl
    cases hmark
  refine ⟨c :: before, hidden, rfl, .mark hmark hreaches, ?_⟩
  rw [List.count_cons_of_ne hfeed, hcount]

/-- The line feeds of the quoted text are not counted. -/
theorem Arrives.text (hbody : Quoted body inner) (h : Arrives line s later signs rest) :
    Arrives line ('"' :: (body ++ '"' :: s)) later ((.text, String.ofList inner) :: signs)
      rest := by
  rcases h with ⟨before, hidden, rfl, hreaches, hcount⟩
  refine ⟨'"' :: (body ++ '"' :: before), _, ?_, .text hbody hreaches, ?_⟩
  · simp
  · rw [List.count_cons_of_ne (by decide), List.count_append, List.count_cons_of_ne (by decide)]
    omega

theorem Arrives.word (hne : letters ≠ []) (hletters : ∀ c ∈ letters, isWordChar c = true)
    (hend : ∀ c ∈ s.head?, isWordChar c = false) (h : Arrives line s later signs rest) :
    Arrives line (letters ++ s) later ((.word, String.ofList letters) :: signs) rest := by
  rcases h with ⟨before, hidden, rfl, hreaches, hcount⟩
  have hfeed : '\n' ∉ letters := by
    intro hmem
    have hblank := (open_of_isWordChar (hletters _ hmem)).1
    cases hblank
  refine ⟨letters ++ before, hidden, (List.append_assoc _ _ _).symm,
    .word hne hletters hend hreaches, ?_⟩
  rw [List.count_append, List.count_eq_zero.mpr hfeed, hcount]
  omega

theorem longestWord (hletter : isWordChar c = true) (s : List Char) :
    c :: s = c :: s.takeWhile isWordChar ++ s.dropWhile isWordChar ∧
      (∀ d ∈ c :: s.takeWhile isWordChar, isWordChar d = true) ∧
        ∀ d ∈ (s.dropWhile isWordChar).head?, isWordChar d = false := by
  refine ⟨?_, ?_, fun d hd => not_of_head_dropWhile hd⟩
  · rw [List.cons_append, List.takeWhile_append_dropWhile]
  · intro d hd
    rcases List.mem_cons.mp hd with rfl | hd
    · exact hletter
    · exact List.mem_takeWhile_imp hd

/-!
# Runs of the scan
-/

theorem cons_eq_append_cons {first : Token} {others : List Token}
    (h : first :: others = used ++ token :: tail) :
    (used = [] ∧ first = token ∧ others = tail) ∨
      ∃ more, used = first :: more ∧ others = more ++ token :: tail := by
  cases used with
  | nil =>
      cases h
      exact .inl ⟨rfl, rfl, rfl⟩
  | cons start more =>
      cases h
      exact .inr ⟨more, rfl, rfl⟩

/-- The scan arrives at every token on the line of the token. -/
theorem arrives_at_token (h : tokensFrom line s = .ok (used ++ token :: tail)) :
    ∃ behind, Arrives line s token.line (used.map Token.sign) behind ∧
      Scans behind ((token :: tail).map Token.sign) ∧
        ∀ c ∈ behind.head?, Text.isBlank c = false ∧ c ≠ '#' := by
  fun_induction tokensFrom line s generalizing used with
  | case1 =>
      have hnone := (Except.ok.inj h).symm
      simp at hnone
  | case2 line rest ih =>
      rcases ih h with ⟨behind, harrives, hbehind⟩
      exact ⟨behind, harrives.lineFeed, hbehind⟩
  | case3 line c rest hfeed hblank ih =>
      rcases ih h with ⟨behind, harrives, hbehind⟩
      exact ⟨behind, harrives.blank hfeed hblank, hbehind⟩
  | case4 line rest hfeed hblank ih =>
      rcases ih h with ⟨behind, harrives, hbehind⟩
      exact ⟨behind, harrives.comment, hbehind⟩
  | case5 line c rest hfeed hblank hcomment hmark ih =>
      rcases except_map_eq_ok.mp h with ⟨others, hothers, hrow⟩
      rcases cons_eq_append_cons hrow with ⟨rfl, rfl, rfl⟩ | ⟨more, rfl, rfl⟩
      · refine ⟨c :: rest, arrives_here, .mark hmark (scans_of_tokensFrom hothers), ?_⟩
        intro d hd
        cases hd
        exact ⟨Bool.not_eq_true _ ▸ hblank, hcomment⟩
      · rcases ih hothers with ⟨behind, harrives, hbehind⟩
        exact ⟨behind, harrives.mark hmark, hbehind⟩
  | case6 => cases h
  | case7 line rest inner behind hread hfeed hblank hcomment hmark ih =>
      rcases except_map_eq_ok.mp h with ⟨others, hothers, hrow⟩
      rcases quoted_of_readText? hread with ⟨body, rfl, hbody⟩
      rcases cons_eq_append_cons hrow with ⟨rfl, rfl, rfl⟩ | ⟨more, rfl, rfl⟩
      · refine ⟨_, arrives_here, .text hbody (scans_of_tokensFrom hothers), ?_⟩
        intro d hd
        cases hd
        decide
      · rcases ih hothers with ⟨behind, harrives, hbehind⟩
        exact ⟨behind, harrives.text hbody, hbehind⟩
  | case8 line c rest hfeed hblank hcomment hmark hquote hletter word =>
      rename_i ih
      rcases longestWord hletter rest with ⟨hwhole, hletters, hend⟩
      rcases except_map_eq_ok.mp h with ⟨others, hothers, hrow⟩
      rcases cons_eq_append_cons hrow with ⟨rfl, rfl, rfl⟩ | ⟨more, rfl, rfl⟩
      · refine ⟨c :: rest, arrives_here, ?_, ?_⟩
        · rw [hwhole]
          exact .word (List.cons_ne_nil _ _) hletters hend (scans_of_tokensFrom hothers)
        · intro d hd
          cases hd
          exact ⟨Bool.not_eq_true _ ▸ hblank, hcomment⟩
      · rcases ih hothers with ⟨behind, harrives, hbehind⟩
        rw [hwhole]
        exact ⟨behind, harrives.word (List.cons_ne_nil _ _) hletters hend, hbehind⟩
  | case9 => cases h

/-- Where there is no token, the scan arrives on the line of the error. -/
theorem arrives_at_error (h : tokensFrom line s = .error error) :
    ∃ signs behind, Arrives line s error.line signs behind ∧ Stuck error behind := by
  fun_induction tokensFrom line s with
  | case1 => cases h
  | case2 line rest ih =>
      rcases ih h with ⟨signs, behind, harrives, hstuck⟩
      exact ⟨signs, behind, harrives.lineFeed, hstuck⟩
  | case3 line c rest hfeed hblank ih =>
      rcases ih h with ⟨signs, behind, harrives, hstuck⟩
      exact ⟨signs, behind, harrives.blank hfeed hblank, hstuck⟩
  | case4 line rest hfeed hblank ih =>
      rcases ih h with ⟨signs, behind, harrives, hstuck⟩
      exact ⟨signs, behind, harrives.comment, hstuck⟩
  | case5 line c rest hfeed hblank hcomment hmark ih =>
      rcases ih (except_map_eq_error.mp h) with ⟨signs, behind, harrives, hstuck⟩
      exact ⟨_, behind, harrives.mark hmark, hstuck⟩
  | case6 line rest hread hfeed hblank hcomment hmark =>
      cases h
      refine ⟨[], _, arrives_here, .unterminated ?_⟩
      rintro body inner behind hbody rfl
      rw [readText?_of_quoted hbody] at hread
      cases hread
  | case7 line rest inner behind hread hfeed hblank hcomment hmark ih =>
      rcases quoted_of_readText? hread with ⟨body, rfl, hbody⟩
      rcases ih (except_map_eq_error.mp h) with ⟨signs, behind, harrives, hstuck⟩
      exact ⟨_, behind, harrives.text hbody, hstuck⟩
  | case8 line c rest hfeed hblank hcomment hmark hquote hletter word =>
      rename_i ih
      rcases longestWord hletter rest with ⟨hwhole, hletters, hend⟩
      rcases ih (except_map_eq_error.mp h) with ⟨signs, behind, harrives, hstuck⟩
      rw [hwhole]
      exact ⟨_, behind, harrives.word (List.cons_ne_nil _ _) hletters hend, hstuck⟩
  | case9 line c rest hfeed hblank hcomment hmark hquote hletter =>
      cases h
      simp only [Bool.not_eq_true] at hblank hmark hletter
      exact ⟨[], _, arrives_here, .unexpected hblank hcomment hmark hquote hletter⟩

theorem count_of_quoted (h : Quoted body inner) (hplain : ¬ ['\\', '\n'] <:+: body) :
    body.count '\n' = 0 := by
  induction h with
  | nothing => rfl
  | @plain c body text hc h ih =>
      have hfeed : c ≠ '\n' := by
        rintro rfl
        exact hc List.mem_cons_self
      rw [List.count_cons_of_ne hfeed]
      exact ih fun hwithin => hplain (hwithin.trans (List.suffix_cons c body).isInfix)
  | @escaped c body text h ih =>
      have hfeed : c ≠ '\n' := by
        rintro rfl
        exact hplain (List.IsPrefix.isInfix ⟨body, rfl⟩)
      rw [List.count_cons_of_ne (by decide), List.count_cons_of_ne hfeed]
      exact ih fun hwithin => hplain (hwithin.trans (List.IsSuffix.isInfix ⟨['\\', c], rfl⟩))

theorem Reaches.hidden_eq_zero (h : Reaches rest before signs hidden)
    (hplain : ¬ ['\\', '\n'] <:+: before) : hidden = 0 := by
  have hshorter : ∀ {front before : List Char}, ¬ ['\\', '\n'] <:+: front ++ before →
      ¬ ['\\', '\n'] <:+: before := by
    intro front before hnot hwithin
    exact hnot (hwithin.trans (List.suffix_append front before).isInfix)
  induction h with
  | here => rfl
  | @blank c before signs hidden hblank h ih => exact ih (@hshorter [c] before hplain)
  | @comment text before signs hidden hline hend h ih =>
      exact ih (@hshorter ('#' :: text) before hplain)
  | @mark c before signs hidden hmark h ih => exact ih (@hshorter [c] before hplain)
  | @text body text before signs hidden hbody h ih =>
      have hbodyPlain : ¬ ['\\', '\n'] <:+: body := by
        intro hwithin
        exact hplain (hwithin.trans ⟨['"'], '"' :: before, by simp⟩)
      have hbefore : ¬ ['\\', '\n'] <:+: before := by
        apply @hshorter ('"' :: (body ++ ['"'])) before
        simpa using hplain
      rw [count_of_quoted hbody hbodyPlain, ih hbefore]
  | @word word before signs hidden hne hletters hend h ih => exact ih (hshorter hplain)

/-!
# Messages
-/

def BlockError.line? : BlockError → Option Nat
  | .token error => some error.line
  | .endOfInput _ => none
  | .mismatch found _ => some found.line
  | .unterminatedBlock => none
  | .unknownField field => some field.line
  | .ownerWithoutEmail keyword => some keyword.line
  | .notTruthValue keyword _ => some keyword.line
  | .trailing found => some found.line

theorem colon_notMem_integerText (number : Nat) : ':' ∉ (Text.integerText number).toList :=
  History.notMem_integerText (by decide) number

theorem line_of_lineMark {number line : Nat} {more rest : String}
    (h : lineMark line ++ rest = "line " ++ Text.integerText number ++ ":" ++ more) :
    line = number := by
  have hsame : "line ".toList ++ ((Text.integerText line).toList ++ ':' :: (' ' :: rest.toList)) =
      "line ".toList ++ ((Text.integerText number).toList ++ ':' :: more.toList) := by
    have hchars := congrArg String.toList h
    unfold lineMark at hchars
    simpa using hchars
  have hdigits := (Text.append_separator_inj (colon_notMem_integerText line)
    (colon_notMem_integerText number) (List.append_cancel_left hsame)).1
  exact History.integerText_inj (String.toList_inj.mp hdigits)

/-- A message that tells of a line begins with it, and the others begin with other words. -/
theorem message_cases (error : BlockError) :
    (error.line? = none ∧ error.message.toList.head? = some 'u') ∨
      ∃ line rest, error.line? = some line ∧ error.message = lineMark line ++ rest := by
  cases error with
  | token error =>
      cases error with
      | unterminated line => exact .inr ⟨line, _, rfl, rfl⟩
      | unexpected line c => exact .inr ⟨line, _, rfl, String.append_assoc⟩
  | endOfInput expected =>
      have hfirst : "unexpected end of input, expected ".toList.head? = some 'u' := by decide
      refine .inl ⟨rfl, ?_⟩
      change ("unexpected end of input, expected " ++ expected).toList.head? = some 'u'
      rw [String.toList_append, List.head?_append, hfirst]
      rfl
  | mismatch found expected =>
      refine .inr ⟨found.line, "expected " ++ expected ++ ", got " ++ Text.quoted found.value,
        rfl, ?_⟩
      change lineMark found.line ++ "expected " ++ expected ++ ", got " ++
        Text.quoted found.value = _
      simp only [String.append_assoc]
  | unterminatedBlock => exact .inl ⟨rfl, by decide⟩
  | unknownField field => exact .inr ⟨field.line, _, rfl, String.append_assoc⟩
  | ownerWithoutEmail keyword => exact .inr ⟨keyword.line, _, rfl, rfl⟩
  | notTruthValue keyword value => exact .inr ⟨keyword.line, _, rfl, String.append_assoc⟩
  | trailing found =>
      refine .inr ⟨found.line, "unexpected " ++ Text.quoted found.value ++ " after owners_config",
        rfl, ?_⟩
      change lineMark found.line ++ "unexpected " ++ Text.quoted found.value ++
        " after owners_config" = _
      simp only [String.append_assoc]

theorem line_of_message {error : BlockError} {number : Nat} {more : String}
    (h : error.message = "line " ++ Text.integerText number ++ ":" ++ more) :
    error.line? = some number := by
  rcases message_cases error with ⟨_, hhead⟩ | ⟨line, rest, hline, hmessage⟩
  · rw [h, String.toList_append, String.toList_append, String.toList_append] at hhead
    cases hhead
  · rw [hmessage] at h
    rw [hline, line_of_lineMark h]

/-!
# What errors are about
-/

/-- The error is about what stands at the front of `behind`, where the scan gets to with the signs
of `front`: either there is no token, or there begins a piece of tokens whose last one does not fit,
since up to there the signs can go on to a configuration and with it they cannot. -/
inductive BlockError.IsAbout : BlockError → List Sign → List Char → Prop
  | scan {error : TokenError} {front : List Sign} {behind : List Char} (h : Stuck error behind) :
      BlockError.IsAbout (.token error) front behind
  | piece {error : BlockError} {piece : List Token} {front rest : List Sign} {behind : List Char}
      (hcomplains : error.Complains piece)
      (hfits : CanGoOn (front ++ piece.dropLast.map Token.sign))
      (hstops : ¬ CanGoOn (front ++ piece.map Token.sign))
      (hscans : Scans behind (piece.map Token.sign ++ rest))
      (hfront : ∀ c ∈ behind.head?, Text.isBlank c = false ∧ c ≠ '#') :
      BlockError.IsAbout error front behind

theorem BlockError.Complains.line?_eq {error : BlockError} {first : Token} {others : List Token}
    (h : error.Complains (first :: others)) : error.line? = some first.line := by
  cases h with
  | mismatch => rfl
  | unknownField => rfl
  | trailing => rfl
  | ownerWithoutEmail => rfl
  | notTruthValue => rfl

variable {key : ConfigKey} {text : String} {number : Nat}

theorem arrives_of_read {error : BlockError} (h : read key text = .error error)
    (hline : error.line? = some number) :
    ∃ front behind, Arrives 1 text.toList number front behind ∧ error.IsAbout front behind := by
  unfold read at h
  cases htokens : tokens text with
  | error failure =>
      rw [htokens] at h
      cases h
      cases hline
      rcases arrives_at_error htokens with ⟨front, behind, harrives, hstuck⟩
      exact ⟨front, behind, harrives, .scan hstuck⟩
  | ok found =>
      rw [htokens] at h
      have hfields : readFields found = .error error := by
        cases hread : readFields found with
        | error failure =>
            simp only [Except.mapError, bind, Except.bind, hread] at h
            cases h
            rfl
        | ok fields =>
            simp only [Except.mapError, bind, Except.bind, hread] at h
            cases h
      rcases readFields_eq_error hfields with
        hend | ⟨front, piece, rest, rfl, hcomplains, hfits, hstops⟩
      · cases hend with
        | endOfInput => cases hline
        | unterminatedBlock => cases hline
      · cases piece with
        | nil => exact absurd rfl hcomplains.ne_nil
        | cons first others =>
            rw [hcomplains.line?_eq] at hline
            cases hline
            rcases arrives_at_token htokens with ⟨behind, harrives, hscans, hfront⟩
            rw [List.map_append] at hfits hstops
            have hpiece : Scans behind
                ((first :: others).map Token.sign ++ rest.map Token.sign) := by
              rw [← List.map_append]
              exact hscans
            exact ⟨_, behind, harrives, .piece hcomplains hfits hstops hpiece hfront⟩

/-- An error whose message begins with a line is about something that stands on this line, if the
line feeds in the quoted texts in front of it are left out of the count; such line feeds stand
behind a backslash.  What it is about is the place where no token begins, the first token that does
not fit, the keyword of an owner that is closed without an email, or the keyword of a flag that has
no truth value. -/
theorem line_of_error {error : BlockError} {more : String} (h : read key text = .error error)
    (hmessage : error.message = "line " ++ Text.integerText number ++ ":" ++ more) :
    ∃ before behind front hidden, text.toList = before ++ behind ∧
      Reaches behind before front hidden ∧ error.IsAbout front behind ∧
        number + hidden = before.count '\n' + 1 ∧
          (¬ ['\\', '\n'] <:+: before → number = before.count '\n' + 1) := by
  rcases arrives_of_read h (line_of_message hmessage) with
    ⟨front, behind, ⟨before, hidden, htext, hreaches, hcount⟩, habout⟩
  refine ⟨before, behind, front, hidden, htext, hreaches, habout, by omega, ?_⟩
  intro hplain
  have hnone := hreaches.hidden_eq_zero hplain
  omega

def ledgerKey : ConfigKey := { project := "ledger", branch := "main" }

def ledgerText : String := "\"\\\n\"?"

theorem read_ledgerText :
    read ledgerKey ledgerText = .error (.token (.unexpected 1 '?')) := by
  have hread : readText? "\\\n\"?".toList = some (['\n'], ['?']) := by decide
  have hstuck : tokensFrom 1 ['?'] = .error (.unexpected 1 '?') := by
    rw [tokensFrom]
    decide +kernel
  have htokens : tokens ledgerText = .error (.unexpected 1 '?') := by
    unfold tokens
    change tokensFrom 1 ('"' :: "\\\n\"?".toList) = _
    rw [tokensFrom_text hread, hstuck]
    rfl
  unfold read
  rw [htokens]
  rfl

theorem ledgerText_line : ∃ before behind front hidden,
    ledgerText.toList = before ++ behind ∧ Reaches behind before front hidden ∧
      (BlockError.token (.unexpected 1 '?')).IsAbout front behind ∧
        1 + hidden = before.count '\n' + 1 ∧
          (¬ ['\\', '\n'] <:+: before → 1 = before.count '\n' + 1) := by
  have hmessage : (BlockError.token (.unexpected 1 '?')).message =
      "line " ++ Text.integerText (1 : Nat) ++ ":" ++ " unexpected character '?'" := by
    decide +kernel
  exact line_of_error read_ledgerText hmessage

/-- The message tells of the first line, and the character stands on the second one. -/
theorem ledgerText_blames_line_above :
    read ledgerKey ledgerText = .error (.token (.unexpected 1 '?')) ∧
      (BlockError.token (.unexpected 1 '?')).message = "line 1: unexpected character '?'" ∧
        ∃ before, ledgerText.toList = before ++ ['?'] ∧ before.count '\n' + 1 = 2 :=
  ⟨read_ledgerText, by decide +kernel, "\"\\\n\"".toList, by decide, by decide⟩

end BlockFormat
end Ownership
