import Ownership.Console.Markup
import Ownership.Console.Pictograph

/-!
# The screen of a console

What a marked-up text looks like in the end: tags and control characters are gone, pictographs stand
for their names, and blanks fill up every tab to the next eighth column.
-/

namespace Ownership
namespace Screen

/-- Characters that would ring, step back or move the paper. -/
def isControl (c : Char) : Bool := c.toNat ∈ [7, 8, 11, 12, 13]

def tabWidth : Nat := 8

/-- Fills up the tabs of a text that begins in a column. -/
def expandTabs (column : Nat) : List Char → List Char
  | [] => []
  | c :: rest =>
      if c = '\n' then c :: expandTabs 0 rest
      else if c = '\t' then
        let width := tabWidth - column % tabWidth
        List.replicate width ' ' ++ expandTabs (column + width) rest
      else c :: expandTabs (column + 1) rest

def shown (text : String) : Except Markup.Error String := do
  let texts ← Markup.render text
  let visible := texts.flatMap fun plain =>
    (Pictograph.replaceNames plain).filter fun c => !isControl c
  return String.ofList (expandTabs 0 visible)

/-!
# Output that is not marked up

A control sequence is an escape character, an opening bracket, digits and separators, and one
letter.
-/

def behindSequence? : List Char → Option (List Char)
  | [] => none
  | c :: rest =>
      if c.isAlpha then some rest
      else if c.isDigit || c = ';' || c = '?' then behindSequence? rest
      else none

theorem length_of_behindSequence? {s rest : List Char} (h : behindSequence? s = some rest) :
    rest.length < s.length := by
  induction s with
  | nil => simp [behindSequence?] at h
  | cons c tail ih =>
      unfold behindSequence? at h
      split at h
      · simp_all
      · split at h
        · exact Nat.lt_succ_of_lt (ih h)
        · simp at h

def withoutSequences (s : List Char) : List Char :=
  match s with
  | [] => []
  | '\x1b' :: '[' :: rest =>
      match _h : behindSequence? rest with
      | some behind => withoutSequences behind
      | none => '\x1b' :: withoutSequences ('[' :: rest)
  | c :: rest => c :: withoutSequences rest
termination_by s.length
decreasing_by
  · have := length_of_behindSequence? _h
    simp only [List.length_cons]
    omega
  · simp
  · simp

end Screen
end Ownership
