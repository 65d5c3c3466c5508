import Ownership.Number.Power

/-!
# UTF-8

Reading bytes as UTF-8.  A text comes out only if all bytes are sound; otherwise the first defect
is told.  For messages of other programs there is a lossy reading that puts a replacement
character in the place of every defective row of bytes.
-/

namespace Ownership
namespace Text
namespace Utf8

inductive Defect
  | startByte
  | continuationByte
  | endOfData
deriving DecidableEq, Repr

def Defect.message : Defect → String
  | .startByte => "invalid start byte"
  | .continuationByte => "invalid continuation byte"
  | .endOfData => "unexpected end of data"

/-!
# One character

`next` looks at a first byte and the bytes behind it.  It gives the code point or the defect, and
how many of the bytes behind the first belong to it.
-/

def isContinuation (byte : UInt8) : Bool := 0x80 ≤ byte && byte ≤ 0xBF

/-- The bounds of the second byte: some first bytes narrow them, to shut out long forms,
surrogates and numbers beyond the last code point. -/
def secondBounds (first : UInt8) : UInt8 × UInt8 :=
  if first = 0xE0 then (0xA0, 0xBF)
  else if first = 0xED then (0x80, 0x9F)
  else if first = 0xF0 then (0x90, 0xBF)
  else if first = 0xF4 then (0x80, 0x8F)
  else (0x80, 0xBF)

def followers? (first : UInt8) : Option Nat :=
  if first ≤ 0x7F then some 0
  else if 0xC2 ≤ first && first ≤ 0xDF then some 1
  else if 0xE0 ≤ first && first ≤ 0xEF then some 2
  else if 0xF0 ≤ first && first ≤ 0xF4 then some 3
  else none

/-- Takes `count` further continuation bytes; `taken` were taken before. -/
def continuations (taken value : Nat) : Nat → List UInt8 → Except Defect Nat × Nat
  | 0, _ => (.ok value, taken)
  | _ + 1, [] => (.error .endOfData, taken)
  | count + 1, byte :: rest =>
      if isContinuation byte then
        continuations (taken + 1) (value * 64 + (byte.toNat - 0x80)) count rest
      else (.error .continuationByte, taken)

def next (first : UInt8) (rest : List UInt8) : Except Defect Nat × Nat :=
  match followers? first with
  | none => (.error .startByte, 0)
  | some 0 => (.ok first.toNat, 0)
  | some (count + 1) =>
      match rest with
      | [] => (.error .endOfData, 0)
      | second :: others =>
          let bounds := secondBounds first
          if bounds.1 ≤ second && second ≤ bounds.2 then
            let lead := first.toNat % 2 ^ (5 - count)
            continuations 1 (lead * 64 + (second.toNat - 0x80)) count others
          else (.error .continuationByte, 0)

/-!
# Whole texts
-/

def firstDefect? (bytes : List UInt8) : Option Defect :=
  match bytes with
  | [] => none
  | first :: rest =>
      match next first rest with
      | (.ok _, used) => firstDefect? (rest.drop used)
      | (.error defect, _) => some defect
termination_by bytes.length
decreasing_by
  simp only [List.length_drop, List.length_cons]
  omega

/-- The text with a replacement character for every defective row of bytes. -/
def decodeLossy (bytes : List UInt8) : List Char :=
  match bytes with
  | [] => []
  | first :: rest =>
      match next first rest with
      | (.ok value, used) => Char.ofNat value :: decodeLossy (rest.drop used)
      | (.error _, used) => '\uFFFD' :: decodeLossy (rest.drop used)
termination_by bytes.length
decreasing_by
  all_goals
    simp only [List.length_drop, List.length_cons]
    omega

def decode (bytes : List UInt8) : Except Defect String :=
  match String.fromUTF8? ⟨bytes.toArray⟩ with
  | some text => .ok text
  | none => .error ((firstDefect? bytes).getD .endOfData)

def encode (text : String) : List UInt8 := text.toUTF8.data.toList

end Utf8
end Text
end Ownership
