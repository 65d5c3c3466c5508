import Ownership.Json.Basic
import Ownership.Number.Double
import Ownership.Table
import Ownership.Text.Hex

/-!
# Reading JSON

The grammar is that of the standard with three more literals, `NaN`, `Infinity` and `-Infinity`.
A number with neither fraction nor exponent is an integer of any size.  Of members with equal
names the last wins in the place of the first.  Each reading function takes one piece off the
front of the text and gives the rest.
-/

namespace Ownership
namespace Json

def isSpace (c : Char) : Bool := c = ' ' || c = '\t' || c = '\n' || c = '\r'

def skipSpace (s : List Char) : List Char := s.dropWhile isSpace

def isDigit (c : Char) : Bool := '0' ≤ c && c ≤ '9'

def digitsValue (digits : List Char) : Nat :=
  digits.foldl (fun value c => value * 10 + (c.toNat - '0'.toNat)) 0

/-!
# Texts

The opening quotation mark is gone when reading begins.  Two escaped surrogates in a row stand
for one character; a surrogate on its own stands for the replacement character.
-/

def fourHex? : List Char → Option (Nat × List Char)
  | a :: b :: c :: d :: rest => do
      let a ← Text.hexValue? a
      let b ← Text.hexValue? b
      let c ← Text.hexValue? c
      let d ← Text.hexValue? d
      return (((a * 16 + b) * 16 + c) * 16 + d, rest)
  | _ => none

def simpleEscape? : Char → Option Char
  | '"' => some '"'
  | '\\' => some '\\'
  | '/' => some '/'
  | 'b' => some '\x08'
  | 'f' => some '\x0C'
  | 'n' => some '\n'
  | 'r' => some '\r'
  | 't' => some '\t'
  | _ => none

def isHighSurrogate (n : Nat) : Bool := 0xD800 ≤ n && n < 0xDC00

def isLowSurrogate (n : Nat) : Bool := 0xDC00 ≤ n && n < 0xE000

/-- The character for an escaped code unit, joined with the next unit if both make a pair. -/
def unitChar (unit : Nat) (rest : List Char) : Char × List Char :=
  let alone := if isHighSurrogate unit || isLowSurrogate unit then '\uFFFD' else Char.ofNat unit
  match rest with
  | '\\' :: 'u' :: more =>
      match fourHex? more with
      | some (second, more) =>
          if isHighSurrogate unit && isLowSurrogate second then
            (Char.ofNat (0x10000 + (unit - 0xD800) * 0x400 + (second - 0xDC00)), more)
          else (alone, rest)
      | none => (alone, rest)
  | _ => (alone, rest)

/-- Reads up to the closing quotation mark; `fuel` bounds the number of characters. -/
def readText? (fuel : Nat) (taken : List Char) (s : List Char) : Option (String × List Char) :=
  match fuel with
  | 0 => none
  | fuel + 1 =>
      match s with
      | [] => none
      | '"' :: rest => some (String.ofList taken.reverse, rest)
      | '\\' :: 'u' :: rest => do
          let (unit, rest) ← fourHex? rest
          let (c, rest) := unitChar unit rest
          readText? fuel (c :: taken) rest
      | '\\' :: c :: rest => do
          let c ← simpleEscape? c
          readText? fuel (c :: taken) rest
      | c :: rest => if c.toNat < 32 then none else readText? fuel (c :: taken) rest

/-!
# Numbers
-/

def readFraction (s : List Char) : List Char × List Char :=
  match s with
  | '.' :: rest =>
      let digits := rest.takeWhile isDigit
      if digits.isEmpty then ([], s) else (digits, rest.dropWhile isDigit)
  | _ => ([], s)

def readExponent (s : List Char) : Option Int × List Char :=
  match s with
  | e :: rest =>
      if e = 'e' ∨ e = 'E' then
        let (negative, body) :=
          match rest with
          | '-' :: body => (true, body)
          | '+' :: body => (false, body)
          | body => (false, body)
        let digits := body.takeWhile isDigit
        if digits.isEmpty then (none, s)
        else
          let size : Int := digitsValue digits
          (some (if negative then -size else size), body.dropWhile isDigit)
      else (none, s)
  | [] => (none, s)

def readNumber? (negative : Bool) (s : List Char) : Option (Json × List Char) :=
  let (whole, rest) :=
    match s with
    | '0' :: rest => (['0'], rest)
    | _ => (s.takeWhile isDigit, s.dropWhile isDigit)
  if whole.isEmpty then none
  else
    let (fraction, rest) := readFraction rest
    let (exponent, rest) := readExponent rest
    if fraction.isEmpty && exponent.isNone then
      let value : Int := digitsValue whole
      some (int (if negative then -value else value), rest)
    else
      let value := Number.Double.ofDecimal negative (digitsValue (whole ++ fraction))
        (exponent.getD 0 - fraction.length)
      some (float value, rest)

/-!
# Values
-/

def infinity (negative : Bool) : Float := Number.Double.ofRatio negative (2 ^ 1024) 1

def readWord? (s : List Char) : Option (Json × List Char) :=
  match s with
  | 'n' :: 'u' :: 'l' :: 'l' :: rest => some (null, rest)
  | 't' :: 'r' :: 'u' :: 'e' :: rest => some (bool true, rest)
  | 'f' :: 'a' :: 'l' :: 's' :: 'e' :: rest => some (bool false, rest)
  | 'N' :: 'a' :: 'N' :: rest => some (float (0.0 / 0.0), rest)
  | 'I' :: 'n' :: 'f' :: 'i' :: 'n' :: 'i' :: 't' :: 'y' :: rest =>
      some (float (infinity false), rest)
  | '-' :: 'I' :: 'n' :: 'f' :: 'i' :: 'n' :: 'i' :: 't' :: 'y' :: rest =>
      some (float (infinity true), rest)
  | '-' :: rest => readNumber? true rest
  | _ => readNumber? false s

mutual

/-- Reads a value; every nested value and every next element lowers the fuel. -/
def readValue? : Nat → List Char → Option (Json × List Char)
  | 0, _ => none
  | fuel + 1, s =>
      match s with
      | '"' :: rest =>
          (readText? (rest.length + 1) [] rest).map fun (value, rest) => (text value, rest)
      | '[' :: rest =>
          match skipSpace rest with
          | ']' :: rest => some (list [], rest)
          | rest => readItems? fuel [] rest
      | '{' :: rest =>
          match skipSpace rest with
          | '}' :: rest => some (object [], rest)
          | rest => readMembers? fuel [] rest
      | _ => readWord? s

def readItems? : Nat → List Json → List Char → Option (Json × List Char)
  | 0, _, _ => none
  | fuel + 1, taken, s => do
      let (item, rest) ← readValue? fuel s
      match skipSpace rest with
      | ',' :: rest => readItems? fuel (item :: taken) (skipSpace rest)
      | ']' :: rest => some (list (item :: taken).reverse, rest)
      | _ => none

def readMembers? : Nat → List (String × Json) → List Char → Option (Json × List Char)
  | 0, _, _ => none
  | fuel + 1, taken, s =>
      match s with
      | '"' :: rest => do
          let (name, rest) ← readText? (rest.length + 1) [] rest
          match skipSpace rest with
          | ':' :: rest =>
              let (value, rest) ← readValue? fuel (skipSpace rest)
              match skipSpace rest with
              | ',' :: rest => readMembers? fuel ((name, value) :: taken) (skipSpace rest)
              | '}' :: rest =>
                  some (object (Table.ofList ((name, value) :: taken).reverse).entries, rest)
              | _ => none
          | _ => none
      | _ => none

end

def read? (document : String) : Option Json :=
  let s := document.toList
  match readValue? (s.length + 1) (skipSpace s) with
  | some (value, rest) => if (skipSpace rest).isEmpty then some value else none
  | none => none

end Json
end Ownership
