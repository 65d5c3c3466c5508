import Ownership.Text.Hex
import Ownership.Text.Printable

/-!
# Quoted texts

Messages show a text between quotation marks with everything that would not show escaped.  The
mark is the apostrophe, or the double quote for a text that holds an apostrophe and no double
quote.  The backslash and the mark take a backslash; the line feed, the carriage return and the
tabulator have letters of their own; any other character that does not print is written with its
code point in two, four or eight hexadecimal digits.
-/

namespace Ownership
namespace Text

def quotationMark (s : List Char) : Char :=
  if '\'' ∈ s ∧ '"' ∉ s then '"' else '\''

def escapeChar (mark c : Char) : List Char :=
  if c = mark ∨ c = '\\' then ['\\', c]
  else if c = '\n' then ['\\', 'n']
  else if c = '\r' then ['\\', 'r']
  else if c = '\t' then ['\\', 't']
  else if isPrintable c then [c]
  else if c.toNat < 0x100 then '\\' :: 'x' :: hexDigits 2 c.toNat
  else if c.toNat < 0x10000 then '\\' :: 'u' :: hexDigits 4 c.toNat
  else '\\' :: 'U' :: hexDigits 8 c.toNat

def quote (s : List Char) : List Char :=
  let mark := quotationMark s
  mark :: s.flatMap (escapeChar mark) ++ [mark]

def quoted (s : String) : String := String.ofList (quote s.toList)

example : quote ['a', '\'', '\n'] = ['"', 'a', '\'', '\\', 'n', '"'] := by decide

end Text
end Ownership
