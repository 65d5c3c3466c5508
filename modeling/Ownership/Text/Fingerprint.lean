import Ownership.Text.Hex
import Ownership.Text.Utf8

/-!
# Fingerprints

The fingerprint of a text is the SHA-1 digest of its UTF-8 bytes in hexadecimal digits.  The
message is padded to blocks of 64 bytes; every block is spread to eighty words and stirred into a
state of five words.
-/

namespace Ownership
namespace Text
namespace Fingerprint

structure State where
  a : UInt32
  b : UInt32
  c : UInt32
  d : UInt32
  e : UInt32
deriving Repr

def start : State := ⟨0x67452301, 0xEFCDAB89, 0x98BADCFE, 0x10325476, 0xC3D2E1F0⟩

def rotate (word bits : UInt32) : UInt32 := (word <<< bits) ||| (word >>> (32 - bits))

/-- The length of the message in bits, in eight bytes. -/
def lengthBytes (count : Nat) : List UInt8 :=
  (List.range 8).map fun i => UInt8.ofNat (8 * count / 256 ^ (7 - i) % 256)

def pad (message : List UInt8) : List UInt8 :=
  let fill := (119 - message.length % 64) % 64
  message ++ 0x80 :: List.replicate fill 0 ++ lengthBytes message.length

def words : List UInt8 → List UInt32
  | a :: b :: c :: d :: rest =>
      (a.toUInt32 <<< 24 ||| b.toUInt32 <<< 16 ||| c.toUInt32 <<< 8 ||| d.toUInt32) :: words rest
  | _ => []

/-- Sixteen words spread to `16 + count`; every new word mixes four earlier ones. -/
def spread (block : Array UInt32) : Nat → Array UInt32
  | 0 => block
  | count + 1 =>
      let earlier := spread block count
      let wordBack (n : Nat) := earlier.getD (earlier.size - n) 0
      earlier.push (rotate (wordBack 3 ^^^ wordBack 8 ^^^ wordBack 14 ^^^ wordBack 16) 1)

def stir (state : State) (step : Nat × UInt32) : State :=
  let ⟨a, b, c, d, e⟩ := state
  let (mixed, constant) :=
    if step.1 < 20 then ((b &&& c) ||| (~~~ b &&& d), (0x5A827999 : UInt32))
    else if step.1 < 40 then (b ^^^ c ^^^ d, 0x6ED9EBA1)
    else if step.1 < 60 then ((b &&& c) ||| (b &&& d) ||| (c &&& d), 0x8F1BBCDC)
    else (b ^^^ c ^^^ d, 0xCA62C1D6)
  ⟨rotate a 5 + mixed + e + constant + step.2, a, rotate b 30, c, d⟩

def absorb (state : State) (block : Array UInt32) : State :=
  let stirred := (List.range 80).zip (spread block 64).toList |>.foldl stir state
  ⟨state.a + stirred.a, state.b + stirred.b, state.c + stirred.c, state.d + stirred.d,
    state.e + stirred.e⟩

def blocks (row : List UInt32) : List (Array UInt32) :=
  (List.range (row.length / 16)).map fun i => ((row.drop (16 * i)).take 16).toArray

def digest (message : List UInt8) : List UInt32 :=
  let state := (blocks (words (pad message))).foldl absorb start
  [state.a, state.b, state.c, state.d, state.e]

end Fingerprint

/-- Forty hexadecimal digits that stand for a text. -/
def fingerprint (text : String) : String :=
  String.ofList ((Fingerprint.digest (Utf8.encode text)).flatMap fun word => hexDigits 8 word.toNat)

end Text
end Ownership
