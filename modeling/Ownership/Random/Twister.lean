import Ownership.Number.Power

/-!
# The Mersenne twister

A generator of 32-bit words with a state of 624 words.  A seed of any size is cut into 32-bit
words, which are mixed into the state one after another.  Drawing works through the state word by
word; after the last one the whole state is twisted anew.
-/

namespace Ownership
namespace Random

structure Twister where
  state : Array UInt32
  position : Nat
deriving Repr

namespace Twister

def size : Nat := 624

def word (state : Array UInt32) (i : Nat) : UInt32 := state.getD i 0

/-!
# Seeding
-/

def spread (seed : UInt32) : Array UInt32 :=
  (List.range (size - 1)).foldl
    (fun state i =>
      let last := word state i
      state.push ((1812433253 : UInt32) * (last ^^^ (last >>> 30)) + UInt32.ofNat (i + 1)))
    #[seed]

def seedWords (seed : Nat) : List UInt32 :=
  if seed < 2 ^ 32 then [UInt32.ofNat seed]
  else UInt32.ofNat (seed % 2 ^ 32) :: seedWords (seed / 2 ^ 32)
termination_by seed
decreasing_by omega

/-- Moves on to the next place of the state; behind the last one comes place one, and place zero
takes over the last word. -/
def advance (state : Array UInt32) (i : Nat) : Array UInt32 × Nat :=
  if i + 1 ≥ size then (state.setIfInBounds 0 (word state (size - 1)), 1) else (state, i + 1)

def mixKey (key : Array UInt32) (turn : (Array UInt32 × Nat) × Nat) : (Array UInt32 × Nat) × Nat :=
  let ((state, i), j) := turn
  let last := word state (i - 1)
  let mixed := (word state i ^^^ ((last ^^^ (last >>> 30)) * 1664525)) + key.getD j 0
        + UInt32.ofNat j
  (advance (state.setIfInBounds i mixed) i, if j + 1 ≥ key.size then 0 else j + 1)

def mixPlace (turn : Array UInt32 × Nat) : Array UInt32 × Nat :=
  let (state, i) := turn
  let last := word state (i - 1)
  let mixed := (word state i ^^^ ((last ^^^ (last >>> 30)) * 1566083941)) - UInt32.ofNat i
  advance (state.setIfInBounds i mixed) i

/-- The generator for a seed; the sign of the seed does not count. -/
def ofSeed (seed : Int) : Twister :=
  let key := (seedWords seed.natAbs).toArray
  let keyed := (List.range (max size key.size)).foldl (fun turn _ => mixKey key turn)
    ((spread 19650218, 1), 0)
  let placed := (List.range (size - 1)).foldl (fun turn _ => mixPlace turn) keyed.1
  ⟨placed.1.setIfInBounds 0 0x80000000, size⟩

/-!
# Drawing
-/

def twistPlace (state : Array UInt32) (i : Nat) : Array UInt32 :=
  let joined := (word state i &&& 0x80000000) ||| (word state ((i + 1) % size) &&& 0x7FFFFFFF)
  let turned := word state ((i + 397) % size) ^^^ (joined >>> 1)
  state.setIfInBounds i (if joined &&& 1 = 0 then turned else turned ^^^ 0x9908B0DF)

def twist (state : Array UInt32) : Array UInt32 := (List.range size).foldl twistPlace state

def temper (w : UInt32) : UInt32 :=
  let w := w ^^^ (w >>> 11)
  let w := w ^^^ ((w <<< 7) &&& 0x9D2C5680)
  let w := w ^^^ ((w <<< 15) &&& 0xEFC60000)
  w ^^^ (w >>> 18)

def draw (generator : Twister) : UInt32 × Twister :=
  let generator := if generator.position ≥ size then ⟨twist generator.state, 0⟩ else generator
  (temper (word generator.state generator.position),
    { generator with position := generator.position + 1 })

def bitCount (n : Nat) : Nat := if n = 0 then 0 else Nat.log2 n + 1

/-- Draws numbers of as many bits as `bound` has until one lies below it.  At most `tries` draws
are thrown away, each of which happens less than every second time. -/
def drawBelow (bound : Nat) (generator : Twister) : Nat → Nat × Twister
  | 0 => (0, generator)
  | tries + 1 =>
      let (w, generator) := generator.draw
      let value := (w >>> UInt32.ofNat (32 - bitCount bound)).toNat
      if value < bound then (value, generator) else drawBelow bound generator tries

end Twister
end Random
end Ownership
