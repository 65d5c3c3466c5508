import Ownership.Number.Power
import Ownership.Number.Rounding

/-!
# Doubles and exact quotients

A finite double is a whole number times a power of two.  `ofRatio` finds the double nearest to
an exact quotient, a tie going to the even neighbour; quotients beyond the largest double become
infinite.  `orderKey` puts all doubles that are not NaN in order, the two zeros in one place.
-/

namespace Ownership
namespace Number
namespace Double

def bitsOf (units : Nat) (shift : Int) : Nat :=
  min ((1074 - shift).toNat * 2 ^ 52 + units) (2047 * 2 ^ 52)

/-- The quotient in units of `2 ^ (-shift)`. -/
def unitsAt (num den : Nat) (shift : Int) : Nat :=
  match shift with
  | .ofNat s => roundDiv (num * 2 ^ s) den
  | .negSucc s => roundDiv num (den * 2 ^ (s + 1))

def floorAt (num den : Nat) (shift : Int) : Nat :=
  match shift with
  | .ofNat s => num * 2 ^ s / den
  | .negSucc s => num / (den * 2 ^ (s + 1))

/-- The number of binary places behind the point that leaves 53 digits, or all 1074 places that a
double can have. -/
def shiftFor (num den : Nat) : Int :=
  let guess : Int := 52 - ((Nat.log2 num : Int) - (Nat.log2 den : Int))
  let shift := if floorAt num den guess < 2 ^ 52 then guess + 1 else guess
  min shift 1074

def ratioBits (num den : Nat) : Nat :=
  if num = 0 ∨ den = 0 then 0
  else
    let shift := shiftFor num den
    bitsOf (unitsAt num den shift) shift

def ofRatio (negative : Bool) (num den : Nat) : Float :=
  Float.ofBits (UInt64.ofNat (ratioBits num den + if negative then 2 ^ 63 else 0))

def ofInt (n : Int) : Float := ofRatio (decide (n < 0)) n.natAbs 1

def ofDecimal (negative : Bool) (digits : Nat) (exponent : Int) : Float :=
  let size : Int := (Nat.toDigits 10 digits).length
  if digits = 0 ∨ exponent + size < -400 then ofRatio negative 0 1
  else if 400 < exponent + size then ofRatio negative (2 ^ 1024) 1
  else match exponent with
    | .ofNat e => ofRatio negative (digits * 10 ^ e) 1
    | .negSucc e => ofRatio negative digits (10 ^ (e + 1))

/-!
# Looking at the bits
-/

def isNegative (x : Float) : Bool := 2 ^ 63 ≤ x.toBits.toNat

def magnitude (x : Float) : Nat := x.toBits.toNat % 2 ^ 63

/-- Doubles that are not NaN compare as their keys do. -/
def orderKey (x : Float) : Int :=
  if isNegative x then -(magnitude x : Int) else magnitude x

def ratio (x : Float) : Nat × Nat :=
  let bits := magnitude x
  let field := bits / 2 ^ 52
  let units := if field = 0 then bits else bits % 2 ^ 52 + 2 ^ 52
  let place := max field 1
  if 1075 ≤ place then (units * 2 ^ (place - 1075), 1) else (units, 2 ^ (1075 - place))

def isFinite (x : Float) : Bool := magnitude x < 2047 * 2 ^ 52

def isNaN (x : Float) : Bool := 2047 * 2 ^ 52 < magnitude x

def toInt? (x : Float) : Option Int :=
  let (num, den) := ratio x
  if isFinite x && num % den == 0 then
    some (if isNegative x then -(num / den : Nat) else (num / den : Nat))
  else none

/-!
# Fixed places
-/

/-- A double with a fixed number of decimal places; ties go to the even last digit. -/
def fixedPlaces (places : Nat) (x : Float) : String :=
  let sign := if isNegative x then "-" else ""
  if isNaN x then "nan"
  else if !isFinite x then sign ++ "inf"
  else
    let (num, den) := ratio x
    let digits := Nat.toDigits 10 (roundDiv (num * 10 ^ places) den)
    let padded := List.replicate (places + 1 - digits.length) '0' ++ digits
    let cut := padded.length - places
    sign ++ String.ofList (padded.take cut) ++ "." ++ String.ofList (padded.drop cut)

end Double
end Number
end Ownership
