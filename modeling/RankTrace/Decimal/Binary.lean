import RankTrace.Decimal.Power

/-!
# Binary floating-point numbers

Binary interchange formats, their numbers given by their bits, and rounding of a quotient of
natural numbers to the nearest number of a format, ties to the even mantissa. Everything is exact
integer arithmetic. A finite magnitude with bits `b` is `mantissa b * 2 ^ exponent b`, and bits
grow with the magnitude.
-/

namespace RankTrace

structure FloatFormat where
  fractionBits : Nat
  exponentBits : Nat
  deriving DecidableEq, Repr

namespace FloatFormat

def binary32 : FloatFormat := ⟨23, 8⟩

def binary64 : FloatFormat := ⟨52, 11⟩

def bias (f : FloatFormat) : Nat := twoTo (f.exponentBits - 1) - 1

def minExponent (f : FloatFormat) : Int := 1 - (f.bias : Int) - f.fractionBits

def hidden (f : FloatFormat) : Nat := twoTo f.fractionBits

/-- Bits of positive infinity. What lies above them is no number. -/
def infinity (f : FloatFormat) : Nat := (twoTo f.exponentBits - 1) * f.hidden

def signBit (f : FloatFormat) : Nat := twoTo (f.fractionBits + f.exponentBits)

def magnitude (f : FloatFormat) (bits : Nat) : Nat := bits % f.signBit

def isNegative (f : FloatFormat) (bits : Nat) : Bool := f.signBit ≤ bits

def exponentField (f : FloatFormat) (magnitude : Nat) : Nat := magnitude / f.hidden

def mantissa (f : FloatFormat) (magnitude : Nat) : Nat :=
  if f.exponentField magnitude = 0 then magnitude % f.hidden
  else magnitude % f.hidden + f.hidden

def exponent (f : FloatFormat) (magnitude : Nat) : Int :=
  f.minExponent + (f.exponentField magnitude - 1 : Nat)

def ratio (f : FloatFormat) (magnitude : Nat) : Nat × Nat :=
  let e := f.exponent magnitude
  (f.mantissa magnitude * twoTo e.toNat, twoTo (-e).toNat)

/-- The quotient to the nearest natural number, a half to the even one. -/
def roundDiv (num den : Nat) : Nat :=
  let q := num / den
  let twice := 2 * (num % den)
  if twice < den then q
  else if den < twice then q + 1
  else if q % 2 = 0 then q else q + 1

def log2Ratio (num den : Nat) : Int :=
  let e : Int := (num.log2 : Int) - den.log2
  if num * twoTo (-e).toNat < den * twoTo e.toNat then e - 1 else e

def round (f : FloatFormat) (num den : Nat) : Nat :=
  if num = 0 then 0
  else
    let unit := max (log2Ratio num den - f.fractionBits) f.minExponent
    let m := roundDiv (num * twoTo (-unit).toNat) (den * twoTo unit.toNat)
    min ((unit - f.minExponent).toNat * f.hidden + m) f.infinity

end FloatFormat

structure Single where
  bits : UInt32
  deriving DecidableEq, Inhabited, Repr

structure Double where
  bits : UInt64
  deriving DecidableEq, Inhabited, Repr

namespace Double

def isFinite (d : Double) : Bool :=
  FloatFormat.binary64.magnitude d.bits.toNat < FloatFormat.binary64.infinity

def isNaN (d : Double) : Bool :=
  FloatFormat.binary64.infinity < FloatFormat.binary64.magnitude d.bits.toNat

def isNegative (d : Double) : Bool := FloatFormat.binary64.isNegative d.bits.toNat

end Double

namespace Single

/-- The same number with more places. What is no number keeps its payload and becomes quiet. -/
def toDouble (s : Single) : Double :=
  let narrow := FloatFormat.binary32
  let wide := FloatFormat.binary64
  let magnitude := narrow.magnitude s.bits.toNat
  let widened :=
    if magnitude < narrow.infinity then
      let (num, den) := narrow.ratio magnitude
      wide.round num den
    else if magnitude = narrow.infinity then wide.infinity
    else wide.infinity + wide.hidden / 2 + magnitude % (narrow.hidden / 2) * twoTo 29
  let sign := if narrow.isNegative s.bits.toNat then wide.signBit else 0
  ⟨UInt64.ofNat (sign + widened)⟩

end Single

end RankTrace
