import RankTrace.Decimal.Binary

/-!
# Shortest decimals

The shortest decimal that reads back as a given binary64 number, and of those the nearest to it.
For one digit, two digits and so on, the two neighbours of the number on that decimal grid are
tested against the interval of quotients that round to it; the first grid with a hit wins. How the
digits are laid out is a matter of the format that prints them.
-/

namespace RankTrace

structure Decimal where
  digits : Nat
  exponent : Int
  deriving DecidableEq, Repr

namespace Decimal

def log10Ratio (num den : Nat) : Int :=
  if den ≤ num then ((Nat.toDigits 10 (num / den)).length : Int) - 1
  else
    let places := (Nat.toDigits 10 (den / num)).length
    if den ≤ num * tenTo (places - 1) then 1 - (places : Int) else -(places : Int)

/-- The quotients that round to a number, in units of a quarter of its last place. -/
structure RoundingInterval where
  low : Nat
  high : Nat
  closed : Bool
  exponent : Int

/-- Below a power of two the neighbour is nearer. Ties go to the even mantissa. -/
def RoundingInterval.of (f : FloatFormat) (magnitude : Nat) : RoundingInterval :=
  let m := f.mantissa magnitude
  let below := if m = f.hidden ∧ 1 < f.exponentField magnitude then 1 else 2
  ⟨4 * m - below, 4 * m + 2, m % 2 = 0, f.exponent magnitude - 2⟩

/-- Whether `digits * 10 ^ exponent` lies in the interval. -/
def RoundingInterval.holds (i : RoundingInterval) (digits : Nat) (exponent : Int) : Bool :=
  let value := digits * tenTo exponent.toNat * twoTo (-i.exponent).toNat
  let scale := tenTo (-exponent).toNat * twoTo i.exponent.toNat
  if i.closed then i.low * scale ≤ value && value ≤ i.high * scale
  else i.low * scale < value && value < i.high * scale

def stripZeros : (fuel : Nat) → Decimal → Decimal
  | 0, d => d
  | fuel + 1, d =>
    if d.digits ≠ 0 ∧ d.digits % 10 = 0 then stripZeros fuel ⟨d.digits / 10, d.exponent + 1⟩ else d

/-- The neighbour on the grid of `10 ^ exponent` that lies in the interval, the nearer if both do
and the even one if both are equally near. -/
def onGrid? (i : RoundingInterval) (num den : Nat) (exponent : Int) : Option Decimal :=
  let n := num * tenTo (-exponent).toNat
  let d := den * tenTo exponent.toNat
  let q := n / d
  match i.holds q exponent && q != 0, i.holds (q + 1) exponent with
  | true, true => some ⟨FloatFormat.roundDiv n d, exponent⟩
  | true, false => some ⟨q, exponent⟩
  | false, true => some ⟨q + 1, exponent⟩
  | false, false => none

def search (i : RoundingInterval) (num den : Nat) (top : Int) : (fuel places : Nat) → Decimal
  | 0, places => ⟨num * tenTo (places - 1 - top).toNat / den, top - (places - 1)⟩
  | fuel + 1, places =>
    match onGrid? i num den (top - (places - 1)) with
    | some d => d
    | none => search i num den top fuel (places + 1)

/-- The shortest decimal for a positive finite magnitude; 17 digits always suffice. -/
def shortest (f : FloatFormat) (magnitude : Nat) : Decimal :=
  let (num, den) := f.ratio magnitude
  let found := search (RoundingInterval.of f magnitude) num den (log10Ratio num den) 17 1
  stripZeros 20 found

structure Layout where
  positional : Int → Bool
  wholeSuffix : String
  exponentPlus : String

def positionalText (layout : Layout) (digits : List Char) (exponent : Int) : String :=
  let lead : Int := digits.length + exponent
  if 0 ≤ exponent then
    String.ofList (digits ++ List.replicate exponent.toNat '0') ++ layout.wholeSuffix
  else if 0 < lead then
    String.ofList (digits.take lead.toNat ++ '.' :: digits.drop lead.toNat)
  else "0." ++ String.ofList (List.replicate (-lead).toNat '0' ++ digits)

def scientificText (layout : Layout) (digits : List Char) (lead : Int) : String :=
  let mantissa := match digits with
    | [] => []
    | [d] => [d]
    | d :: rest => d :: '.' :: rest
  let mark := if 0 ≤ lead then layout.exponentPlus else "-"
  String.ofList mantissa ++ "e" ++ mark ++ toString lead.natAbs

def text (layout : Layout) (d : Decimal) : String :=
  if d.digits = 0 then "0" ++ layout.wholeSuffix
  else
    let digits := Nat.toDigits 10 d.digits
    let lead := digits.length + d.exponent - 1
    if layout.positional lead then positionalText layout digits d.exponent
    else scientificText layout digits lead

end Decimal

namespace Double

def text (layout : Decimal.Layout) (d : Double) : String :=
  let magnitude := FloatFormat.binary64.magnitude d.bits.toNat
  let body :=
    if magnitude = 0 then Decimal.text layout ⟨0, 0⟩
    else (Decimal.shortest .binary64 magnitude).text layout
  if d.isNegative then "-" ++ body else body

/-- The number nearest to `digits * 10 ^ exponent`. Exponents far outside the format are decided
without computing the power. -/
def ofDecimal (negative : Bool) (d : Decimal) : Double :=
  let lead : Int := (Nat.toDigits 10 d.digits).length + d.exponent
  let magnitude :=
    if d.digits = 0 ∨ lead < -400 then 0
    else if 400 < lead then FloatFormat.binary64.infinity
    else FloatFormat.binary64.round (d.digits * tenTo d.exponent.toNat) (tenTo (-d.exponent).toNat)
  ⟨UInt64.ofNat (magnitude + if negative then FloatFormat.binary64.signBit else 0)⟩

end Double

end RankTrace
