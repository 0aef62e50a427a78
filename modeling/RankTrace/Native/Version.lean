/-!
# Library version

The library reports its version as one number. Releases before 2.9 put the major version at the
thousands, later ones at the ten thousands.
-/

namespace RankTrace

structure Version where
  major : Nat
  minor : Nat
  patch : Nat
  deriving DecidableEq, Repr

namespace Version

def majorBase (code : Nat) : Nat := if code < 2900 then 1000 else 10000

def minorBase : Nat := 100

def ofNat (code : Nat) : Version :=
  let major := code / majorBase code
  let minor := code % majorBase code / minorBase
  ⟨major, minor, code % (major * majorBase code + minor * minorBase)⟩

/-- Codes below 100 name no version. -/
def ofCode? (code : Option Int32) : Option Version :=
  match code with
  | some code => if 100 ≤ code.toInt then some (ofNat code.toInt.toNat) else none
  | none => none

def text (v : Version) : String := s!"{v.major}.{v.minor}.{v.patch}"

def describe (code : Option Int32) : String :=
  match ofCode? code with
  | some v => v.text
  | none => "Unknown version"

end Version

end RankTrace
