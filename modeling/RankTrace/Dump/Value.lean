import RankTrace.Decimal.Binary

/-!
# Dump trees

The one ordered tree from which every dump format is written. A dictionary keeps its rows in the
order in which they were put in, and does not check its keys.
-/

namespace RankTrace

inductive Value
  | null
  | bool (b : Bool)
  | int (i : Int64)
  | float (f : Double)
  | str (s : String)
  | list (items : List Value)
  | dict (fields : List (String × Value))
  deriving Inhabited

namespace Value

/-- A word as a signed number: from `2 ^ 63` on it turns negative. -/
def ofUInt64 (n : UInt64) : Value := int n.toInt64

def ofNat (n : Nat) : Value := int (Int64.ofNat n)

def ofOption : Option Int64 → Value
  | some i => int i
  | none => null

def ofStrings (texts : List String) : Value := list (texts.map str)

/-- The value under a key of a dictionary, the first if there are several. -/
def get? (key : String) : Value → Option Value
  | dict fields => fields.lookup key
  | _ => none

def items? : Value → Option (List Value)
  | list items => some items
  | _ => none

def str? : Value → Option String
  | str s => some s
  | _ => none

def int? : Value → Option Int64
  | int i => some i
  | _ => none

def isNull : Value → Bool
  | null => true
  | _ => false

end Value

end RankTrace
