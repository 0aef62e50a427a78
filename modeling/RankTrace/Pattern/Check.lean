import RankTrace.Pattern.Reading

/-!
# Patterns that can be used

What a pattern means must be known without tables of Unicode: the case of letters, classes of
characters by an escape, and edges of words are known for ASCII only. Where Unicode is turned off,
a pattern must not take characters beyond ASCII apart into bytes. Nesting is limited.
-/

namespace RankTrace

inductive PatternFault
  | unusable
  | unicodeEdge
  deriving DecidableEq, Repr

def PatternFault.message : PatternFault → String
  | unusable => "error building NFA"
  | unicodeEdge => "unsupported regex feature for DFAs: cannot build DFAs for regexes with " ++
    "Unicode word boundaries; switch to ASCII word boundaries, or heuristically enable Unicode " ++
    "word boundaries or use a different regex engine"

namespace CharSet

mutual

def depth : CharSet → Nat
  | letter _ | range _ _ | shorthand _ | named _ => 0
  | brackets _ set => set.depth + 1
  | anyOf [] => 0
  | anyOf (s :: sets) => max s.depth (depths sets) + 1
  | combined left right => max left.depth right.depth + 1

def depths : List CharSet → Nat
  | [] => 0
  | s :: sets => max s.depth (depths sets)

end

mutual

/-- Whether the meaning of a set is known under these flags. -/
def isKnown (unicode ignoreCase : Bool) : CharSet → Bool
  | letter l => isKnownLetter l
  | range first last => isKnownLetter first && isKnownLetter last
  | shorthand negated => !unicode && !negated
  | named negated => if unicode then !ignoreCase else !negated
  | brackets negated set => (unicode || !negated) && set.isKnown unicode ignoreCase
  | anyOf sets => areKnown unicode ignoreCase sets
  | combined left right => left.isKnown unicode ignoreCase && right.isKnown unicode ignoreCase
where
  isKnownLetter (l : Letter) : Bool := if unicode then !ignoreCase else l.char.toNat < 0x80

def areKnown (unicode ignoreCase : Bool) : List CharSet → Bool
  | [] => true
  | s :: sets => s.isKnown unicode ignoreCase && areKnown unicode ignoreCase sets

end

end CharSet

namespace Pattern

mutual

def depth : Pattern → Nat
  | empty | letter _ | anyChar | edge _ | shorthand _ | flags _ => 0
  | brackets _ set => set.depth + 1
  | repeated p => p.depth + 1
  | group _ _ p => p.depth + 1
  | sequence ps => depths ps + 1
  | oneOf ps => depths ps + 1

def depths : List Pattern → Nat
  | [] => 0
  | p :: ps => max p.depth (depths ps)

end

mutual

def names : Pattern → List String
  | empty | letter _ | anyChar | edge _ | shorthand _ | flags _ | brackets _ _ => []
  | repeated p => p.names
  | group name _ p => name.toList ++ p.names
  | sequence ps => allNames ps
  | oneOf ps => allNames ps

def allNames : List Pattern → List String
  | [] => []
  | p :: ps => p.names ++ allNames ps

end

structure Scope where
  unicode : Bool := true
  ignoreCase : Bool := false
  unicodeEdge : Bool := false
  deriving DecidableEq, Repr

namespace Scope

def change (s : Scope) (changes : List FlagChange) : Scope :=
  { s with
    unicode := FlagChange.apply changes .unicode s.unicode
    ignoreCase := FlagChange.apply changes .ignoreCase s.ignoreCase }

/-- Whether a single character is known: one of two cases is not, and a byte must be of ASCII. -/
def knows (s : Scope) (l : Letter) : Bool :=
  if s.unicode then !s.ignoreCase else !l.isByte || l.char.toNat < 0x80

def behind (s : Scope) (known : Bool) : Option Scope := if known then some s else none

end Scope

mutual

def scopeBehind (s : Scope) : Pattern → Option Scope
  | empty => some s
  | letter l => s.behind (s.knows l)
  | anyChar => s.behind s.unicode
  | edge ofWord => some { s with unicodeEdge := s.unicodeEdge || (ofWord && s.unicode) }
  | shorthand negated => s.behind (!s.unicode && !negated)
  | brackets negated set =>
    s.behind ((CharSet.brackets negated set).isKnown s.unicode s.ignoreCase)
  | flags changes => some (s.change changes)
  | repeated p => scopeBehind s p
  | group _ changes p =>
    (scopeBehind (s.change changes) p).map fun inner => { s with unicodeEdge := inner.unicodeEdge }
  | sequence ps => scopeBehindAll s ps
  | oneOf ps => scopeBehindAll s ps

def scopeBehindAll (s : Scope) : List Pattern → Option Scope
  | [] => some s
  | p :: ps => (scopeBehind s p).bind fun s => scopeBehindAll s ps

end

def maxDepth : Nat := 250

def check (text : String) : Except PatternFault Unit :=
  match parse? text with
  | none => .error .unusable
  | some p =>
    if p.depth ≤ maxDepth ∧ p.names.Nodup then
      match scopeBehind {} p with
      | none => .error .unusable
      | some s => if s.unicodeEdge then .error .unicodeEdge else .ok ()
    else .error .unusable

end Pattern

end RankTrace
