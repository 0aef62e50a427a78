/-!
# Patterns

A pattern describes texts: single characters, sets of characters, edges of lines and words, and
what repeats, follows or replaces these. Flags hold from where they stand to the end of their
group, or for one group.
-/

namespace RankTrace

structure Letter where
  char : Char
  isByte : Bool := false
  deriving DecidableEq, Repr

inductive Flag
  | ignoreCase
  | manyLines
  | dotMatchesAll
  | swapGreed
  | unicode
  | carriageReturns
  /-- Blanks and comments between the parts do not count. -/
  | loose
  deriving DecidableEq, Repr

structure FlagChange where
  flag : Flag
  on : Bool
  deriving DecidableEq, Repr

def FlagChange.apply (changes : List FlagChange) (flag : Flag) (before : Bool) : Bool :=
  match changes.find? (·.flag = flag) with
  | some change => change.on
  | none => before

inductive CharSet
  | letter (l : Letter)
  | range (first last : Letter)
  | shorthand (negated : Bool)
  | named (negated : Bool)
  | brackets (negated : Bool) (set : CharSet)
  | anyOf (sets : List CharSet)
  /-- What two sets have in common, or what only one of them has. -/
  | combined (left right : CharSet)

namespace CharSet

def ofItems : List CharSet → CharSet
  | [s] => s
  | sets => anyOf sets

end CharSet

inductive Pattern
  | empty
  | letter (l : Letter)
  | anyChar
  | edge (ofWord : Bool)
  | shorthand (negated : Bool)
  | brackets (negated : Bool) (set : CharSet)
  | flags (changes : List FlagChange)
  | repeated (p : Pattern)
  | group (name : Option String) (changes : List FlagChange) (p : Pattern)
  | sequence (ps : List Pattern)
  | oneOf (ps : List Pattern)

namespace Pattern

def ofSequence : List Pattern → Pattern
  | [] => empty
  | [p] => p
  | ps => sequence ps

def ofAlternatives : List Pattern → Pattern
  | [] => empty
  | [p] => p
  | ps => oneOf ps

end Pattern

end RankTrace
