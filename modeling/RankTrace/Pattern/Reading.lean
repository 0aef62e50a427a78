import RankTrace.Pattern.Tree
import RankTrace.Text.Alphanumeric
import RankTrace.Text.Scan

/-!
# Reading patterns

A pattern is the value of a field between braces, so no brace can close inside of it; therefore
nothing is read that would need one, such as the count of a repetition. In a loose pattern blanks
may stand between the parts, and comments from a number sign to the end of the line.
-/

namespace RankTrace.Pattern

open Scan (isBlank isHexDigit)

def skip (loose : Bool) : (inComment : Bool) → List Char → List Char
  | _, [] => []
  | inComment, c :: cs =>
    if !loose then c :: cs
    else if inComment then skip loose (c != '\n') cs
    else if isBlank c then skip loose false cs
    else if c = '#' then skip loose true cs
    else c :: cs

def skipLoose (loose : Bool) (cs : List Char) : List Char := skip loose false cs

/-- The next character that is no blank. In front of it, one number sign does not count. -/
def nextNonBlank? (cs : List Char) : Option Char :=
  match cs.dropWhile isBlank with
  | '#' :: rest => (rest.dropWhile isBlank).head?
  | rest => rest.head?

/-- The character behind the one that is read. At the end of a loose pattern blanks count. -/
def peek (loose : Bool) (behind : List Char) : Option Char :=
  if loose then nextNonBlank? behind <|> behind.head? else behind.head?

def isMeta (c : Char) : Bool := "\\.+*?()|[]\x7b\x7d^$#&-~".contains c

def isEscapable (c : Char) : Bool :=
  isMeta c || (c.toNat < 0x80 && !c.isAlphanum && c != '<' && c != '>')

def codeDigits (loose : Bool) : (count : Nat) → List Char → Option (List Char × List Char)
  | 0, cs => some ([], skipLoose loose cs)
  | count + 1, cs =>
    match skipLoose loose cs with
    | c :: rest =>
      if isHexDigit c then
        (codeDigits loose count rest).map fun (digits, rest) => (c :: digits, rest)
      else none
    | [] => none

def codePoint (loose : Bool) (count : Nat) (cs : List Char) : Option (Pattern × List Char) := do
  let (digits, rest) ← codeDigits loose count cs
  let c ← Scan.character? digits
  some (letter ⟨c, count = 2⟩, rest)

def ofEscape? (c : Char) : Option Pattern :=
  if isEscapable c then some (letter { char := c })
  else
    match c with
    | 'a' => some (letter { char := '\x07' })
    | 'f' => some (letter { char := '\x0c' })
    | 't' => some (letter { char := '\t' })
    | 'n' => some (letter { char := '\n' })
    | 'r' => some (letter { char := '\r' })
    | 'v' => some (letter { char := '\x0b' })
    | 'A' | 'z' => some (edge false)
    | 'b' | 'B' | '<' | '>' => some (edge true)
    | 'd' | 's' | 'w' => some (shorthand false)
    | 'D' | 'S' | 'W' => some (shorthand true)
    | _ => none

def escape (loose : Bool) : List Char → Option (Pattern × List Char)
  | [] => none
  | 'x' :: rest => codePoint loose 2 rest
  | 'u' :: rest => codePoint loose 4 rest
  | 'U' :: rest => codePoint loose 8 rest
  | 'b' :: '\x7b' :: _ => none
  | c :: rest => (ofEscape? c).map (·, rest)

def setAtom (loose : Bool) : List Char → Option (Pattern × List Char)
  | [] => none
  | '\\' :: rest => escape loose rest
  | c :: rest => some (letter { char := c }, rest)

def toSet? : Pattern → Option CharSet
  | letter l => some (.letter l)
  | shorthand negated => some (.shorthand negated)
  | _ => none

def range? : (first last : Pattern) → Option CharSet
  | letter first, letter last =>
    if first.char.toNat ≤ last.char.toNat then some (.range first last) else none
  | _, _ => none

/-- A character of a set, or a range. A hyphen in front of another one or of the closing bracket
makes no range. -/
def setItem (loose : Bool) (cs : List Char) : Option (CharSet × List Char) := do
  let (first, rest) ← setAtom loose cs
  match skipLoose loose rest with
  | [] => none
  | '-' :: behind =>
    if peek loose behind = some ']' ∨ peek loose behind = some '-' then
      (toSet? first).map (·, '-' :: behind)
    else
      let (last, rest) ← setAtom loose (skipLoose loose behind)
      (range? first last).map (·, rest)
  | rest => (toSet? first).map (·, rest)

def setNames : List String :=
  ["alnum", "alpha", "ascii", "blank", "cntrl", "digit", "graph", "lower", "print", "punct",
    "space", "upper", "word", "xdigit"]

def namedSet? : List Char → Option (CharSet × List Char)
  | ':' :: cs =>
    let (negated, cs) := match cs with
      | '^' :: cs => (true, cs)
      | cs => (false, cs)
    match cs.dropWhile (· != ':') with
    | ':' :: ']' :: rest =>
      if setNames.contains (String.ofList (cs.takeWhile (· != ':'))) then
        some (.named negated, rest)
      else none
    | _ => none
  | _ => none

def leadingHyphens (loose : Bool) : (fuel : Nat) → List Char → List CharSet × List Char
  | fuel + 1, '-' :: rest =>
    let (sets, rest) := leadingHyphens loose fuel (skipLoose loose rest)
    (.letter { char := '-' } :: sets, rest)
  | _, cs => ([], cs)

/-- The beginning of a set behind its opening bracket: whether it is negated, and what stands for
itself there. A bracket does not close a set that has nothing in it. -/
def setStart (loose : Bool) (cs : List Char) : Bool × List CharSet × List Char :=
  let cs := skipLoose loose cs
  let (negated, cs) := match cs with
    | '^' :: rest => (true, skipLoose loose rest)
    | cs => (false, cs)
  let (hyphens, cs) := leadingHyphens loose cs.length cs
  match hyphens, cs with
  | [], ']' :: rest => (negated, [.letter { char := ']' }], skipLoose loose rest)
  | _, cs => (negated, hyphens, cs)

def afterOperator? : List Char → Option (List Char)
  | '&' :: '&' :: rest | '-' :: '-' :: rest | '~' :: '~' :: rest => some rest
  | _ => none

def joined (left : Option CharSet) (items : List CharSet) : CharSet :=
  match left with
  | some left => .combined left (CharSet.ofItems items.reverse)
  | none => CharSet.ofItems items.reverse

def setRest (loose : Bool) : (fuel : Nat) → (left : Option CharSet) → (items : List CharSet) →
    List Char → Option (CharSet × List Char)
  | 0, _, _, _ => none
  | fuel + 1, left, items, cs =>
    let cs := skipLoose loose cs
    match cs with
    | [] => none
    | ']' :: rest => some (joined left items, rest)
    | '[' :: rest =>
      match namedSet? rest with
      | some (set, rest) => setRest loose fuel left (set :: items) rest
      | none => do
        let (negated, first, rest) := setStart loose rest
        let (set, rest) ← setRest loose fuel none first rest
        setRest loose fuel left (.brackets negated set :: items) rest
    | cs =>
      match afterOperator? cs with
      | some rest => setRest loose fuel (some (joined left items)) [] rest
      | none => do
        let (item, rest) ← setItem loose cs
        setRest loose fuel left (item :: items) rest

def brackets? (loose : Bool) (cs : List Char) : Option (Pattern × List Char) := do
  let (negated, first, rest) := setStart loose cs
  let (set, rest) ← setRest loose (cs.length + 1) none first rest
  some (brackets negated set, rest)

def flagOf? (c : Char) : Option Flag :=
  match c with
  | 'i' => some .ignoreCase
  | 'm' => some .manyLines
  | 's' => some .dotMatchesAll
  | 'U' => some .swapGreed
  | 'u' => some .unicode
  | 'R' => some .carriageReturns
  | 'x' => some .loose
  | _ => none

def endsFlags (c : Char) : Bool := c = ':' || c = ')'

/-- Flags up to a colon or a parenthesis. Behind a minus, of which there is one at most, they are
turned off, and there is one at least. -/
def flagChanges : (on : Bool) → (changes : List FlagChange) → List Char →
    Option (List FlagChange × List Char)
  | _, _, [] => none
  | on, changes, c :: rest =>
    if endsFlags c then some (changes.reverse, c :: rest)
    else if c = '-' then
      if !on || rest.head?.any endsFlags then none else flagChanges false changes rest
    else
      match flagOf? c with
      | some flag =>
        if changes.any (·.flag = flag) then none else flagChanges on (⟨flag, on⟩ :: changes) rest
      | none => none

def groupName? (cs : List Char) : Option (String × List Char) :=
  let isInner := fun c =>
    c = '_' || c = '.' || c = '[' || c = ']' || Text.isAlphanumeric c
  match cs.takeWhile (· != '>'), cs.dropWhile (· != '>') with
  | c :: name, _ :: rest =>
    if (c = '_' || Text.isLetter c) && name.all isInner then
      some (String.ofList (c :: name), rest)
    else none
  | _, _ => none

inductive Opening
  | group (name : Option String) (changes : List FlagChange)
  | flags (changes : List FlagChange)

def opening : List Char → Option (Opening × List Char)
  | '?' :: 'P' :: '<' :: rest => (groupName? rest).map fun (name, rest) => (.group name [], rest)
  | '?' :: '<' :: '=' :: _ | '?' :: '<' :: '!' :: _ | '?' :: '=' :: _ | '?' :: '!' :: _ => none
  | '?' :: '<' :: rest => (groupName? rest).map fun (name, rest) => (.group name [], rest)
  | '?' :: rest => do
    let (changes, rest) ← flagChanges true [] rest
    match rest with
    | ':' :: rest => some (.group none changes, rest)
    | _ :: rest => if changes.isEmpty then none else some (.flags changes, rest)
    | [] => none
  | cs => some (.group none [], cs)

/-- Put the last part of a sequence, which is given from its end, under a repetition. Flags cannot
be repeated. -/
def repeatLast? : List Pattern → Option (List Pattern)
  | [] => none
  | .flags _ :: _ => none
  | p :: parts => some (.repeated p :: parts)

/-- The rest of a group up to a closing parenthesis or the end. The alternatives and the parts of
the current one are those so far, the last one first. -/
def groupRest : (fuel : Nat) → (loose : Bool) → (alternatives parts : List Pattern) →
    List Char → Option (Pattern × List Char)
  | 0, _, _, _, _ => none
  | fuel + 1, loose, alternatives, parts, cs =>
    let current := ofSequence parts.reverse
    match skipLoose loose cs with
    | [] => some (ofAlternatives (current :: alternatives).reverse, [])
    | ')' :: rest => some (ofAlternatives (current :: alternatives).reverse, ')' :: rest)
    | '|' :: rest => groupRest fuel loose (current :: alternatives) [] rest
    | '(' :: rest => do
      match ← opening (skipLoose loose rest) with
      | (.flags changes, rest) =>
        groupRest fuel (FlagChange.apply changes .loose loose) alternatives
          (.flags changes :: parts) rest
      | (.group name changes, rest) =>
        match ← groupRest fuel (FlagChange.apply changes .loose loose) [] [] rest with
        | (p, ')' :: rest) =>
          groupRest fuel loose alternatives (.group name changes p :: parts) rest
        | _ => none
    | '[' :: rest => do
      let (set, rest) ← brackets? loose rest
      groupRest fuel loose alternatives (set :: parts) rest
    | '\\' :: rest => do
      let (p, rest) ← escape loose rest
      groupRest fuel loose alternatives (p :: parts) rest
    | '\x7b' :: _ => none
    | c :: rest =>
      if c = '*' ∨ c = '+' ∨ c = '?' then do
        let parts ← repeatLast? parts
        groupRest fuel loose alternatives parts ((Scan.after? ['?'] rest).getD rest)
      else
        let p := if c = '.' then anyChar
          else if c = '^' ∨ c = '$' then edge false
          else letter { char := c }
        groupRest fuel loose alternatives (p :: parts) rest

def parse? (text : String) : Option Pattern :=
  match groupRest (text.length + 1) false [] [] text.toList with
  | some (p, []) => some p
  | _ => none

end RankTrace.Pattern
