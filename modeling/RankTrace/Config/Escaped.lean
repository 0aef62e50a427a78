import RankTrace.Text.Scan

/-!
# Quoted texts in configuration

The inside of a text between double quotes, with escapes for controls and code points, and of one
between single quotes, where everything stands for itself. Neither holds a line break or another
control character beside the tab.
-/

namespace RankTrace.Config

/-- What is wrong inside quotes, and how many characters are left there. -/
inductive QuoteFault
  | unknownEscape (left : Nat)
  | tooFewDigits (digits left : Nat)
  | noCharacter (digits left : Nat)
  | unclosed (left : Nat)
  deriving DecidableEq, Repr

def simpleEscape? (c : Char) : Option Char :=
  if c = 'b' then some '\x08'
  else if c = 't' then some '\t'
  else if c = 'n' then some '\n'
  else if c = 'f' then some '\x0c'
  else if c = 'r' then some '\r'
  else if c = '"' then some '"'
  else if c = '\\' then some '\\'
  else none

def isPlain (c : Char) : Bool := c = '\t' || (0x20 ≤ c.toNat && c.toNat != 0x7f)

def inFront {ε : Type} (c : Char) (read : Except ε (List Char × List Char)) :
    Except ε (List Char × List Char) :=
  read.map fun (text, rest) => (c :: text, rest)

def codePoint (count : Nat) (cs : List Char) : Except QuoteFault (Char × List Char) :=
  let digits := (cs.take count).takeWhile Scan.isHexDigit
  if digits.length = count then
    match Scan.character? digits with
    | some c => .ok (c, cs.drop count)
    | none => .error (.noCharacter count cs.length)
  else .error (.tooFewDigits count cs.length)

/-- What one escape stands for, and what follows it. An unknown one is blamed on what follows its
first character, if that is one of ASCII. -/
def escape (c : Char) (rest : List Char) : Except QuoteFault (Char × List Char) :=
  if c = 'u' then codePoint 4 rest
  else if c = 'U' then codePoint 8 rest
  else
    match simpleEscape? c with
    | some c => .ok (c, rest)
    | none => .error (.unknownEscape (if c.toNat < 0x80 then rest.length else rest.length + 1))

def escaped : (fuel : Nat) → List Char → Except QuoteFault (List Char × List Char)
  | 0, cs => .error (.unclosed cs.length)
  | _ + 1, [] => .error (.unclosed 0)
  | fuel + 1, c :: rest =>
    if c = '"' then .ok ([], rest)
    else if c = '\\' then
      match rest with
      | [] => .error (.unclosed 1)
      | c :: rest =>
        match escape c rest with
        | .ok (c, rest) => inFront c (escaped fuel rest)
        | .error fault => .error fault
    else if isPlain c then inFront c (escaped fuel rest)
    else .error (.unclosed (rest.length + 1))

def escapedText (cs : List Char) : Except QuoteFault (List Char × List Char) :=
  escaped (cs.length + 1) cs

def literalText : List Char → Except QuoteFault (List Char × List Char)
  | [] => .error (.unclosed 0)
  | c :: rest =>
    if c = '\'' then .ok ([], rest)
    else if isPlain c then inFront c (literalText rest)
    else .error (.unclosed (rest.length + 1))

end RankTrace.Config
