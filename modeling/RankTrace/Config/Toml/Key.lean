import RankTrace.Config.Toml.Scalar

/-!
# Keys of configuration files

A key has one part or several with dots between them; a part is a bare word or stands in quotes. A
message shows a part the way it would be written in a file.
-/

namespace RankTrace.Toml

def tooDeep : String := "recursion limit exceeded"

def maxDepth : Nat := 80

def isBareKeyChar (c : Char) : Bool := c.isAlphanum || c = '_' || c = '-'

def keyPart : List Char → Read String
  | '"' :: rest => (basicText rest).map fun (key, rest) => (String.ofList key, rest)
  | '\'' :: rest => (literalText rest).map fun (key, rest) => (String.ofList key, rest)
  | cs =>
    let key := cs.takeWhile isBareKeyChar
    if key.isEmpty then .error (Fault.before cs)
    else .ok (String.ofList key, cs.dropWhile isBareKeyChar)

/-- The parts of a key behind its first one. A dot with no part behind it is left. -/
def moreKeyParts : (fuel : Nat) → List Char → Except Fault (List String × List Char)
  | fuel + 1, '.' :: cs => do
    let (part, rest) ← perhaps ('.' :: cs) (keyPart (skipSpace cs))
    match part with
    | none => .ok ([], rest)
    | some part =>
      (moreKeyParts fuel (skipSpace rest)).map fun (parts, rest) => (part :: parts, rest)
  | _, cs => .ok ([], cs)

def key (cs : List Char) : Except Fault ((List String × String) × List Char) := do
  let (first, rest) ← reading "key" (keyPart (skipSpace cs))
  let (more, rest) ← reading "key" (moreKeyParts rest.length (skipSpace rest))
  let parts := first :: more
  checking cs (if maxDepth ≤ parts.length then .error tooDeep else .ok ())
  return ((parts.dropLast, parts.getLastD first), rest)

def hexDigits (width n : Nat) : List Char :=
  let digits := (Nat.toDigits 16 n).map Char.toUpper
  List.replicate (width - digits.length) '0' ++ digits

def escapedChar (c : Char) : List Char :=
  if c = '\x08' then ['\\', 'b']
  else if c = '\t' then ['\\', 't']
  else if c = '\n' then ['\\', 'n']
  else if c = '\x0c' then ['\\', 'f']
  else if c = '\r' then ['\\', 'r']
  else if c = '"' then ['\\', '"']
  else if c = '\\' then ['\\', '\\']
  else if Config.isPlain c then [c]
  else '\\' :: 'u' :: hexDigits 4 c.toNat

/-- A part of a key as it is written: bare if it can be, and between single quotes if double ones
would call for more escapes than those of tabs. -/
def keyText (key : String) : String :=
  let cs := key.toList
  let quotable := cs.all fun c => Config.isPlain c && c != '\''
  if !cs.isEmpty && cs.all isBareKeyChar then key
  else if quotable && (cs.contains '"' || cs.contains '\\') then s!"'{key}'"
  else s!"\"{String.ofList (cs.flatMap escapedChar)}\""

end RankTrace.Toml
