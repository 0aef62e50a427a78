import RankTrace.Decimal.Shortest
import RankTrace.Bytes
import RankTrace.Dump.Value

/-!
# Dumps as JSON

Compact JSON text of a dump tree, with the rows of a dictionary in their order. Only the quote, the
backslash and control characters are escaped. Numbers that JSON has no text for are written as
`null`.
-/

namespace RankTrace.Json

/-- Floats are positional for leading exponents from -5 to 15, and always show that they are no
integers. -/
def floatLayout : Decimal.Layout where
  positional e := -5 ≤ e && e ≤ 15
  wholeSuffix := ".0"
  exponentPlus := "+"

def escape (c : Char) : List Char :=
  if c = '"' then ['\\', '"']
  else if c = '\\' then ['\\', '\\']
  else if c = '\x08' then ['\\', 'b']
  else if c = '\x0c' then ['\\', 'f']
  else if c = '\n' then ['\\', 'n']
  else if c = '\r' then ['\\', 'r']
  else if c = '\t' then ['\\', 't']
  else if c.toNat < 32 then
    ['\\', 'u', '0', '0', Hex.digit (c.toNat / 16), Hex.digit (c.toNat % 16)]
  else [c]

def quote (s : String) : List Char := '"' :: s.toList.flatMap escape ++ ['"']

def scalarText : Value → List Char
  | .null => ['n', 'u', 'l', 'l']
  | .bool true => ['t', 'r', 'u', 'e']
  | .bool false => ['f', 'a', 'l', 's', 'e']
  | .int i => (toString i.toInt).toList
  | .float f => if f.isFinite then (f.text floatLayout).toList else ['n', 'u', 'l', 'l']
  | .str s => quote s
  | .list _ => []
  | .dict _ => []

mutual

def write : Value → List Char → List Char
  | .list items, rest => '[' :: writeItems true items (']' :: rest)
  | .dict fields, rest => '{' :: writeFields true fields ('}' :: rest)
  | value, rest => scalarText value ++ rest

def writeItems (first : Bool) : List Value → List Char → List Char
  | [], rest => rest
  | item :: items, rest =>
    let tail := write item (writeItems false items rest)
    if first then tail else ',' :: tail

def writeFields (first : Bool) : List (String × Value) → List Char → List Char
  | [], rest => rest
  | (key, value) :: fields, rest =>
    let tail := quote key ++ ':' :: write value (writeFields false fields rest)
    if first then tail else ',' :: tail

end

def text (v : Value) : String := String.ofList (write v [])

end RankTrace.Json
