import RankTrace.Text.Unshown

/-!
# Quoted texts

A text between double quotes for messages that people read. The quote, the backslash and
characters that would not be visible are escaped, all others stand for themselves.
-/

namespace RankTrace.Text

def codePointEscape (c : Char) : List Char :=
  ['\\', 'u', '\x7b'] ++ Nat.toDigits 16 c.toNat ++ ['\x7d']

def escape (c : Char) : List Char :=
  if c = '"' then ['\\', '"']
  else if c = '\\' then ['\\', '\\']
  else if c = '\t' then ['\\', 't']
  else if c = '\n' then ['\\', 'n']
  else if c = '\r' then ['\\', 'r']
  else if c = '\x00' then ['\\', '0']
  else if isUnshown c then codePointEscape c
  else [c]

def quoted (text : String) : String :=
  String.ofList ('"' :: text.toList.flatMap escape ++ ['"'])

def quotedPairs (pairs : List (String × String)) : String :=
  let items := pairs.map fun (a, b) => "(" ++ quoted a ++ ", " ++ quoted b ++ ")"
  "[" ++ String.intercalate ", " items ++ "]"

end RankTrace.Text
