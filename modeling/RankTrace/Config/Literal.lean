import RankTrace.Config.Escaped
import RankTrace.Config.Value

/-!
# Values of environment variables

An environment variable holds a boolean, a number, a quoted text, a character between single
quotes, a list between brackets or a table between braces. What is none of these as a whole is
plain text.
-/

namespace RankTrace.Literal

open Scan

def isSeparator (c : Char) : Bool := c = ',' || c = '{' || c = '}' || c = '[' || c = ']'

def isKeyChar (c : Char) : Bool := c.isAlphanum || c = '_' || c = '-'

def exponent? : List Char → Option Int
  | [] => some 0
  | c :: cs => if c = 'e' ∨ c = 'E' then signed? cs else none

def makeFloat (negative : Bool) (whole fraction : List Char) (exponent : Int) : Double :=
  Double.ofDecimal negative ⟨decimal (whole ++ fraction), exponent - fraction.length⟩

def float? (cs : List Char) : Option Double := do
  let (negative, cs) := match cs with
    | '-' :: cs => (true, cs)
    | '+' :: cs => (false, cs)
    | cs => (false, cs)
  let whole := cs.takeWhile Char.isDigit
  match cs.dropWhile Char.isDigit with
  | '.' :: rest =>
    let fraction := rest.takeWhile Char.isDigit
    let exponent ← exponent? (rest.dropWhile Char.isDigit)
    if whole.isEmpty && fraction.isEmpty then none
    else some (makeFloat negative whole fraction exponent)
  | _ => none

def maxUnsigned : Nat := UInt64.size - 1

def signedBounds : Int × Int := (Int64.minValue.toInt, Int64.maxValue.toInt)

def ofWord (cs : List Char) : ConfigValue :=
  let float := if cs.contains '.' then float? cs else none
  match float, unsigned? cs, signed? cs with
  | some f, _, _ => .float f
  | none, some n, i =>
    if n ≤ maxUnsigned then .unsigned (UInt64.ofNat n) else ofSigned i
  | none, none, i => ofSigned i
where
  ofSigned (i : Option Int) : ConfigValue :=
    match i with
    | some i =>
      if signedBounds.1 ≤ i ∧ i ≤ signedBounds.2 then .signed (Int64.ofInt i)
      else .text (String.ofList cs)
    | none => .text (String.ofList cs)

def fitting : (bytes : Nat) → List Char → List Char
  | _, [] => []
  | bytes, c :: cs => if c.utf8Size ≤ bytes then c :: fitting (bytes - c.utf8Size) cs else []

/-- The text behind an opening quote. Where it has an escape, as many bytes of what stands in front
of the first one are kept as there are characters. -/
def quoted? (cs : List Char) : Option (String × List Char) :=
  (Config.escapedText cs).toOption.map fun (text, rest) =>
    let start := cs.takeWhile fun c => c != '"' && c != '\\'
    match cs.drop start.length with
    | '\\' :: _ => (String.ofList (fitting start.length start ++ text.drop start.length), rest)
    | _ => (String.ofList text, rest)

def key? (cs : List Char) : Option (String × List Char) :=
  match cs.dropWhile isAsciiBlank with
  | '"' :: rest => quoted? rest
  | cs =>
    let key := cs.takeWhile isKeyChar
    if key.isEmpty then none else some (String.ofList key, cs.dropWhile isKeyChar)

mutual

def value : (fuel : Nat) → List Char → Option (ConfigValue × List Char)
  | 0, _ => none
  | fuel + 1, cs =>
    let cs := cs.dropWhile isAsciiBlank
    let read :=
      match afterText? "true" cs, afterText? "false" cs, cs with
      | some rest, _, _ => some (ConfigValue.bool true, rest)
      | none, some rest, _ => some (.bool false, rest)
      | none, none, '{' :: rest =>
        (rows fuel rest).map fun (rows, rest) => (.table (Table.ofRows rows), rest)
      | none, none, '[' :: rest => (items fuel rest).map fun (items, rest) => (.list items, rest)
      | none, none, '"' :: rest => (quoted? rest).map fun (text, rest) => (.text text, rest)
      | none, none, '\'' :: c :: '\'' :: rest => some (.text (String.ofList [c]), rest)
      | none, none, '\'' :: _ => none
      | none, none, cs =>
        some (ofWord (trim (cs.takeWhile (!isSeparator ·))), cs.dropWhile (!isSeparator ·))
    read.map fun (v, rest) => (v, rest.dropWhile isAsciiBlank)

def items : (fuel : Nat) → List Char → Option (List ConfigValue × List Char)
  | 0, _ => none
  | _ + 1, ']' :: rest => some ([], rest)
  | fuel + 1, cs => do
    match ← value fuel cs with
    | (v, ',' :: rest) =>
      let (vs, rest) ← items fuel rest
      some (v :: vs, rest)
    | (v, ']' :: rest) => some ([v], rest)
    | _ => none

def rows : (fuel : Nat) → List Char → Option (List (String × ConfigValue) × List Char)
  | 0, _ => none
  | _ + 1, '}' :: rest => some ([], rest)
  | fuel + 1, cs => do
    let (key, rest) ← key? cs
    match rest.dropWhile isAsciiBlank with
    | '=' :: rest =>
      match ← value fuel rest with
      | (v, ',' :: rest) =>
        let (vs, rest) ← rows fuel rest
        some ((key, v) :: vs, rest)
      | (v, '}' :: rest) => some ([(key, v)], rest)
      | _ => none
    | _ => none

end

/-- The value of a variable. Every reader takes a character for every two steps, so the length
bounds the steps. -/
def parse (text : String) : ConfigValue :=
  match value (2 * text.length + 2) text.toList with
  | some (v, []) => v
  | _ => .text text

end RankTrace.Literal
