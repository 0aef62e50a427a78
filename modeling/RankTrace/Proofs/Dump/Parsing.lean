import RankTrace.Dump.Json
import RankTrace.Text.Scan

/-!
# Reading JSON

The grammar of JSON, as a reader that gives the tree at the front of a text and what is left behind
it. Every form of the grammar is read, not only those in which dumps are written: blanks between the
parts, escapes by letter and by code unit, pairs of surrogates, fractions and exponents. Whole
numbers that do not fit a signed word of 64 bits have no place in a tree and are refused. Keys may
repeat and keep their order.
-/

namespace RankTrace.Json

def isBlank (c : Char) : Bool := c = ' ' || c = '\t' || c = '\n' || c = '\r'

def skipBlanks (cs : List Char) : List Char := cs.dropWhile isBlank

/-! ## Numbers -/

def digits? (cs : List Char) : Option (List Char × List Char) :=
  match cs.takeWhile Char.isDigit with
  | [] => none
  | ds => some (ds, cs.dropWhile Char.isDigit)

/-- The digits before a point. A zero in front is the only one of them. -/
def whole? (cs : List Char) : Option (List Char × List Char) :=
  match digits? cs with
  | some ('0' :: _ :: _, _) => none
  | read => read

def fraction? : List Char → Option (List Char × List Char)
  | '.' :: cs => digits? cs
  | cs => some ([], cs)

def sign : List Char → Bool × List Char
  | '-' :: cs => (true, cs)
  | cs => (false, cs)

def signed (negative : Bool) (n : Nat) : Int := if negative then -n else n

def exponentSign : List Char → Bool × List Char
  | '+' :: cs => (false, cs)
  | cs => sign cs

def exponent? : List Char → Option (Option Int × List Char)
  | [] => some (none, [])
  | mark :: cs =>
    if mark = 'e' ∨ mark = 'E' then do
      let (negative, cs) := exponentSign cs
      let (ds, rest) ← digits? cs
      return (some (signed negative (Scan.decimal ds)), rest)
    else some (none, mark :: cs)

def numberValue (negative : Bool) (whole fraction : List Char) (exponent : Option Int) :
    Option Value :=
  if fraction = [] ∧ exponent = none then
    let i := signed negative (Scan.decimal whole)
    if (Int64.ofInt i).toInt = i then some (.int (Int64.ofInt i)) else none
  else
    some (.float (Double.ofDecimal negative
      ⟨Scan.decimal (whole ++ fraction), exponent.getD 0 - fraction.length⟩))

def number? (cs : List Char) : Option (Value × List Char) := do
  let (negative, cs) := sign cs
  let (whole, cs) ← whole? cs
  let (fraction, cs) ← fraction? cs
  let (exponent, rest) ← exponent? cs
  let v ← numberValue negative whole fraction exponent
  return (v, rest)

/-! ## Strings -/

def unit? : List Char → Option (Nat × List Char)
  | a :: b :: c :: d :: rest => do
    let ds ← [a, b, c, d].mapM Hex.value?
    return (ds.foldl (fun n d => 16 * n + d) 0, rest)
  | _ => none

/-- A character by its code unit, or by two of them if it lies beyond the first `2 ^ 16`. -/
def unicode? (cs : List Char) : Option (Char × List Char) := do
  let (high, cs) ← unit? cs
  if high < 0xd800 ∨ 0xdfff < high then return (Char.ofNat high, cs)
  else
    match cs with
    | '\\' :: 'u' :: cs => do
      let (low, rest) ← unit? cs
      if high < 0xdc00 ∧ 0xdc00 ≤ low ∧ low ≤ 0xdfff then
        return (Char.ofNat (0x10000 + 0x400 * (high - 0xd800) + (low - 0xdc00)), rest)
      else none
    | _ => none

def letter? : Char → Option Char
  | '"' => some '"'
  | '\\' => some '\\'
  | '/' => some '/'
  | 'b' => some '\x08'
  | 'f' => some '\x0c'
  | 'n' => some '\n'
  | 'r' => some '\r'
  | 't' => some '\t'
  | _ => none

def character? : List Char → Option (Char × List Char)
  | [] => none
  | '\\' :: 'u' :: cs => unicode? cs
  | '\\' :: c :: rest => (letter? c).map (·, rest)
  | c :: rest => if c = '\\' ∨ c = '"' ∨ c.toNat < 32 then none else some (c, rest)

/-- Fewer than `limit` characters up to the quote that ends them. -/
def content? : (limit : Nat) → List Char → Option (List Char × List Char)
  | 0, _ => none
  | limit + 1, cs =>
    match cs with
    | '"' :: rest => some ([], rest)
    | cs => do
      let (c, cs) ← character? cs
      let (s, rest) ← content? limit cs
      return (c :: s, rest)

def string? (cs : List Char) : Option (String × List Char) :=
  (content? cs.length cs).map fun (s, rest) => (String.ofList s, rest)

/-! ## Trees -/

def word? (cs : List Char) : Option (Value × List Char) :=
  (Scan.after? ['n', 'u', 'l', 'l'] cs).map (.null, ·) <|>
    (Scan.after? ['t', 'r', 'u', 'e'] cs).map (.bool true, ·) <|>
    (Scan.after? ['f', 'a', 'l', 's', 'e'] cs).map (.bool false, ·)

def parts? {α : Type} (close : Char) (read : List Char → Option (α × List Char)) :
    (limit : Nat) → List Char → Option (List α × List Char)
  | 0, _ => none
  | limit + 1, cs => do
    let (part, cs) ← read cs
    match skipBlanks cs with
    | [] => none
    | mark :: cs =>
      if mark = ',' then do
        let (parts, rest) ← parts? close read limit cs
        return (part :: parts, rest)
      else if mark = close then some ([part], cs)
      else none

def closed? {α : Type} (close : Char) (read : List Char → Option (α × List Char))
    (cs : List Char) : Option (List α × List Char) :=
  match skipBlanks cs with
  | [] => none
  | mark :: rest => if mark = close then some ([], rest) else parts? close read cs.length cs

def row? (read : List Char → Option (Value × List Char)) (cs : List Char) :
    Option ((String × Value) × List Char) :=
  match skipBlanks cs with
  | '"' :: cs => do
    let (key, cs) ← string? cs
    match skipBlanks cs with
    | ':' :: cs => do
      let (v, rest) ← read cs
      return ((key, v), rest)
    | _ => none
  | _ => none

/-- The tree at the front of a text, if it is nested less deep than `limit`. -/
def tree? : (limit : Nat) → List Char → Option (Value × List Char)
  | 0, _ => none
  | limit + 1, cs =>
    match skipBlanks cs with
    | '[' :: cs => (closed? ']' (tree? limit) cs).map fun (items, rest) => (.list items, rest)
    | '\x7b' :: cs =>
      (closed? '\x7d' (row? (tree? limit)) cs).map fun (fields, rest) => (.dict fields, rest)
    | '"' :: cs => (string? cs).map fun (s, rest) => (.str s, rest)
    | cs => word? cs <|> number? cs

def decode? (text : String) : Option Value :=
  match tree? (text.length + 1) text.toList with
  | some (v, rest) => if rest.all isBlank then some v else none
  | none => none

example : decode? " [ -0.5e1 , \"\\u00e9\\/\\uD83D\\ude00\" , 12, \x7b\"a\" :\n[]\x7d ] " =
    some (.list [.float ⟨0xc014000000000000⟩, .str "é/😀", .int 12, .dict [("a", .list [])]]) := rfl

end RankTrace.Json
