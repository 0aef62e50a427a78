import RankTrace.Config.Literal
import RankTrace.Config.Toml.Item

/-!
# Scalars of configuration files

Texts on one line and on several, numbers in four bases, and floats. Digits may have single
underscores between them, and decimal numbers have no leading zeros. A number is first read as a
moment, then as a float, then as an integer; what can only be one of these is not tried as another.
-/

namespace RankTrace.Toml

open Config (inFront isPlain)
open Scan (isHexDigit)

def isSpace (c : Char) : Bool := c = ' ' || c = '\t'

def skipSpace (cs : List Char) : List Char := cs.dropWhile isSpace

def afterBreak? : List Char → Option (List Char)
  | '\n' :: rest => some rest
  | '\r' :: '\n' :: rest => some rest
  | _ => none

def skipBlankLines : (fuel : Nat) → List Char → List Char
  | 0, cs => cs
  | fuel + 1, cs =>
    let cs := skipSpace cs
    match afterBreak? cs with
    | some rest => skipBlankLines fuel rest
    | none => cs

def afterContinuation? (cs : List Char) : Option (List Char) :=
  (afterBreak? (skipSpace cs)).map (skipBlankLines cs.length)

/-- Quotes inside a text on several lines have something behind them: in a text without escapes,
something that can stand in it. -/
def canFollowQuotes (escapes : Bool) (cs : List Char) : Bool :=
  match cs with
  | [] => false
  | c :: _ => escapes || isPlain c || (afterBreak? cs).isSome

/-- The rest of a text on several lines behind its opening quotes. Up to two quotes may stand in
front of the closing ones. -/
def manyLines (quote : Char) (escapes : Bool) : (fuel : Nat) → List Char →
    Except Config.QuoteFault (List Char × List Char)
  | 0, cs => .error (.unclosed cs.length)
  | _ + 1, [] => .error (.unclosed 0)
  | fuel + 1, c :: rest =>
    if c = quote then
      let quotes := (c :: rest).takeWhile (· == quote)
      if 3 ≤ quotes.length then
        let inside := min (quotes.length - 3) 2
        .ok (List.replicate inside quote, (c :: rest).drop (3 + inside))
      else if canFollowQuotes escapes ((c :: rest).drop quotes.length) then
        inFront c (manyLines quote escapes fuel rest)
      else .error (.unclosed (rest.length + 1))
    else if c = '\\' && escapes then
      match rest, afterContinuation? rest with
      | _, some rest => manyLines quote escapes fuel rest
      | [], none => .error (.unclosed 1)
      | c :: rest, none =>
        match Config.escape c rest with
        | .ok (c, rest) => inFront c (manyLines quote escapes fuel rest)
        | .error fault => .error fault
    else
      match afterBreak? (c :: rest) with
      | some rest => inFront '\n' (manyLines quote escapes fuel rest)
      | none =>
        if isPlain c then inFront c (manyLines quote escapes fuel rest)
        else .error (.unclosed (rest.length + 1))

/-- A line break right behind the opening quotes does not count. -/
def manyLinesText (quote : Char) (escapes : Bool) (cs : List Char) :
    Except Config.QuoteFault (List Char × List Char) :=
  manyLines quote escapes (cs.length + 1) ((afterBreak? cs).getD cs)

def basicText (rest : List Char) : Read (List Char) :=
  quotedText "basic string" (Config.escapedText rest)

def literalText (rest : List Char) : Read (List Char) :=
  quotedText "literal string" (Config.literalText rest)

def text : List Char → Read (List Char)
  | '"' :: '"' :: '"' :: rest => quotedText "multiline basic string" (manyLinesText '"' true rest)
  | '\'' :: '\'' :: '\'' :: rest =>
    quotedText "multiline literal string" (manyLinesText '\'' false rest)
  | '"' :: rest => basicText rest
  | '\'' :: rest => literalText rest
  | cs => .error (Fault.before cs)

def moreDigits (isDigit : Char → Bool) : List Char → Read (List Char)
  | '_' :: c :: rest =>
    if isDigit c then inFront c (moreDigits isDigit rest)
    else firmly (wanting ["digit"] (.error (Fault.before (c :: rest))))
  | ['_'] => firmly (wanting ["digit"] (.error (Fault.before [])))
  | c :: rest =>
    if isDigit c then inFront c (moreDigits isDigit rest) else .ok ([], c :: rest)
  | [] => .ok ([], [])

def digits (isDigit : Char → Bool) : List Char → Read (List Char)
  | c :: rest =>
    if isDigit c then inFront c (moreDigits isDigit rest) else .error (Fault.before (c :: rest))
  | [] => .error (Fault.before [])

def sign : List Char → Bool × List Char
  | '-' :: rest => (true, rest)
  | '+' :: rest => (false, rest)
  | cs => (false, cs)

def wholeNumber (cs : List Char) : Read (Bool × List Char) :=
  let (negative, rest) := sign cs
  reading "integer" <|
    match rest with
    | '0' :: rest => .ok ((negative, ['0']), rest)
    | rest => (digits Char.isDigit rest).map fun (digits, rest) => ((negative, digits), rest)

def signedItem (n : Int) : Except String Item :=
  if n < Literal.signedBounds.1 then .error "number too small to fit in target type"
  else if Literal.signedBounds.2 < n then .error "number too large to fit in target type"
  else .ok (Item.ofInteger (Int64.ofInt n))

def based (subject : String) (base : Nat) (isDigit : Char → Bool) (cs rest : List Char) :
    Read Item :=
  firmly do
    let (digits, rest) ← reading subject (digits isDigit rest)
    let n := digits.foldl (fun n c =>
      base * n + (if c.isDigit then c.toNat - 48 else (c.toNat % 32) + 9)) 0
    let v ← checking cs (signedItem n)
    return (v, rest)

def integer (cs : List Char) : Except Fault (Item × List Char) :=
  match cs with
  | '0' :: 'x' :: rest => based "hexadecimal integer" 16 isHexDigit cs rest
  | '0' :: 'o' :: rest => based "octal integer" 8 (fun c => '0' ≤ c && c ≤ '7') cs rest
  | '0' :: 'b' :: rest => based "binary integer" 2 (fun c => c = '0' || c = '1') cs rest
  | cs => do
    let ((negative, digits), rest) ← wholeNumber cs
    let n : Int := Scan.decimal digits
    let v ← firmly (checking cs (signedItem (if negative then -n else n)))
    return (v, rest)

def exponent : List Char → Except Fault (Int × List Char)
  | c :: rest =>
    if c = 'e' ∨ c = 'E' then do
      let (negative, rest) := sign rest
      let (digits, rest) ← firmly (digits Char.isDigit rest)
      let n : Int := Scan.decimal digits
      return (if negative then -n else n, rest)
    else .error (Fault.before (c :: rest))
  | [] => .error (Fault.before [])

def fraction : List Char → Except Fault ((List Char × Int) × List Char)
  | '.' :: rest => do
    let (places, rest) ← firmly (wanting ["digit"] (digits Char.isDigit rest))
    let (e, rest) ← perhaps rest (exponent rest)
    return ((places, e.getD 0), rest)
  | cs => .error (Fault.before cs)

/-- A float has a point or an exponent. One that is too large is no float. -/
def decimalFloat (cs : List Char) : Except Fault (Item × List Char) := do
  let ((negative, whole), rest) ← wholeNumber cs
  let ((places, e), rest) ←
    orElse ((exponent rest).map fun (e, rest) => (([], e), rest)) fun _ => fraction rest
  let f := Literal.makeFloat negative whole places e
  if f.isFinite || negative then return (Item.ofFloat f, rest)
  else firmly (.error (Fault.before cs))

def namedFloat (cs : List Char) : Read Item :=
  let (negative, rest) := sign cs
  let wide := FloatFormat.binary64
  let number := fun magnitude =>
    Item.ofFloat ⟨UInt64.ofNat (magnitude + if negative then wide.signBit else 0)⟩
  match Scan.afterText? "inf" rest, Scan.afterText? "nan" rest with
  | some rest, _ => .ok (number wide.infinity, rest)
  | none, some rest => .ok (number (wide.infinity + wide.hidden / 2), rest)
  | none, none => .error (Fault.before rest)

def float (cs : List Char) : Read Item :=
  reading "floating-point number" (orElse (decimalFloat cs) fun _ => namedFloat cs)

def word (item : Item) (expected : String) (cs : List Char) : Read Item :=
  reading "string" <| wanting ["`\"`", "`'`"] <|
    (expect expected.toList cs).map fun rest => (item, rest)

def scalar (cs : List Char) : Read Item :=
  match cs with
  | [] => .error (Fault.before [])
  | c :: _ =>
    if c = '"' ∨ c = '\'' then (text cs).map fun (cs, rest) => (Item.ofText cs, rest)
    else if c = '+' ∨ c = '-' ∨ c.isDigit then
      orElse ((moment cs).map fun (m, rest) => (Item.ofMoment m, rest)) fun _ =>
        orElse (float cs) fun _ => integer cs
    else if c = '_' then wanting ["leading digit"] (integer cs)
    else if c = '.' then wanting ["leading digit"] (float cs)
    else if c = 't' then firmly (word (Item.ofBool true) "true" cs)
    else if c = 'f' then firmly (word (Item.ofBool false) "false" cs)
    else reading "string" (wanting ["`\"`", "`'`"] (namedFloat cs))

end RankTrace.Toml
