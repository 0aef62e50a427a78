import RankTrace.Bytes
import RankTrace.Text.Utf8

/-!
# Percent escapes and form fields

Escapes `%XX` stand for bytes; a percent sign without two hexadecimal digits stands for itself. A
query is a list of fields between ampersands, each with a value behind its first equals sign, where
plus signs are blanks. Empty fields do not count.
-/

namespace RankTrace.Form

def digit? (b : UInt8) : Option Nat := Hex.value? (Char.ofNat b.toNat)

def escaped? (high low : UInt8) : Option UInt8 :=
  match digit? high, digit? low with
  | some h, some l => some (UInt8.ofNat (16 * h + l))
  | _, _ => none

def unescape : List UInt8 → List UInt8
  | 0x25 :: high :: low :: rest =>
    match escaped? high low with
    | some b => b :: unescape rest
    | none => 0x25 :: unescape (high :: low :: rest)
  | b :: rest => b :: unescape rest
  | [] => []
termination_by bytes => bytes.length

def splitAt (separator : UInt8) : List UInt8 → List (List UInt8)
  | [] => [[]]
  | b :: rest =>
    if b = separator then [] :: splitAt separator rest
    else
      match splitAt separator rest with
      | piece :: pieces => (b :: piece) :: pieces
      | [] => [[b]]

/-- A name or a value: plus signs are blanks, and bytes that are no text are replaced. -/
def component (bytes : List UInt8) : String :=
  String.ofList (Utf8.lenient (unescape (bytes.map fun b => if b = 0x2b then 0x20 else b)))

/-- A field without an equals sign has the empty value. -/
def field (bytes : List UInt8) : String × String :=
  (component (bytes.takeWhile (· != 0x3d)), component ((bytes.dropWhile (· != 0x3d)).drop 1))

def fields (query : List UInt8) : List (String × String) :=
  ((splitAt 0x26 query).filter (!·.isEmpty)).map field

end RankTrace.Form
