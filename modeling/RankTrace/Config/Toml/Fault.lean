import RankTrace.Config.Escaped

/-!
# Faults of configuration files

Where reading a file stopped and why: what could not be read, what could have stood there, and
what is wrong with what was read. A fault that is not final lets another reading be tried. The
message shows the line with a mark under the place.
-/

namespace RankTrace.Toml

structure Fault where
  /-- How many characters are left where reading stopped. -/
  left : Nat
  subject : Option String := none
  wanted : List String := []
  reason : Option String := none
  final : Bool := false
  deriving DecidableEq, Repr

abbrev Read (α : Type) := Except Fault (α × List Char)

namespace Fault

def before (cs : List Char) : Fault := { left := cs.length }

def words (f : Fault) : String :=
  let subject := f.subject.map ("invalid " ++ ·)
  let wanted :=
    if f.wanted.isEmpty then none else some ("expected " ++ String.intercalate ", " f.wanted)
  String.intercalate "\n" [subject, wanted, f.reason].reduceOption

/-- Where a fault is in its file: the line, the column, both from zero, and the width of what
stands there. -/
structure Place where
  line : Nat
  column : Nat
  width : Nat
  deriving DecidableEq, Repr

def lastLine (cs : List Char) : Nat × List Char :=
  (cs.count '\n', (cs.reverse.takeWhile (· != '\n')).reverse)

/-- The place of a fault. A line break at the end of the file belongs to the line before it, and
in front of a character beyond ASCII columns are bytes. -/
def place (source : List Char) (f : Fault) : Place :=
  let before := source.take (source.length - f.left)
  match source.drop (source.length - f.left) with
  | [] =>
    if before.getLast? = some '\n' then
      let (line, cs) := lastLine before.dropLast
      ⟨line, cs.length + 1, 0⟩
    else
      let (line, cs) := lastLine before
      ⟨line, cs.length, 0⟩
  | c :: _ =>
    let (line, cs) := lastLine before
    if c.toNat < 0x80 then ⟨line, cs.length, 1⟩
    else ⟨line, (String.ofList cs).utf8ByteSize, c.utf8Size⟩

def text (source : String) (f : Fault) : String :=
  let place := f.place source.toList
  let line := (source.splitOn "\n").getD place.line ""
  let marks := min place.width (line.utf8ByteSize - place.column)
  let number := toString (place.line + 1)
  let margin := String.ofList (List.replicate (number.length + 1) ' ') ++ "|"
  String.intercalate "\n"
    [s!"TOML parse error at line {number}, column {place.column + 1}",
      margin,
      s!"{number} | {line}",
      margin ++ String.ofList (List.replicate (place.column + 1) ' ') ++
        String.ofList (List.replicate (max marks 1) '^'),
      f.words, ""]

end Fault

section

variable {α : Type}

def firmly (read : Except Fault α) : Except Fault α :=
  read.mapError fun f => { f with final := true }

def reading (subject : String) (read : Except Fault α) : Except Fault α :=
  read.mapError fun f => { f with subject := f.subject <|> some subject }

def wanting (wanted : List String) (read : Except Fault α) : Except Fault α :=
  read.mapError fun f => { f with wanted := f.wanted ++ wanted }

def orElse (read : Except Fault α) (other : Unit → Except Fault α) : Except Fault α :=
  match read with
  | .ok a => .ok a
  | .error f => if f.final then .error f else other ()

def perhaps (cs : List Char) (read : Read α) : Read (Option α) :=
  orElse (read.map fun (a, rest) => (some a, rest)) fun _ => .ok (none, cs)

/-- A check of what was read; a complaint is blamed on what stands in front of `cs`. -/
def checking (cs : List Char) (check : Except String α) : Except Fault α :=
  check.mapError fun reason => { Fault.before cs with reason := some reason }

end

def expect (expected : List Char) (cs : List Char) : Except Fault (List Char) :=
  match Scan.after? expected cs with
  | some rest => .ok rest
  | none => .error (Fault.before cs)

def quotedText (subject : String) (read : Except Config.QuoteFault (List Char × List Char)) :
    Read (List Char) :=
  read.mapError fun
    | .unknownEscape left =>
      { left, final := true, subject := some "escape sequence"
        wanted := ["`b`", "`f`", "`n`", "`r`", "`t`", "`u`", "`U`", "`\\`", "`\"`"] }
    | .tooFewDigits digits left =>
      { left, final := true, subject := some s!"unicode {digits}-digit hex code" }
    | .noCharacter digits left =>
      { left, final := true, subject := some s!"unicode {digits}-digit hex code"
        reason := some "value is out of range" }
    | .unclosed left => { left, final := true, subject := some subject }

end RankTrace.Toml
