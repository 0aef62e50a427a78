import RankTrace.Config.Toml.Node

/-!
# Configuration files

The grammar of whole files: lines with a key and a value, headers that open a table, and headers
that open another table of a list. Between the items of a list there may be line breaks and
comments; where these go wrong, the list is taken to end in front of the item that they belong to.
-/

namespace RankTrace.Toml

def skipComment : List Char → List Char
  | '#' :: rest => rest.dropWhile Config.isPlain
  | cs => cs

/-- A line break. What stands there instead is passed, so a fault comes behind it. -/
def lineBreak (cs : List Char) : Except Fault (List Char) :=
  match afterBreak? cs with
  | some rest => .ok rest
  | none => .error (Fault.before cs.tail)

def skipLines : (fuel : Nat) → List Char → Except Fault (List Char)
  | 0, cs => .ok cs
  | fuel + 1, cs =>
    match skipSpace cs with
    | c :: rest =>
      if c = '#' ∨ c = '\n' ∨ c = '\r' then
        (lineBreak (skipComment (c :: rest))).bind (skipLines fuel)
      else .ok (c :: rest)
    | [] => .ok []

def skipAllLines (cs : List Char) : Except Fault (List Char) := skipLines cs.length cs

def afterLine (cs : List Char) : Except Fault (List Char) :=
  match skipComment (skipSpace cs) with
  | [] => .ok []
  | cs =>
    match afterBreak? cs with
    | some rest => .ok rest
    | none => firmly (wanting ["newline", "`#`"] (.error (Fault.before cs)))

def keyAndSign (cs : List Char) : Except Fault ((List String × String) × List Char) := do
  let (key, rest) ← key cs
  let rest ← firmly (wanting ["`.`", "`=`"] (expect ['='] rest))
  return (key, skipSpace rest)

def close (subject : String) (bracket : Char) (cs : List Char) : Except Fault (List Char) :=
  firmly (reading subject (wanting [s!"`{bracket}`"] (expect [bracket] cs)))

mutual

def value : (fuel depth : Nat) → List Char → Read Item
  | 0, _, cs => .error (Fault.before cs)
  | fuel + 1, depth, cs =>
    match cs with
    | '[' :: rest => firmly do
      checking cs (if maxDepth ≤ depth + 1 then .error tooDeep else .ok ())
      let (vs, rest) ← items fuel depth rest
      let rest := if vs.isEmpty then rest else (Scan.after? [','] rest).getD rest
      let rest ← skipAllLines rest
      return (Item.ofList vs, ← close "array" ']' rest)
    | '\x7b' :: rest => firmly do
      checking cs (if maxDepth ≤ depth + 1 then .error tooDeep else .ok ())
      let (fields, behind) ← fields fuel depth rest
      let rows ← checking rest (fields.foldlM (fun rows ((path, key), v) =>
        Node.setInside path key v rows) [])
      return (⟨.table, Node.ofRows rows⟩, ← close "inline table" '\x7d' (skipSpace behind))
    | cs => scalar cs

def item : (fuel depth : Nat) → List Char → Except Fault (Item × List Char)
  | 0, _, cs => .error (Fault.before cs)
  | fuel + 1, depth, cs => do
    let rest ← skipAllLines cs
    let (v, rest) ← value fuel (depth + 1) rest
    return (v, ← skipAllLines rest)

/-- The items of a list behind its opening bracket, as far as they go. A comma with no item behind
it is left. -/
def items : (fuel depth : Nat) → List Char → Except Fault (List Item × List Char)
  | 0, _, cs => .error (Fault.before cs)
  | fuel + 1, depth, cs => do
    let (v, rest) ← perhaps cs (item fuel depth cs)
    match v, rest with
    | none, rest => .ok ([], rest)
    | some v, ',' :: behind =>
      let (vs, last) ← items fuel depth behind
      .ok (v :: vs, if vs.isEmpty then ',' :: behind else last)
    | some v, rest => .ok ([v], rest)

def fields : (fuel depth : Nat) → List Char →
    Except Fault (List ((List String × String) × Item) × List Char)
  | 0, _, cs => .error (Fault.before cs)
  | fuel + 1, depth, cs => do
    let (key, rest) ← perhaps cs (keyAndSign cs)
    match key with
    | none => .ok ([], rest)
    | some key =>
      let (v, rest) ← firmly (value fuel (depth + 1) rest)
      match skipSpace rest with
      | ',' :: behind =>
        let (others, last) ← fields fuel depth behind
        .ok ((key, v) :: others, if others.isEmpty then ',' :: behind else last)
      | rest => .ok ([(key, v)], rest)

end

def header (bracket : List Char) (cs : List Char) :
    Except Fault ((List String × String) × List Char) :=
  firmly do
    let (key, rest) ← key cs
    let rest ← wanting ["`.`", "`" ++ String.ofList bracket ++ "`"] (expect bracket rest)
    return (key, ← afterLine rest)

/-- A line that opens a table, or another table of a repeated header: the path of that table, the
rows with it, and what follows the line. -/
def headerLine (rows : Rows) (cs : List Char) :
    Except Fault ((List String × Rows) × List Char) :=
  reading "table header" <| firmly <|
    match cs with
    | '[' :: '[' :: rest => do
      let ((path, last), rest) ← header [']', ']'] rest
      let rows ← checking cs (Node.openRepeated path last rows)
      return ((path ++ [last], rows), rest)
    | '[' :: c :: rest => do
      let ((path, last), rest) ← header [']'] (c :: rest)
      let rows ← checking cs (Node.openTable path last rows)
      return ((path ++ [last], rows), rest)
    | cs => .error (Fault.before cs)

def keyLine (current : List String) (rows : Rows) (cs : List Char) :
    Except Fault (Rows × List Char) :=
  firmly do
    let ((path, last), rest) ← keyAndSign cs
    let (v, rest) ← value (3 * rest.length + 3) 0 rest
    let rest ← afterLine rest
    let rows ← checking cs (Node.setIn current path last v rows)
    return (rows, rest)

def lines : (fuel : Nat) → (current : List String) → Rows → List Char → Except Fault Rows
  | 0, _, _, cs => .error (Fault.before cs)
  | fuel + 1, current, rows, cs =>
    match skipSpace cs with
    | [] => .ok rows
    | '[' :: rest => do
      let ((current, rows), rest) ← headerLine rows ('[' :: rest)
      lines fuel current rows rest
    | c :: rest =>
      if c = '#' ∨ c = '\n' ∨ c = '\r' then
        match skipComment (c :: rest) with
        | [] => .ok rows
        | rest =>
          match afterBreak? rest with
          | some rest => lines fuel current rows rest
          | none => .error (Fault.before rest)
      else do
        let (rows, rest) ← keyLine current rows (c :: rest)
        lines fuel current rows rest

def skipMark : List Char → List Char
  | '\ufeff' :: rest => rest
  | cs => cs

def parse (text : String) : Except Fault ConfigValue :=
  let cs := skipMark text.toList
  (lines (cs.length + 1) [] [] cs).map Node.ofRows

end RankTrace.Toml
