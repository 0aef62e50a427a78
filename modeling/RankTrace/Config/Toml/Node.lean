import RankTrace.Config.Toml.Key

/-!
# Tables of a configuration file while it is read

A table is opened by one header at most, and what a header or a value has made is not made again.
Tables that are only passed through on the way to others may still get a header of their own, and
tables that keys with dots have made can be extended by such keys.
-/

namespace RankTrace.Toml

/-- What stands at a key while a file is read. -/
inductive Node
  | leaf (item : Item)
  /-- `passed` tables were made on the way to another one, `dotted` ones by a key with dots. -/
  | table (passed dotted : Bool) (rows : List (String × Node))
  /-- Tables under one repeated header, the last first. -/
  | repeated (tables : List (List (String × Node)))

abbrev Rows := List (String × Node)

/-- What a path belongs to. -/
inductive Way
  | header
  | line
  | braces
  deriving DecidableEq, Repr

namespace Node

def put (key : String) (node : Node) (rows : Rows) : Rows :=
  if (rows.lookup key).isSome then
    rows.map fun row => if row.1 = key then (key, node) else row
  else rows ++ [(key, node)]

/-- Why a key cannot be set: it is set, in this table if it is known. -/
def duplicate (key : String) (inTable : Option (List String)) : String :=
  match inTable with
  | none => s!"duplicate key `{key}`"
  | some [] => s!"duplicate key `{key}` in document root"
  | some path =>
    let table := String.intercalate "." path
    s!"duplicate key `{key}` in table `{table}`"

/-- Why a path cannot be followed: it goes through a value. -/
def blocked (path : List String) (item : Item) : String :=
  let path := String.intercalate "." path
  s!"dotted key `{path}` attempted to extend non-table type ({item.kind.name})"

/-- Change the rows at the end of a path; tables that are missing on the way are made. `walked` is
the path so far, and `change` is told whether the table was made by a key with dots. -/
def edit (way : Way) (change : (madeDotted : Bool) → Rows → Except String Rows) :
    (walked path : List String) → (madeDotted : Bool) → Rows → Except String Rows
  | _, [], madeDotted, rows => change madeDotted rows
  | walked, key :: path, _, rows =>
    let walked := walked ++ [key]
    match rows.lookup key with
    | none =>
      let dotted := way != .header
      (edit way change walked path dotted []).map fun inner =>
        put key (.table true dotted inner) rows
    | some (.leaf item) =>
      if way = .braces ∧ item.kind = .table then .error (duplicate key none)
      else .error (blocked walked item)
    | some (.repeated []) => .error (duplicate key none)
    | some (.repeated (last :: others)) =>
      (edit way change walked path false last).map fun inner =>
        put key (.repeated (inner :: others)) rows
    | some (.table passed madeDotted inner) =>
      if way != .header && !passed then .error (duplicate key none)
      else
        (edit way change walked path madeDotted inner).map fun inner =>
          put key (.table passed madeDotted inner) rows

/-- Set a key that is not there yet. Behind dots, the table has to be one that dots made. The path
of the table is told if its rows are known to stand in one. -/
def setNew (way : Way) (table : Option (List String)) (path : List String) (key : String)
    (item : Item) (rows : Rows) : Except String Rows :=
  edit way (fun madeDotted rows =>
    if madeDotted = path.isEmpty then .error (duplicate key none)
    else if (rows.lookup key).isSome then .error (duplicate key table)
    else .ok (rows ++ [(key, .leaf item)])) [] path false rows

def setIn (current : List String) (path : List String) (key : String) (item : Item) :
    Rows → Except String Rows :=
  edit .header (fun _ rows => setNew .line (some current) path key item rows) [] current false

def setInside (path : List String) (key : String) (item : Item) : Rows → Except String Rows :=
  setNew .braces none path key item

def openTable (path : List String) (key : String) : Rows → Except String Rows :=
  edit .header (fun _ rows =>
    match rows.lookup key with
    | none => .ok (put key (.table false false []) rows)
    | some (.table true false inner) => .ok (put key (.table false false inner) rows)
    | some _ => .error (duplicate (keyText key) (some path))) [] path false

def openRepeated (path : List String) (key : String) : Rows → Except String Rows :=
  edit .header (fun _ rows =>
    match rows.lookup key with
    | none => .ok (put key (.repeated [[]]) rows)
    | some (.repeated tables) => .ok (put key (.repeated ([] :: tables)) rows)
    | some _ => .error (duplicate (keyText key) (some path))) [] path false

mutual

def value : Node → ConfigValue
  | .leaf item => item.value
  | .table _ _ rows => .table (Table.ofRows (values rows))
  | .repeated tables => .list (tableValues tables).reverse

def values : List (String × Node) → List (String × ConfigValue)
  | [] => []
  | (key, node) :: rows => (key, value node) :: values rows

def tableValues : List (List (String × Node)) → List ConfigValue
  | [] => []
  | rows :: tables => .table (Table.ofRows (values rows)) :: tableValues tables

end

def ofRows (rows : Rows) : ConfigValue := value (.table false false rows)

end Node

end RankTrace.Toml
