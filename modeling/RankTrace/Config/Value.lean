import RankTrace.Decimal.Shortest
import RankTrace.Table
import RankTrace.Text.Quoted

/-!
# Configuration values

The values that configuration sources hold, and the laying of one source over another. Where both
have a table, the tables are laid over each other key by key; anywhere else the upper value
replaces the lower one. Text never counts as a number, nor a number as text.
-/

namespace RankTrace

inductive ConfigValue
  | unit
  | bool (b : Bool)
  | unsigned (n : UInt64)
  | signed (i : Int64)
  | float (f : Double)
  | text (s : String)
  | list (items : List ConfigValue)
  /-- Rows in ascending order of their keys. -/
  | table (rows : List (String × ConfigValue))
  deriving Inhabited

namespace ConfigValue

mutual

def overlay (lower : ConfigValue) : ConfigValue → ConfigValue
  | .table upper =>
    match lower with
    | .table rows => .table (overlayRows rows upper)
    | _ => .table (overlayRows [] upper)
  | upper => upper

def overlayRows (rows : List (String × ConfigValue)) :
    List (String × ConfigValue) → List (String × ConfigValue)
  | [] => rows
  | (key, value) :: upper =>
    overlayRows (Table.alter key (fun below => overlay (below.getD .unit) value) rows) upper

end

def get? (v : ConfigValue) (key : String) : Option ConfigValue :=
  match v with
  | .table rows => rows.lookup key
  | _ => none

/-- Put a value under a path of keys. A path ends where a key is empty. -/
def nested : List String → ConfigValue → ConfigValue
  | [], v => v
  | key :: path, v => if key.isEmpty then v else .table [(key, nested path v)]

def keysOf (text : String) : List String := (text.split '.').toList.map (·.copy)

def under (keys : String) (v : ConfigValue) : ConfigValue := nested (keysOf keys) v

/-- Floats in messages are always positional, and whole ones look like integers. -/
def floatLayout : Decimal.Layout where
  positional _ := true
  wholeSuffix := ""
  exponentPlus := ""

def floatText (f : Double) : String :=
  if f.isNaN then "NaN"
  else if f.isFinite then f.text floatLayout
  else if f.isNegative then "-inf" else "inf"

def description : ConfigValue → String
  | .unit => "unit"
  | .bool b => s!"bool {b}"
  | .unsigned n => s!"unsigned int `{n}`"
  | .signed i => s!"signed int `{i.toInt}`"
  | .float f => s!"float `{floatText f}`"
  | .text s => s!"string {Text.quoted s}"
  | .list _ => "sequence"
  | .table _ => "map"

end ConfigValue

end RankTrace
