import RankTrace.Config.Toml.Moment
import RankTrace.Config.Value

/-!
# Items of configuration files

A value as it stands in a file, with the kind that messages tell. Moments are kept as a table of
one row.
-/

namespace RankTrace.Toml

inductive Kind
  | text
  | integer
  | float
  | boolean
  | moment
  | list
  | table
  deriving DecidableEq, Repr

def Kind.name : Kind → String
  | text => "string"
  | integer => "integer"
  | float => "float"
  | boolean => "boolean"
  | moment => "datetime"
  | list => "array"
  | table => "inline table"

structure Item where
  kind : Kind
  value : ConfigValue

namespace Item

def ofText (cs : List Char) : Item := ⟨.text, .text (String.ofList cs)⟩

def ofInteger (n : Int64) : Item := ⟨.integer, .signed n⟩

def ofFloat (f : Double) : Item := ⟨.float, .float f⟩

def ofBool (b : Bool) : Item := ⟨.boolean, .bool b⟩

def momentKey : String := "$__toml_private_datetime"

def ofMoment (m : Moment) : Item := ⟨.moment, .table [(momentKey, .text m.text)]⟩

def ofList (items : List Item) : Item := ⟨.list, .list (items.map (·.value))⟩

end Item

end RankTrace.Toml
