import RankTrace.Config.Value

/-!
# Reading settings

Typed reading of configuration values. A value of the wrong type and a number of the wrong sign
are different faults; either tells what was found and what was wanted.
-/

namespace RankTrace

inductive MismatchKind
  | invalidType
  | invalidValue
  deriving DecidableEq, Repr

structure Mismatch where
  kind : MismatchKind
  path : List String
  found : String
  wanted : String
  deriving DecidableEq, Repr

namespace Mismatch

def message (m : Mismatch) : String :=
  match m.kind with
  | .invalidType => s!"invalid type: found {m.found}, expected {m.wanted}"
  | .invalidValue => s!"invalid value {m.found}, expected {m.wanted}"

end Mismatch

inductive ConfigFault
  | malformed (message : String)
  | mismatch (m : Mismatch)
  | invalid (violations : List (String × String))
  deriving DecidableEq, Repr

abbrev ValueReader (α : Type) := List String → ConfigValue → Except Mismatch α

namespace ValueReader

def wrongType {α : Type} (wanted : String) (path : List String) (v : ConfigValue) :
    Except Mismatch α :=
  .error ⟨.invalidType, path, v.description, wanted⟩

def bool : ValueReader Bool := fun path v =>
  match v with
  | .bool b => .ok b
  | v => wrongType "a boolean" path v

def text : ValueReader String := fun path v =>
  match v with
  | .text s => .ok s
  | v => wrongType "a string" path v

def word (wanted : String) : ValueReader UInt64 := fun path v =>
  match v with
  | .unsigned n => .ok n
  | .signed i =>
    if i < 0 then .error ⟨.invalidValue, path, v.description, wanted⟩
    else .ok i.toUInt64
  | v => wrongType wanted path v

def optional {α : Type} (read : ValueReader α) : ValueReader (Option α) := fun path v =>
  match v with
  | .unit => .ok none
  | v => (read path v).map some

def table {α : Type} (read : ValueReader α) : ValueReader (List (String × α)) := fun path v =>
  match v with
  | .table rows => rows.mapM fun (key, v) => (read (path ++ [key]) v).map (key, ·)
  | v => wrongType "a map" path v

def field {α : Type} (read : ValueReader α) (key : String) (default : α) (v : ConfigValue) :
    Except Mismatch α :=
  match v.get? key with
  | some v => read [key] v
  | none => .ok default

end ValueReader

end RankTrace
