import RankTrace.Config.Toml.Document

/-!
# Configuration sources

Settings come from built-in defaults, then from a file, then from environment variables, then from
values that the program sets itself; each source is laid over the ones before it. Names of
environment variables do not depend on the case of letters, and dots in them lead into tables. A
name with nothing between two dots is no setting.
-/

namespace RankTrace

abbrev Environment := List (String × String)

abbrev FileTexts := List (String × String)

namespace Environment

/-- The value of a variable; its name counts as it is written. -/
def get? (env : Environment) (name : String) : Option String := env.lookup name

/-- Set a variable in its place, or behind the others. -/
def set (env : Environment) (name value : String) : Environment :=
  if (env.lookup name).isSome then
    env.map fun row => if row.1 = name then (name, value) else row
  else env ++ [(name, value)]

end Environment

namespace Config

/-- What follows `start` in a name, whatever the case of letters. -/
def afterStart? (start name : String) : Option String :=
  let name := Scan.trim name.toList
  let n := start.length
  if (String.ofList (name.take n)).toLower = start.toLower then some (String.ofList (name.drop n))
  else none

/-- The variable that names the file is no setting. -/
def pathKey : String := "config_path"

/-- Capital letters become small ones. Beyond ASCII that is so of the Kelvin sign, the only other
capital whose small letter a key of settings can have. -/
def lowerCase (c : Char) : Char := if c = '\u212a' then 'k' else c.toLower

def key? (start : String) (name : String) : Option (List String) :=
  match afterStart? start name with
  | some rest =>
    let key := String.ofList ((Scan.trim rest.toList).map lowerCase)
    let parts := ConfigValue.keysOf key
    if key = pathKey || parts.contains "" then none else some parts
  | none => none

def environmentLayer (start : String) (env : Environment) : ConfigValue :=
  env.foldl (fun layer (name, value) =>
    match key? start name with
    | some parts => layer.overlay (ConfigValue.nested parts (Literal.parse value))
    | none => layer) (.table [])

def plainPath : (fuel : Nat) → List Char → List Char
  | fuel + 1, '.' :: '/' :: rest => plainPath fuel (rest.dropWhile (· == '/'))
  | _, path => path

def resolvePath (path : String) : String :=
  String.ofList (plainPath path.length path.toList)

/-- The table of a file, or why it cannot be read. One that is missing holds nothing. -/
def fileLayer (files : FileTexts) (path : Option String) : Except String ConfigValue :=
  match path.bind fun path => files.lookup (resolvePath path) with
  | some text => (Toml.parse text).mapError (·.text text)
  | none => .ok (.table [])

def stack (layers : List ConfigValue) : ConfigValue :=
  layers.foldl ConfigValue.overlay (.table [])

/-- Values that the program sets itself, each as a table; or the first one that is none, because
it has no key. -/
def overrideLayers (overrides : List (String × ConfigValue)) :
    Except ConfigValue (List ConfigValue) :=
  overrides.mapM fun (key, v) =>
    match ConfigValue.under key v with
    | .table rows => .ok (.table rows)
    | v => .error v

end Config

end RankTrace
