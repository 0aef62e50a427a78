import RankTrace.Dump.Tree

/-!
# Parameters of a dump request

Which options a request may set, and how it says so. Every value of a known option is checked in
the order of the request before unknown names are refused, and of repeated values the last one
counts.
-/

namespace RankTrace

inductive DumpFlag
  | collectives
  | stackTraces
  | onlyActive
  deriving DecidableEq, Repr

namespace DumpFlag

def name : DumpFlag → String
  | collectives => "includecollectives"
  | stackTraces => "includestacktraces"
  | onlyActive => "onlyactive"

/-- A text dump that is asked for by name never has stacks. -/
def allowed : Flavor → List DumpFlag
  | .binary => [collectives, stackTraces, onlyActive]
  | .text => [collectives, onlyActive]

def find? (flavor : Flavor) (key : String) : Option DumpFlag :=
  (allowed flavor).find? (·.name == key)

def set (flag : DumpFlag) (value : Bool) (options : DumpOptions) : DumpOptions :=
  match flag with
  | collectives => { options with collectives := value }
  | stackTraces => { options with stackTraces := value }
  | onlyActive => { options with onlyActive := value }

def value? (raw : String) : Option Bool :=
  if raw = "true" then some true
  else if raw = "false" then some false
  else none

end DumpFlag

inductive RequestFault
  | invalidValue (flag : DumpFlag)
  | unexpectedParameter
  | unknownHandler (name : String)
  deriving DecidableEq, Repr

namespace RequestFault

def message : RequestFault → String
  | invalidValue flag => s!"Invalid value for {flag.name} valid values are true or false"
  | unexpectedParameter => "Invalid parameters - unexpected param passed in"
  | unknownHandler name => s!"Unknown handler: {name}"

end RequestFault

namespace DumpOptions

/-- Apply parameters to options; `unknown` says whether an unknown name has been seen. -/
def applyParams (flavor : Flavor) (unknown : Bool) :
    List (String × String) → DumpOptions → Except RequestFault DumpOptions
  | [], options => if unknown then .error .unexpectedParameter else .ok options
  | (key, raw) :: rest, options =>
    match DumpFlag.find? flavor key with
    | none => applyParams flavor true rest options
    | some flag =>
      match DumpFlag.value? raw with
      | none => .error (.invalidValue flag)
      | some value => applyParams flavor unknown rest (flag.set value options)

def ofRequest (flavor : Flavor) : DumpOptions := { stackTraces := flavor = .binary }

def ofParams (flavor : Flavor) (params : List (String × String)) :
    Except RequestFault DumpOptions :=
  applyParams flavor false params (ofRequest flavor)

end DumpOptions

end RankTrace
