import RankTrace.Logging.Event
import RankTrace.Pattern.Check

/-!
# Filter directives

A directive says up to which level events pass: of a target, of a span, or of events with certain
fields, as in `target[span{field=value}]=level`. All parts but one may be missing; a lone word is
a level if it can be one, and a target otherwise. The value of a field is a boolean, a number or a
pattern. Reading goes over the text without the blanks at its ends, but the parts are cut from the
text as it is, and places are counted in bytes.
-/

namespace RankTrace

namespace Level

def ofNumber? : Nat → Option Level
  | 0 => some off
  | 1 => some error
  | 2 => some warn
  | 3 => some info
  | 4 => some debug
  | 5 => some trace
  | _ => none

def parse? (text : List Char) : Option Level :=
  match (Scan.unsigned? text).bind ofNumber? with
  | some level => some level
  | none =>
    if text.isEmpty then some error
    else descending.find? fun level => level.name.toList = text.map Char.toLower

end Level

inductive DirectiveFault
  | malformed
  | badLevel
  | badField (fault : PatternFault)
  deriving DecidableEq, Repr

def DirectiveFault.message : DirectiveFault → String
  | malformed => "invalid filter directive"
  | badLevel => "error parsing level filter: expected one of \"off\", \"error\", \"warn\", " ++
    "\"info\", \"debug\", \"trace\", or a number 0-5"
  | badField fault => "invalid field filter: " ++ fault.message

structure FieldFilter where
  name : String
  value : Option String
  deriving DecidableEq, Repr

structure Directive where
  level : Level := .trace
  target : Option String := none
  span : Option String := none
  fields : List FieldFilter := []
  deriving DecidableEq, Repr

namespace Directive

/-- Where the reader stands; a number is where the part that is being read began. -/
inductive Stage
  | start
  | levelOrTarget (since : Nat)
  | span (since : Nat)
  | field (since : Nat)
  | fieldsEnd
  | scopeEnd
  | level (since : Nat)
  | complete
  deriving DecidableEq, Repr

def dropBytes : (count : Nat) → List Char → List Char
  | 0, cs => cs
  | _ + 1, [] => []
  | count + 1, c :: cs => dropBytes (count + 1 - c.utf8Size) cs

def takeBytes : (count : Nat) → List Char → List Char
  | 0, _ => []
  | _ + 1, [] => []
  | count + 1, c :: cs => c :: takeBytes (count + 1 - c.utf8Size) cs

def slice (text : List Char) (since stop : Nat) : List Char :=
  takeBytes (stop - since) (dropBytes since text)

def nonempty (part : List Char) : Option String :=
  if part.isEmpty then none else some (String.ofList part)

def withWord (d : Directive) (word : List Char) : Directive :=
  if word.isEmpty then { d with level := .trace, target := none }
  else
    match Level.parse? word with
    | some level => { d with level, target := none }
    | none => { d with level := .trace, target := some (String.ofList word) }

def withLevel (d : Directive) (text : List Char) : Except DirectiveFault Directive :=
  if text.isEmpty then .ok { d with level := .trace }
  else
    match Level.parse? text with
    | some level => .ok { d with level }
    | none => .error .badLevel

def afterExponent : List Char → Option (List Char)
  | c :: rest =>
    if c.toLower = 'e' then
      let rest := match rest with
        | '+' :: rest | '-' :: rest => rest
        | rest => rest
      if rest.head?.any Char.isDigit then some (rest.dropWhile Char.isDigit) else none
    else some (c :: rest)
  | [] => some []

def isUnsignedNumber (cs : List Char) : Bool :=
  let whole := cs.takeWhile Char.isDigit
  let rest := cs.dropWhile Char.isDigit
  let (places, rest) := match rest with
    | '.' :: rest => (rest.takeWhile Char.isDigit, rest.dropWhile Char.isDigit)
    | rest => ([], rest)
  ["inf", "infinity", "nan"].contains (String.ofList (cs.map Char.toLower)) ||
    (!(whole.isEmpty && places.isEmpty) && afterExponent rest = some [])

def isNumber : List Char → Bool
  | '+' :: cs | '-' :: cs => isUnsignedNumber cs
  | cs => isUnsignedNumber cs

/-- A value that is no boolean and no number is a pattern. -/
def checkValue (v : String) : Except DirectiveFault Unit :=
  if v = "true" ∨ v = "false" ∨ isNumber v.toList then .ok ()
  else (Pattern.check v).mapError .badField

def withField (d : Directive) (text : List Char) : Except DirectiveFault Directive := do
  let name := String.ofList (text.takeWhile (· != '='))
  match text, text.dropWhile (· != '=') with
  | [], _ => .error .malformed
  | _, [] => return { d with fields := d.fields ++ [⟨name, none⟩] }
  | _, _ :: rest =>
    let value := String.ofList (rest.takeWhile (· != '='))
    checkValue value
    return { d with fields := d.fields ++ [⟨name, some value⟩] }

def canStart (c : Char) : Bool := c = '-' || c = ':' || c = '_' || Text.isAlphanumeric c

/-- Read the character at place `i`. One byte is passed behind it where a part begins, because only
marks of ASCII stand in front of one. -/
def step (text : List Char) (i : Nat) (c : Char) (d : Directive) :
    Stage → Except DirectiveFault (Stage × Directive)
  | .start =>
    if c = '[' then .ok (.span (i + 1), d)
    else if canStart c then .ok (.levelOrTarget i, d)
    else .error .malformed
  | .levelOrTarget since =>
    let target := some (String.ofList (slice text since i))
    if c = '=' then .ok (.level (i + 1), { d with target })
    else if c = '[' then .ok (.span (i + 1), { d with target })
    else if c = ',' then .ok (.complete, d.withWord (dropBytes since text))
    else .ok (.levelOrTarget since, d)
  | .span since =>
    if c = ']' then .ok (.scopeEnd, { d with span := some (String.ofList (slice text since i)) })
    else if c = '\x7b' then .ok (.field (i + 1), { d with span := nonempty (slice text since i) })
    else .ok (.span since, d)
  | .field since =>
    if c = '\x7d' then (d.withField (slice text since i)).map (.fieldsEnd, ·)
    else if c = ',' then (d.withField (slice text since i)).map (.field (i + 1), ·)
    else .ok (.field since, d)
  | .fieldsEnd => if c = ']' then .ok (.scopeEnd, d) else .error .malformed
  | .scopeEnd => if c = '=' then .ok (.level (i + 1), d) else .error .malformed
  | .level since =>
    if c = ',' then (d.withLevel (slice text since i)).map (.complete, ·)
    else .ok (.level since, d)
  | .complete => .error .malformed

def steps (text : List Char) : (i : Nat) → List Char → Stage → Directive →
    Except DirectiveFault (Stage × Directive)
  | _, [], stage, d => .ok (stage, d)
  | i, c :: rest, stage, d => do
    let (stage, d) ← step text i c d stage
    steps text (i + c.utf8Size) rest stage d

def parseChars (text : List Char) : Except DirectiveFault Directive := do
  let (stage, d) ← steps text 0 (Scan.trim text) .start {}
  match stage with
  | .levelOrTarget since => return d.withWord (dropBytes since text)
  | .level since => d.withLevel (dropBytes since text)
  | .scopeEnd | .complete => return d
  | .start | .span _ | .field _ | .fieldsEnd => .error .malformed

def parse (text : String) : Except DirectiveFault Directive := parseChars text.toList

def isDynamic (d : Directive) : Bool := d.span.isSome || !d.fields.isEmpty

def isStatic (d : Directive) : Bool := d.span.isNone && d.fields.all (·.value.isNone)

end Directive

end RankTrace
