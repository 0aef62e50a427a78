import RankTrace.Logging.Directive

/-!
# Filters

Rules in the order of how specific they are: longer targets first, then more fields. The first
rule that cares about an event decides; an event that no rule cares about does not pass. There is
one rule for a target with its fields, so a rule that is added replaces the one before it.

Directives about spans or values make no such rule. With one of them in a filter every target is
taken to pass up to the highest level of all directives, and the first event behind a test that is
passed on these grounds alone is lost.
-/

namespace RankTrace

structure FilterRule where
  target : Option String
  fields : List String
  level : Level
  deriving DecidableEq, Repr

namespace FilterRule

def ofDirective? (d : Directive) : Option FilterRule :=
  if d.isStatic then some ⟨d.target, d.fields.map (·.name), d.level⟩ else none

/-- One more than the length of the target in bytes, and zero without a target. -/
def targetRank (r : FilterRule) : Nat :=
  match r.target with
  | some target => target.utf8ByteSize + 1
  | none => 0

def sameScope (a b : FilterRule) : Bool := a.target = b.target && a.fields = b.fields

def before (a b : FilterRule) : Bool :=
  if a.targetRank ≠ b.targetRank then b.targetRank < a.targetRank
  else if a.fields.length ≠ b.fields.length then b.fields.length < a.fields.length
  else if a.target ≠ b.target then b.target.getD "" < a.target.getD ""
  else b.fields < a.fields

/-- Whether a rule is about a target; the fields count only where they are known. -/
def caresAbout (r : FilterRule) (target : String) (fields : Option (List String)) : Bool :=
  (match r.target with
    | some start => (Scan.afterText? start target.toList).isSome
    | none => true) &&
  match fields with
  | some fields => r.fields.all fields.contains
  | none => true

end FilterRule

structure LogFilter where
  /-- The most specific first. -/
  rules : List FilterRule := []
  /-- The highest level of the rules, also of those that have been replaced. -/
  ceiling : Level := .off
  hasDynamic : Bool := false
  dynamicCeiling : Level := .off
  readsValues : Bool := false
  deriving DecidableEq, Repr

namespace LogFilter

def addRule (rule : FilterRule) : List FilterRule → List FilterRule
  | [] => [rule]
  | r :: rest =>
    if rule.sameScope r then rule :: rest
    else if rule.before r then rule :: r :: rest
    else r :: addRule rule rest

def withRule (f : LogFilter) (rule : FilterRule) : LogFilter :=
  { f with rules := addRule rule f.rules, ceiling := f.ceiling.max rule.level }

def withDynamic (f : LogFilter) (d : Directive) : LogFilter :=
  { f with
    hasDynamic := true
    dynamicCeiling := f.dynamicCeiling.max d.level
    readsValues := f.readsValues || d.fields.any (·.value.isSome) }

def addTogether (f : LogFilter) (d : Directive) : LogFilter :=
  let f := if d.isDynamic then f.withDynamic d else f
  match FilterRule.ofDirective? d with
  | some rule => f.withRule rule
  | none => f

def add (f : LogFilter) (d : Directive) : LogFilter :=
  match FilterRule.ofDirective? d with
  | some rule => f.withRule rule
  | none => f.withDynamic d

def ofDirectives (default : Directive) (directives : List Directive) : LogFilter :=
  let statics := directives.filter (!·.isDynamic)
  let f := (statics ++ directives.filter (·.isDynamic)).foldl addTogether {}
  if f.rules.isEmpty && !f.hasDynamic then f.add default else f

def level (f : LogFilter) (target : String) (fields : Option (List String)) : Level :=
  match f.rules.find? (·.caresAbout target fields) with
  | some rule => rule.level
  | none => .off

def highest (f : LogFilter) : Level :=
  if f.readsValues then .trace else f.ceiling.max f.dynamicCeiling

/-- The level up to which events of a target are taken to pass, whatever their fields. -/
def maxLevel (f : LogFilter) (target : String) : Level :=
  if f.hasDynamic then f.highest else f.level target none

def passes (f : LogFilter) (target : String) (fields : List String) (level : Level) : Bool :=
  level.verbosity ≤ (f.level target (some fields)).verbosity

/-- Whether the first event is lost behind a test of the highest level for this target. -/
def losesEventAfter (f : LogFilter) (target : String) : Bool :=
  (f.level target none).verbosity < (f.maxLevel target).verbosity

end LogFilter

end RankTrace
