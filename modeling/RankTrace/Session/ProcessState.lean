import RankTrace.Config.Settings
import RankTrace.Dump.Writer

/-!
# Settings of a process

Settings, the recorder's size and the writer are fixed at their first use, from the environment as
it is then; later changes of the environment do not reach them. Settings that cannot be loaded are
replaced by the defaults.
-/

namespace RankTrace

structure ProcessState where
  environment : Environment := []
  files : FileTexts := []
  commSettings : Option CommSettings := none
  recorderSettings : Option RecorderSettings := none
  writer : Option String := none

namespace ProcessState

def sources (p : ProcessState) : ConfigSources := { environment := p.environment, files := p.files }

def orDefaults {α : Type} (defaults : α) (loaded : Except ConfigFault α) : α :=
  match loaded with
  | .ok settings => settings
  | .error _ => defaults

def useCommSettings (p : ProcessState) : CommSettings × ProcessState :=
  match p.commSettings with
  | some s => (s, p)
  | none =>
    let s := orDefaults {} (CommSettings.load p.sources)
    (s, { p with commSettings := some s })

def useRecorderSettings (p : ProcessState) : RecorderSettings × ProcessState :=
  match p.recorderSettings with
  | some s => (s, p)
  | none =>
    let s := orDefaults {} (RecorderSettings.load p.sources)
    (s, { p with recorderSettings := some s })

/-- The target of the writer, which is one into a file unless another was registered. -/
def useWriter (rank : Int32) (p : ProcessState) : String × ProcessState :=
  let (s, p) := p.useRecorderSettings
  match p.writer with
  | some target => (target, p)
  | none =>
    let target := s.dumpPathStart ++ toString rank.toInt
    (target, { p with writer := some target })

/-- Register a writer by its target. `none` means that there was one. -/
def registerWriter (target : String) (p : ProcessState) : Option ProcessState :=
  match p.writer with
  | some _ => none
  | none => some { p with writer := some target }

def setVariable (name value : String) (p : ProcessState) : ProcessState :=
  { p with environment := p.environment.set name value }

end ProcessState

end RankTrace
