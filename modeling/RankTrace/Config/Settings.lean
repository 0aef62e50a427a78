import RankTrace.Communicator.Settings
import RankTrace.Config.Reading
import RankTrace.Config.Source

/-!
# Settings of communicators and of the recorder

Both are read from the same kinds of sources. Fields are read in the order of their names, and the
first fault counts; what was read is then checked as a whole. A deadline without the nonblocking
mode has no use and is dropped.
-/

namespace RankTrace

structure ConfigSources where
  environment : Environment := []
  files : FileTexts := []
  overrides : List (String × ConfigValue) := []

namespace ConfigSources

/-- The layers above the defaults, of settings whose variables begin with `start`. The first fault
counts. -/
def layers (start : String) (s : ConfigSources) : Except ConfigFault (List ConfigValue) :=
  match Config.fileLayer s.files (s.environment.get? (start ++ Config.pathKey.toUpper)) with
  | .error message => .error (.malformed message)
  | .ok file =>
    match Config.overrideLayers s.overrides with
    | .error v => .error (.mismatch ⟨.invalidType, [], v.description, "map"⟩)
    | .ok overrides => .ok (file :: Config.environmentLayer start s.environment :: overrides)

def load (start : String) (defaults : ConfigValue) (s : ConfigSources) :
    Except ConfigFault ConfigValue :=
  (s.layers start).map fun layers => Config.stack (defaults :: layers)

end ConfigSources

def checked {α : Type} (violations : α → List (String × String)) (settings : α) :
    Except ConfigFault α :=
  match violations settings with
  | [] => .ok settings
  | broken => .error (.invalid broken)

namespace CommSettings

def variableStart : String := "DYN_COMM_"

def modeKey : String := "nonblocking"

def timeoutKey : String := "nonblocking_timeout_secs"

def toConfig (s : CommSettings) : ConfigValue :=
  .table [(modeKey, .bool s.nonblocking),
    (timeoutKey, match s.timeoutSecs with
      | some secs => .unsigned secs
      | none => .unit)]

def read (v : ConfigValue) : Except Mismatch CommSettings := do
  let nonblocking ← ValueReader.field ValueReader.bool modeKey false v
  let timeoutSecs ←
    ValueReader.field (ValueReader.optional (ValueReader.word "u64")) timeoutKey none v
  return { nonblocking, timeoutSecs }

/-- A deadline is at least one second. -/
def violations (s : CommSettings) : List (String × String) :=
  if s.timeoutSecs = some 0 then [(timeoutKey, "range")] else []

/-- Without the nonblocking mode there is no deadline. -/
def normalize (s : CommSettings) : CommSettings :=
  if s.nonblocking then s else { s with timeoutSecs := none }

def ofConfig (v : ConfigValue) : Except ConfigFault CommSettings :=
  match read v with
  | .error m => .error (.mismatch m)
  | .ok s => (checked violations s).map normalize

def load (sources : ConfigSources) : Except ConfigFault CommSettings :=
  match sources.load variableStart (toConfig {}) with
  | .error fault => .error fault
  | .ok v => ofConfig v

end CommSettings

structure RecorderSettings where
  bufferSize : UInt64 := 0
  captureStacks : Bool := false
  /-- Dumps of a rank go to the file with this name and the rank behind it. -/
  dumpPathStart : String := "/tmp/fr_trace_rank_"
  deriving DecidableEq, Inhabited, Repr

namespace RecorderSettings

def variableStart : String := "DYN_FR_"

def sizeKey : String := "buffer_size"

def captureKey : String := "capture_native_stack"

def pathKey : String := "dump_path_prefix"

def isEnabled (s : RecorderSettings) : Bool := 0 < s.bufferSize

def toConfig (s : RecorderSettings) : ConfigValue :=
  .table [(sizeKey, .unsigned s.bufferSize), (captureKey, .bool s.captureStacks),
    (pathKey, .text s.dumpPathStart)]

def read (v : ConfigValue) : Except Mismatch RecorderSettings := do
  let bufferSize ← ValueReader.field (ValueReader.word "usize") sizeKey 0 v
  let captureStacks ← ValueReader.field ValueReader.bool captureKey false v
  let dumpPathStart ←
    ValueReader.field ValueReader.text pathKey ({} : RecorderSettings).dumpPathStart v
  return { bufferSize, captureStacks, dumpPathStart }

def violations (s : RecorderSettings) : List (String × String) :=
  if s.dumpPathStart.isEmpty then [(pathKey, "length")] else []

def ofConfig (v : ConfigValue) : Except ConfigFault RecorderSettings :=
  match read v with
  | .error m => .error (.mismatch m)
  | .ok s => checked violations s

def load (sources : ConfigSources) : Except ConfigFault RecorderSettings :=
  match sources.load variableStart (toConfig {}) with
  | .error fault => .error fault
  | .ok v => ofConfig v

end RecorderSettings

end RankTrace
