import RankTrace.Config.Reading
import RankTrace.Config.Source
import RankTrace.Logging.Filter
import RankTrace.Logging.Layout

/-!
# Setting up the log

The filter comes from an environment variable, or else from the level in a file, and then gets the
filters of single targets that the file or the defaults give; these come last and replace what the
variable says about the same targets. Whatever cannot be read is complained about and left out.
-/

namespace RankTrace

structure LoggingSettings where
  level : String := "info"
  filters : List (String × String) :=
    [("axum", "error"), ("h2", "error"), ("hyper_util", "error"), ("tower", "error")]
  deriving DecidableEq, Repr

namespace LoggingSettings

def levelKey : String := "log_level"

def filtersKey : String := "log_filters"

def toConfig (s : LoggingSettings) : ConfigValue :=
  .table [(filtersKey, .table (Table.ofRows (s.filters.map fun (key, v) => (key, .text v)))),
    (levelKey, .text s.level)]

def read (v : ConfigValue) : Except Mismatch LoggingSettings := do
  let filters ← ValueReader.field (ValueReader.table ValueReader.text) filtersKey [] v
  let level ← ValueReader.field ValueReader.text levelKey "" v
  return { level, filters }

def inFile (path complaint : String) : String :=
  s!"{complaint} in {Config.resolvePath path} TOML file"

def mismatchText (m : Mismatch) : String :=
  let key := Text.quoted (String.intercalate "." ("default" :: m.path))
  s!"{m.message} for key {key}"

def load (files : FileTexts) (path : String) : Except String LoggingSettings :=
  match Config.fileLayer files (some path) with
  | .error message => .error (inFile path message)
  | .ok layer =>
    match read (Config.stack [toConfig {}, layer]) with
    | .ok s => .ok s
    | .error m => .error (inFile path (mismatchText m))

end LoggingSettings

structure LogSetup where
  complaints : List String
  filter : LogFilter
  layout : LogLayout
  deriving Repr

namespace LogSetup

def filterVariable : String := "DYN_LOG"

def pathVariable : String := "DYN_LOGGING_CONFIG_PATH"

def jsonVariable : String := "DYN_LOGGING_JSONL"

def localTimeVariable : String := "DYN_LOG_USE_LOCAL_TZ"

def isTruthy (env : Environment) (name : String) : Bool :=
  match env.get? name with
  | some v => ["1", "true", "on", "yes"].contains v.toLower
  | none => false

def layoutOf (env : Environment) : LogLayout :=
  if isTruthy env jsonVariable then .json
  else if isTruthy env localTimeVariable then .localText
  else .text

def loadSettings (env : Environment) (files : FileTexts) : LoggingSettings × List String :=
  match env.get? pathVariable with
  | none => ({}, [])
  | some path =>
    match LoggingSettings.load files path with
    | .ok s => (s, [])
    | .error e => ({}, [s!"Failed to load logging config, using defaults: {e}"])

def defaultDirective (level : String) : Directive × List String :=
  match Directive.parse level with
  | .ok d => (d, [])
  | .error e => ({ level := .info }, [s!"Invalid log level '{level}': {e.message}"])

/-- The texts between the commas of the variable; where there is nothing, there is no directive. -/
def directiveTexts (value : String) : List String :=
  ((value.split ',').toList.map (·.copy)).filter (!·.isEmpty)

def readDirectives : List String → List Directive × List String
  | [] => ([], [])
  | text :: rest =>
    let (directives, complaints) := readDirectives rest
    match Directive.parse text with
    | .ok d => (d :: directives, complaints)
    | .error e => (directives, s!"ignoring `{text}`: {e.message}" :: complaints)

def addFilters : List (String × String) → LogFilter → LogFilter × List String
  | [], f => (f, [])
  | (target, level) :: rest, f =>
    match Directive.parse s!"{target}={level}" with
    | .ok d => addFilters rest (f.add d)
    | .error e =>
      let (f, complaints) := addFilters rest f
      (f, s!"Failed parsing filter '{level}' for module '{target}': {e.message}" :: complaints)

/-- The lines of a complaint. A carriage return at the end of a line belongs to the line break. -/
def linesOf (complaint : String) : List String :=
  (complaint.splitOn "\n").map fun line =>
    if line.toList.getLast? = some '\r' then String.ofList line.toList.dropLast else line

def start (env : Environment) (files : FileTexts) : LogSetup :=
  let (settings, badFile) := loadSettings env files
  let (default, badLevel) := defaultDirective settings.level
  let (directives, badDirectives) :=
    readDirectives (directiveTexts ((env.get? filterVariable).getD ""))
  let (filter, badFilters) :=
    addFilters settings.filters (LogFilter.ofDirectives default directives)
  let complaints := badFile ++ badLevel ++ badDirectives ++ badFilters
  ⟨complaints.flatMap linesOf, filter, layoutOf env⟩

/-- The lines of the records that pass behind a test of the levels of a target. -/
def lines (s : LogSetup) (now : CalendarTime) (tested : String) (records : List LogRecord) :
    List String :=
  let highest := s.filter.highest
  let records := records.filter (·.level.verbosity ≤ highest.verbosity)
  let records := if s.filter.losesEventAfter tested then records.drop 1 else records
  (records.filter fun r =>
    s.filter.passes r.target ("message" :: r.fields.map (·.1)) r.level).map (·.line s.layout now)

end LogSetup

end RankTrace
