import RankTrace.Dump.Json
import RankTrace.Logging.Event
import RankTrace.Text.Quoted
import RankTrace.Time.Calendar

/-!
# Layouts of log lines

One line for an event: JSON, or text with terminal colors. The text layout has the time with
microseconds, or with as many decimals as it has.
-/

namespace RankTrace

inductive LogLayout
  | json
  | text
  | localText
  deriving DecidableEq, Repr

inductive FieldValue
  | number (n : Int)
  | text (s : String)
  deriving DecidableEq, Repr

structure LogRecord where
  level : Level
  target : String
  message : String
  fields : List (String × FieldValue) := []
  deriving DecidableEq, Repr

namespace LogRecord

def jsonString (s : String) : String := String.ofList (Json.quote s)

def jsonRow (key value : String) : String := jsonString key ++ ":" ++ value

def jsonObject (rows : List String) : String := "\x7b" ++ String.intercalate "," rows ++ "\x7d"

def jsonField (field : String × FieldValue) : String :=
  jsonRow field.1 (match field.2 with
    | .number n => toString n
    | .text s => jsonString s)

def jsonLine (now : CalendarTime) (r : LogRecord) : String :=
  jsonObject [
    jsonRow "timestamp" (jsonString now.microsecondText),
    jsonRow "level" (jsonString r.level.label),
    jsonRow "fields"
      (jsonObject ((("message", FieldValue.text r.message) :: r.fields).map jsonField)),
    jsonRow "target" (jsonString r.target)]

def styled (code : Nat) (s : String) : String := s!"\x1b[{code}m{s}\x1b[0m"

def dimmed : String → String := styled 2

def italic : String → String := styled 3

def color : Level → Nat
  | .off => 0
  | .error => 31
  | .warn => 33
  | .info => 32
  | .debug => 34
  | .trace => 35

def paddedLabel (l : Level) : String :=
  String.ofList (List.replicate (5 - l.label.length) ' ') ++ l.label

def textField (field : String × FieldValue) : String :=
  " " ++ italic field.1 ++ dimmed "=" ++ (match field.2 with
    | .number n => toString n
    | .text s => Text.quoted s)

def textLine (time : String) (r : LogRecord) : String :=
  dimmed time ++ " " ++ styled (color r.level) (paddedLabel r.level) ++ " " ++ dimmed r.target ++
    dimmed ":" ++ " " ++ r.message ++ String.join (r.fields.map textField)

def line (layout : LogLayout) (now : CalendarTime) (r : LogRecord) : String :=
  match layout with
  | .json => r.jsonLine now
  | .text => r.textLine now.microsecondText
  | .localText => r.textLine now.shortText

end LogRecord

end RankTrace
