/-!
# Log events

An event has a level, the component that emitted it, a message and named values in the order in
which they were given. Levels are ordered from `off`, the quietest, to `trace`.
-/

namespace RankTrace

inductive Level
  | off
  | error
  | warn
  | info
  | debug
  | trace
  deriving DecidableEq, Inhabited, Repr

namespace Level

def verbosity : Level → Nat
  | off => 0
  | error => 1
  | warn => 2
  | info => 3
  | debug => 4
  | trace => 5

def max (a b : Level) : Level := if a.verbosity < b.verbosity then b else a

def name : Level → String
  | off => "off"
  | error => "error"
  | warn => "warn"
  | info => "info"
  | debug => "debug"
  | trace => "trace"

def label : Level → String
  | off => "OFF"
  | error => "ERROR"
  | warn => "WARN"
  | info => "INFO"
  | debug => "DEBUG"
  | trace => "TRACE"

def descending : List Level := [trace, debug, info, warn, error, off]

end Level

structure LogEvent where
  level : Level
  target : String
  message : String
  fields : List (String × String)
  deriving DecidableEq, Repr

end RankTrace
