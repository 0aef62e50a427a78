import RankTrace.Bytes
import RankTrace.Logging.Event

/-!
# Writers

Where a dump goes when nobody asks for it: into a file named by a prefix and the rank, or into
memory. At most one writer is registered; if there is none when one is needed, a file writer takes
the place for good. A write that fails is logged and not reported.
-/

namespace RankTrace

inductive FileFault
  | notFound
  | notADirectory
  | nameTooLong
  | nulCharacter
  deriving DecidableEq, Repr

namespace FileFault

def message : FileFault → String
  | notFound => "No such file or directory (os error 2)"
  | notADirectory => "Not a directory (os error 20)"
  | nameTooLong => "File name too long (os error 36)"
  | nulCharacter => "file name contained an unexpected NUL byte"

end FileFault

structure Directory where
  path : String
  files : List (String × List UInt8) := []
  deriving DecidableEq, Inhabited

namespace Directory

def parts (relative : String) : List String :=
  (relative.splitOn "/").filter fun part => part ≠ "" ∧ part ≠ "."

def maxNameLength : Nat := 255

def locate (d : Directory) (relative : String) : Except FileFault String :=
  if relative.toList.contains '\x00' then .error .nulCharacter
  else
    match parts relative with
    | [name] => if maxNameLength < name.utf8ByteSize then .error .nameTooLong else .ok name
    | first :: _ =>
      if maxNameLength < first.utf8ByteSize then .error .nameTooLong
      else if (d.files.lookup first).isSome then .error .notADirectory
      else .error .notFound
    | [] => .error .notFound

def read? (d : Directory) (relative : String) : Option (List UInt8) :=
  match d.locate relative with
  | .ok name => d.files.lookup name
  | .error _ => none

def contains (d : Directory) (relative : String) : Bool := (d.read? relative).isSome

def write (d : Directory) (relative : String) (content : List UInt8) : Except FileFault Directory :=
  match d.locate relative with
  | .ok name => .ok { d with files := (name, content) :: d.files.filter (·.1 != name) }
  | .error fault => .error fault

def fullPath (d : Directory) (relative : String) : String := d.path ++ "/" ++ relative

end Directory

inductive Writer
  | file (relative : String)
  | memory (name : String)
  deriving DecidableEq, Repr

namespace Writer

def ofRank (start : String) (rank : Int32) : Writer := .file (start ++ toString rank.toInt)

def target (d : Directory) : Writer → String
  | file relative => d.fullPath relative
  | memory name => name

end Writer

structure Outlet where
  writer : Option Writer := none
  directory : Directory
  memory : List (String × List UInt8) := []
  deriving Inhabited

namespace Outlet

def target : String := "dynamo_flight_recorder::writer"

def alreadyRegistered : String := "debug info writer already registered"

def isRegistered (o : Outlet) : Bool := o.writer.isSome

/-- Register a writer unless there is one. `none` means that there was. -/
def register (w : Writer) (o : Outlet) : Option (LogEvent × Outlet) :=
  match o.writer with
  | some _ => none
  | none =>
    some (⟨.debug, target, "registered debug info writer", [("target", w.target o.directory)]⟩,
      { o with writer := some w })

def getOrRegister (fallback : Writer) (o : Outlet) : Writer × Outlet :=
  match o.writer with
  | some w => (w, o)
  | none => (fallback, { o with writer := some fallback })

def write (w : Writer) (payload : List UInt8) (o : Outlet) : Option LogEvent × Outlet :=
  match w with
  | .memory name => (none, { o with memory := o.memory ++ [(name, payload)] })
  | .file relative =>
    let pathField := ("path", o.directory.fullPath relative)
    match o.directory.write relative payload with
    | .ok directory =>
      (some ⟨.info, target, "finished writing flight recorder debug info",
        [pathField, ("bytes", toString payload.length)]⟩, { o with directory })
    | .error fault =>
      (some ⟨.error, target, "error writing flight recorder debug info",
        [pathField, ("error", fault.message)]⟩, o)

def payloads (o : Outlet) (name : String) : List (List UInt8) :=
  (o.memory.filter (·.1 == name)).map (·.2)

end Outlet

end RankTrace
