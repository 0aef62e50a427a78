import RankTrace.Communicator.Abort
import RankTrace.Communicator.Bootstrap
import RankTrace.Communicator.Registry
import RankTrace.Communicator.Split
import RankTrace.Table

/-!
# Fleets

All communicators of one process, by name, over one library. A name is given to one communicator
at a time: when it is given away, the communicator that had it is dropped, after the new one was
made. Communicators that are dropped leave the registry.
-/

namespace RankTrace

structure Member where
  key : CommKey
  comm : Communicator
  deriving DecidableEq

structure Fleet (σ : Type) where
  host : Host σ
  members : Table String Member := []
  registry : Registry := {}
  nextKey : CommKey := 0

namespace Fleet

variable {σ α : Type}

def get? (f : Fleet σ) (name : String) : Option Communicator :=
  (f.members.lookup name).map (·.comm)

def find? (f : Fleet σ) (key : CommKey) : Option Communicator :=
  (f.members.find? fun row => row.2.key == key).map (·.2.comm)

def isAlive (f : Fleet σ) (key : CommKey) : Bool := (f.find? key).isSome

def update (f : Fleet σ) (name : String) (comm : Communicator) : Fleet σ :=
  { f with members := f.members.map fun (n, m) => (n, if n = name then { m with comm } else m) }

/-- Give a name to a new communicator and drop the one that had it. -/
def store (lib : Library σ) (name : String) (comm : Communicator) (f : Fleet σ) : Fleet σ :=
  let replaced := f.get? name
  let f := { f with members := f.members.set name ⟨f.nextKey, comm⟩, nextKey := f.nextKey + 1 }
  match replaced with
  | some old => { f with host := (old.drop lib f.host).2 }
  | none => f

def add (lib : Library σ) (name : String) (make : Host σ → Except CommError Communicator × Host σ)
    (f : Fleet σ) : Except CommError Communicator × Fleet σ :=
  match make f.host with
  | (.error e, host) => (.error e, { f with host })
  | (.ok comm, host) => (.ok comm, store lib name comm { f with host })

def operate (name : String) (op : Communicator → Host σ → Outcome σ α) (f : Fleet σ) :
    Option (Except CommError α × Fleet σ) :=
  (f.get? name).map fun comm =>
    let (result, comm, host) := op comm f.host
    (result, { f with host }.update name comm)

def split (lib : Library σ) (parent child : String) (color key : Int32) (config : InitConfig)
    (f : Fleet σ) : Option (Except CommError Communicator × Fleet σ) :=
  (operate parent (Communicator.split lib color key config) f).map fun
    | (.error e, f) => (.error e, f)
    | (.ok comm, f) => (.ok comm, store lib child comm f)

def drop (lib : Library σ) (name : String) (f : Fleet σ) : Fleet σ :=
  match f.get? name with
  | none => f
  | some comm =>
    { f with
      host := (comm.drop lib f.host).2
      members := f.members.filter (·.1 != name) }

def dropAll (lib : Library σ) (f : Fleet σ) : Fleet σ :=
  (f.members.map (·.1)).foldl (fun f name => f.drop lib name) f

def register (name : String) (f : Fleet σ) : Fleet σ :=
  match f.members.lookup name with
  | some m => { f with registry := f.registry.register f.isAlive m.key }
  | none => f

def registered (f : Fleet σ) : List String :=
  f.registry.members.filterMap fun key => (f.find? key).map (·.commId)

def nativeDumps (lib : Library σ) (f : Fleet σ) : Option NativeDumps × Fleet σ :=
  let (dumps, host) := f.registry.nativeDumps lib f.find? f.host
  (dumps, { f with host })

end Fleet

end RankTrace
