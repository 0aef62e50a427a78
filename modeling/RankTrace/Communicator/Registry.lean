import RankTrace.Communicator.Basic

/-!
# Registry of communicators

The registry remembers communicators by identity and does not keep them alive: one that is gone
is forgotten at the next look. It collects the native diagnostics of those that are left. A
communicator that fails or has nothing to say is left out and keeps no other from appearing.
-/

namespace RankTrace

abbrev NativeDumps := List (String × Diagnostics)

/-- Identity of a communicator within its process. Ids of communicators may coincide, keys do
not. -/
abbrev CommKey := Nat

structure Registry where
  members : List CommKey := []
  deriving DecidableEq, Inhabited

namespace Registry

variable {σ : Type}

def live (alive : CommKey → Bool) (r : Registry) : Registry := ⟨r.members.filter alive⟩

def register (alive : CommKey → Bool) (key : CommKey) (r : Registry) : Registry :=
  ⟨(r.live alive).members ++ [key]⟩

/-- A later row for the same id replaces an earlier one. -/
def setDump (dumps : NativeDumps) (commId : String) (state : Diagnostics) : NativeDumps :=
  dumps.filter (·.1 != commId) ++ [(commId, state)]

def collect (lib : Library σ) : List Communicator → NativeDumps → Host σ → NativeDumps × Host σ
  | [], dumps, host => (dumps, host)
  | c :: rest, dumps, host =>
    match c.nativeDump lib host with
    | (.ok [], host) => collect lib rest dumps host
    | (.ok state, host) => collect lib rest (setDump dumps c.commId state) host
    | (.error e, host) =>
      collect lib rest dumps (host.emit ⟨.warn, "dynamo_flight_recorder::registry",
        "skipping native dump of communicator", [("comm_id", c.commId), ("error", e.message)]⟩)

def nativeDumps (lib : Library σ) (find : CommKey → Option Communicator) (r : Registry)
    (host : Host σ) : Option NativeDumps × Host σ :=
  match collect lib (r.members.filterMap find) [] host with
  | ([], host) => (none, host)
  | (dumps, host) => (some dumps, host)

end Registry

end RankTrace
