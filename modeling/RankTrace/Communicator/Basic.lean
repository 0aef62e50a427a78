import RankTrace.Communicator.Host
import RankTrace.Communicator.Settings
import RankTrace.Text.Quoted

/-!
# Communicators

One communicator of one rank: what it was made from and the state that its lock guards. The raw
handle is there until the communicator is aborted. A blocking communicator is initialized from the
start, a nonblocking one once a poll of the library has seen success.
-/

namespace RankTrace

structure Communicator where
  settings : CommSettings
  /-- The id it was created from; a child of a split has none. -/
  uniqueId : Option UniqueId
  commId : String
  rank : Int32
  splits : Nat := 0
  raw : Option RawHandle
  initialized : Bool
  aborted : Bool := false
  asyncError : Status := .success
  failureReason : Option String := none
  /-- Native handles by pointer, one row for a registered pointer. -/
  segments : List (UInt64 × SegmentHandle) := []
  deriving DecidableEq

def Communicator.text (c : Communicator) : String :=
  "CommunicatorHandle \x7b " ++ s!"comm_id: {Text.quoted c.commId}, rank: {c.rank.toInt}, " ++
    s!"initialized: {c.initialized}, aborted: {c.aborted}, " ++
    s!"nonblocking: {c.settings.nonblocking}" ++ " \x7d"

abbrev Outcome (σ α : Type) := Except CommError α × Communicator × Host σ

namespace Communicator

variable {σ : Type}

def target : String := "dynamo_comm::comm"

def fresh (settings : CommSettings) (uniqueId : Option UniqueId) (commId : String) (rank : Int32)
    (raw : RawHandle) : Communicator where
  settings := settings
  uniqueId := uniqueId
  commId := commId
  rank := rank
  raw := some raw
  initialized := !settings.nonblocking

/-- The caller's options; only the blocking mode comes from the settings. -/
def effectiveConfig (settings : CommSettings) (config : InitConfig) : InitConfig :=
  { config with blocking := !settings.nonblocking }

/-- Ask the library for a communicator. A rank outside the world is refused before any call. -/
def create (lib : Library σ) (settings : CommSettings) (worldSize rank : Int32) (id : UniqueId)
    (config : InitConfig) (host : Host σ) : Except CommError Communicator × Host σ :=
  if rank < 0 ∨ worldSize ≤ rank then (.error (.invalidRank rank worldSize), host)
  else
    let (answer, host) :=
      host.call lib (.initRank worldSize rank id (effectiveConfig settings config))
    match answer with
    | .error status => (.error (host.nativeError lib .init status none none), host)
    | .ok raw =>
      let (level, message) :=
        if settings.nonblocking then
          (Level.info, "communicator initialization requested in nonblocking mode")
        else (Level.debug, "communicator initialized")
      (.ok (fresh settings (some id) id.text rank raw),
        host.emit ⟨level, target, message,
          [("rank", toString rank.toInt), ("world_size", toString worldSize.toInt),
            ("comm_id", id.text)]⟩)

def abortedError (c : Communicator) : CommError := .aborted c.rank c.failureReason

def liveHandle? (c : Communicator) : Option RawHandle := if c.aborted then none else c.raw

def liveHandle (c : Communicator) : Except CommError RawHandle :=
  match c.liveHandle? with
  | some raw => .ok raw
  | none => .error c.abortedError

def setFailureReason (c : Communicator) (reason : String) : Communicator :=
  { c with failureReason := some reason }

/-- The cached failure if there is one, otherwise what the library says now. Progress is reported
but not kept. -/
def checkForError (lib : Library σ) (c : Communicator) (host : Host σ) :
    Status × Communicator × Host σ :=
  if c.asyncError ≠ .success then (c.asyncError, c, host)
  else
    match c.raw with
    | none => (c.asyncError, c, host)
    | some raw =>
      let (answer, host) := host.call lib (.asyncError raw)
      let status := match answer with
        | .ok status => status
        | .error status => status
      if status.isFailure then
        (status, { c with asyncError := status },
          host.emit ⟨.debug, target, "communicator reported async error",
            [("comm_id", c.commId), ("error", status.text)]⟩)
      else (status, c, host)

def nativeDump (lib : Library σ) (c : Communicator) (host : Host σ) :
    Except CommError Diagnostics × Host σ :=
  match c.liveHandle? with
  | none =>
    (.ok [], host.emit ⟨.debug, target, "skipping native dump of aborted communicator",
      [("comm_id", c.commId)]⟩)
  | some raw =>
    let (answer, host) := host.call lib (.dump raw)
    match answer with
    | .ok diagnostics => (.ok diagnostics, host)
    | .error status =>
      (.error (host.nativeError lib .dump status (some raw) c.failureReason), host)

/-- Giving up the communicator aborts it once if it is initialized and not aborted yet. It never
waits for work in flight. -/
def drop (lib : Library σ) (c : Communicator) (host : Host σ) : Communicator × Host σ :=
  if !c.initialized || c.aborted then (c, host)
  else
    match c.raw with
    | none => (c, host)
    | some raw =>
      let (status, host) := host.call lib (.abort raw)
      let c := { c with raw := none, aborted := true }
      if status.isFailure then
        (c, host.emit ⟨.error, target, "failed to abort communicator on drop",
          [("rank", toString c.rank.toInt), ("comm_id", c.commId), ("error", status.text)]⟩)
      else (c, host)

end Communicator

end RankTrace
