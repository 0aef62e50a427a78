import RankTrace.Logging.Event
import RankTrace.Native.Library
import RankTrace.Native.Version
import RankTrace.Communicator.Error
import RankTrace.Time.Clock

/-!
# The host of a communicator

What operations act on besides the communicator itself: the state of the library, the clock, the
calls made so far and the log. Only `call` reaches the library, and it records the call, so the
trace of calls is complete. Time passes only in `sleep`.
-/

namespace RankTrace

structure Host (σ : Type) where
  library : σ
  clock : Clock
  /-- Calls made, the newest first. -/
  calls : List NativeCall := []
  events : List LogEvent := []

namespace Host

variable {σ : Type}

def call (lib : Library σ) (h : Host σ) (c : NativeCall) : c.Answer × Host σ :=
  let (answer, library) := lib.answer c h.library
  (answer, { h with library, calls := c :: h.calls })

def sleep (h : Host σ) (d : Duration) : Host σ := { h with clock := h.clock.advance d }

def emit (h : Host σ) (event : LogEvent) : Host σ := { h with events := event :: h.events }

def nativeError (lib : Library σ) (h : Host σ) (operation : Operation) (status : Status)
    (raw : Option RawHandle) (reason : Option String) : CommError :=
  .native operation status (Version.describe (lib.versionCode h.library))
    (status.detail reason (lib.lastError h.library raw))

@[simp] theorem call_calls (lib : Library σ) (h : Host σ) (c : NativeCall) :
    (h.call lib c).2.calls = c :: h.calls := rfl

@[simp] theorem call_clock (lib : Library σ) (h : Host σ) (c : NativeCall) :
    (h.call lib c).2.clock = h.clock := rfl

@[simp] theorem call_library (lib : Library σ) (h : Host σ) (c : NativeCall) :
    (h.call lib c).2.library = (lib.answer c h.library).2 := rfl

@[simp] theorem call_answer (lib : Library σ) (h : Host σ) (c : NativeCall) :
    (h.call lib c).1 = (lib.answer c h.library).1 := rfl

@[simp] theorem emit_calls (h : Host σ) (e : LogEvent) : (h.emit e).calls = h.calls := rfl

@[simp] theorem emit_library (h : Host σ) (e : LogEvent) : (h.emit e).library = h.library := rfl

@[simp] theorem emit_clock (h : Host σ) (e : LogEvent) : (h.emit e).clock = h.clock := rfl

@[simp] theorem sleep_calls (h : Host σ) (d : Duration) : (h.sleep d).calls = h.calls := rfl

@[simp] theorem sleep_library (h : Host σ) (d : Duration) : (h.sleep d).library = h.library := rfl

@[simp] theorem sleep_clock (h : Host σ) (d : Duration) :
    (h.sleep d).clock = h.clock.advance d := rfl

end Host

end RankTrace
