import RankTrace.Control.Params
import RankTrace.Logging.Event
import RankTrace.Text.Utf8

/-!
# Dump handlers

Two handlers make dumps on request, one for each flavor. A request is checked completely before a
dump is made, so a refused request touches neither the recorder nor the library.
-/

namespace RankTrace

structure Response where
  status : Nat
  contentType : Option String := none
  allow : Option String := none
  body : List UInt8 := []
  deriving DecidableEq, Repr

structure DumpService (σ : Type) where
  dump : Flavor → DumpOptions → σ → Reply (List UInt8) × σ
  emit : LogEvent → σ → σ

namespace Control

variable {σ : Type}

def handlerName : Flavor → String
  | .binary => "dump_fr_trace_msgpack"
  | .text => "dump_fr_trace_json"

def handler? (name : String) : Option Flavor :=
  if name = handlerName .binary then some .binary
  else if name = handlerName .text then some .text
  else none

def contentType : Flavor → String
  | .binary => "application/octet-stream"
  | .text => "application/json"

def plainText : String := "text/plain"

def refusal (fault : RequestFault) : Response where
  status := match fault with
    | .unknownHandler _ => 404
    | _ => 400
  contentType := some plainText
  body := Utf8.bytes fault.message

def handle (service : DumpService σ) (flavor : Flavor) (params : List (String × String)) (s : σ) :
    Reply Response × σ :=
  match DumpOptions.ofParams flavor params with
  | .error fault => (.answered (refusal fault), s)
  | .ok options =>
    match service.dump flavor options s with
    | (.answered body, s) =>
      (.answered { status := 200, contentType := some (contentType flavor), body }, s)
    | (.unwound, s) => (.unwound, s)

def dispatch (service : DumpService σ) (name : String) (params : List (String × String)) (s : σ) :
    Reply Response × σ :=
  match handler? name with
  | some flavor => handle service flavor params s
  | none => (.answered (refusal (.unknownHandler name)), s)

end Control

end RankTrace
