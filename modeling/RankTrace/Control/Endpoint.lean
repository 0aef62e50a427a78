import RankTrace.Control.Handler
import RankTrace.Control.RequestLine
import RankTrace.Text.Quoted

/-!
# The control endpoint

Requests for `/handler/<name>` run the handler with that name. Only the methods that read are
allowed, and one of them leaves out the body. A handler that unwinds makes an answer of its own.
-/

namespace RankTrace.Control

variable {σ : Type}

def target : String := "dynamo_flight_recorder::control_plane"

inductive Route
  | missing
  | methodNotAllowed
  | badName
  | handler (name : String)
  deriving DecidableEq, Repr

def pathStart : List UInt8 := Utf8.bytes "/handler/"

/-- The name is one part of a path; its escapes are replaced after the path has been cut. -/
def route (method : Method) (path : List UInt8) : Route :=
  let name := path.drop pathStart.length
  if path.take pathStart.length ≠ pathStart ∨ name = [] ∨ name.contains RequestTarget.slash then
    .missing
  else if method = .other then .methodNotAllowed
  else
    match Utf8.strict? (Form.unescape name) with
    | none => .badName
    | some name => .handler (String.ofList name)

def missing : Response := { status := 404 }

def methodNotAllowed : Response := { status := 405, allow := some "GET,HEAD" }

def badName : Response where
  status := 400
  contentType := some "text/plain; charset=utf-8"
  body := Utf8.bytes "Invalid URL: Invalid UTF-8 in `name`"

def handlerFailed : Response where
  status := 500
  contentType := some plainText
  body := Utf8.bytes "Handler failed"

def answer (service : DumpService σ) (task : Nat) (method : Method) (request : RequestTarget)
    (s : σ) : Response × σ :=
  let reply := fun (response : Response) =>
    if method = .head then { response with body := [] } else response
  match route method request.path with
  | .missing => (reply missing, s)
  | .methodNotAllowed => (reply methodNotAllowed, s)
  | .badName => (reply badName, s)
  | .handler name =>
    let params := Form.fields request.query
    let s := service.emit ⟨.debug, target, "control plane request",
      [("handler", name), ("params", Text.quotedPairs params)]⟩ s
    match dispatch service name params s with
    | (.answered response, s) => (reply response, s)
    | (.unwound, s) =>
      (reply handlerFailed, service.emit ⟨.error, target, "control plane handler panicked",
        [("error", s!"task {task} panicked with message {Text.quoted Reply.unwindMessage}")]⟩ s)

end RankTrace.Control
