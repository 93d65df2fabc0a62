import Statechart.CommandLine.Usage
import Statechart.Log.Notice
import Statechart.Service.CrossOrigin
import Statechart.Settings.Origins

/-!
# The service

Four endpoints: one says that the service is well, and the others take a document or a diagram out
of a JSON body and answer with the workflow of the document, with its diagram, or with the machine
of the diagram.  `Service.respond` answers a request; besides the response it gives the notices
that arise.  A request whose path only has slashes too many at its end is sent on to the right one.

States appear in their view without what is missing, which is the same as their JSON.
-/

namespace Statechart.Service

/-- An endpoint. -/
inductive Endpoint where
  /-- Tells that the service is well. -/
  | health
  /-- Makes the workflow of a document. -/
  | workflow
  /-- Takes the diagram out of a document. -/
  | diagram
  /-- Reads a diagram as a machine. -/
  | machine
  deriving DecidableEq, Inhabited

namespace Endpoint

/-- All endpoints. -/
def all : List Endpoint := [.health, .workflow, .diagram, .machine]

/-- Where an endpoint is found. -/
def path : Endpoint → Text
  | .health => "/api/health".toList
  | .workflow => "/api/workflows/compile".toList
  | .diagram => "/api/diagrams/extract".toList
  | .machine => "/api/diagrams/compile".toList

/-- The method of an endpoint. -/
def method : Endpoint → Text
  | .health => "GET".toList
  | _ => "POST".toList

/-- The field of the body that an endpoint takes. -/
def field : Endpoint → Text
  | .machine => "diagram".toList
  | _ => "markdown".toList

/-- Whether an endpoint is found at a path, which may end in a line feed. -/
def isAt (e : Endpoint) (path : Text) : Bool := path = e.path || path = e.path ++ ['\n']

/-- The endpoint at a path. -/
def ofPath? (path : Text) : Option Endpoint := all.find? fun e => e.isAt path

end Endpoint

/-! ### Bodies -/

/-- Why a body is rejected. -/
inductive Rejection where
  /-- There is none. -/
  | nothing
  /-- It cannot be read to the end. -/
  | unreadable
  /-- It is no JSON. -/
  | noJson (f : Json.Fault)
  /-- It is no object. -/
  | noObject (j : Json)
  /-- The object lacks the field. -/
  | noField (name : Text) (j : Json)
  /-- The field is no text. -/
  | noText (name : Text) (j : Json)
  deriving Inhabited

namespace Rejection

/-- A rejection in a report: its code, its place, its message and the value that it is about. -/
def entry (code : String) (place : List Json) (message : String) (input : Json) :
    List (Text × Json) :=
  [("type".toList, .text code.toList),
    ("loc".toList, .array (.text "body".toList :: place)),
    ("msg".toList, .text message.toList), ("input".toList, input)]

/-- The report of a rejection, if it says more than that the body cannot be read. -/
def report? : Rejection → Option (List (Text × Json))
  | .unreadable => none
  | .nothing => some (entry "missing" [] "Field required" .null)
  | .noJson f =>
    some (entry "json_invalid" [.int f.position] "JSON decode error" (.object []) ++
      [("ctx".toList, .object [("error".toList, .text f.defect.message)])])
  | .noObject j =>
    some (entry "model_attributes_type" []
      "Input should be a valid dictionary or object to extract fields from" j)
  | .noField name j => some (entry "missing" [.text name] "Field required" j)
  | .noText name j => some (entry "string_type" [.text name] "Input should be a valid string" j)

/-- The response to a request with a rejected body.  A number in it that is not finite cannot be
reported, and neither can half of a surrogate pair, which `halves` has a stand-in for. -/
def response (halves : Halves.Block) (r : Rejection) : Response :=
  match r.report? with
  | none => .ofDetail 400 "There was an error parsing the body"
  | some fields =>
    let report := Json.object fields
    if report.isFinite && !report.holds halves then
      .ofJson 422 (.object [("detail".toList, .array [report])])
    else .serverError

end Rejection

/-- The text in a field of a body. -/
def fieldOf (name : Text) : Content → Except Rejection Text
  | .nothing => .error .nothing
  | .noJson f => .error (.noJson f)
  | .unreadable => .error .unreadable
  | .text s => .error (.noObject (.text s))
  | .json (.object fields) =>
    match Catalog.Entries.get? name fields with
    | none => .error (.noField name (.object fields))
    | some (.text s) => .ok s
    | some j => .error (.noText name j)
  | .json j => .error (.noObject j)

/-! ### Answers -/

/-- The states of a machine, each in its view without what is missing. -/
def statesJson (m : Machine) : Json :=
  .ofCatalog (fun s => (StateView.ofState s).toBriefJson) m.states

/-- The fields of a machine. -/
def machineFields (m : Machine) : List (Text × Json) :=
  [("initial".toList, .text m.initial), ("states".toList, statesJson m)]

/-- A machine as the service shows it. -/
def machineJson (m : Machine) : Json := .object (machineFields m)

/-- A workflow as the service shows it. -/
def workflowJson (w : Workflow) : Json :=
  .object (machineFields w.toMachine ++ [("id".toList, .text w.id)])

/-- A diagram, if there is one, as the service shows it. -/
def diagramJson (diagram : Option Text) : Json :=
  .object [("diagram".toList, (diagram.map Json.text).getD .null)]

/-- What the service says about itself. -/
def healthJson : Json :=
  .object [("status".toList, .text "ok".toList), ("version".toList, .text CommandLine.version)]

/-- What an endpoint makes of the text that it is given, and the notices that arise. -/
def Endpoint.answer (e : Endpoint) (s : Text) : Json × List Notice :=
  match e with
  | .health => (healthJson, [])
  | .workflow =>
    let w := Document.workflow s
    (workflowJson w, Document.notices s ++ [.served w])
  | .diagram => (diagramJson (Fence.diagram? s), [])
  | .machine =>
    let m := Machine.ofDiagram s
    (machineJson m, [.compiled m])

/-- The response of an endpoint to a request. -/
def Endpoint.respond (e : Endpoint) (r : Request) : Response × List Notice :=
  if e = .health then (.ofJson 200 (e.answer []).1, [])
  else
    match fieldOf e.field r.content with
    | .error rejection => (rejection.response r.halves, [])
    | .ok s =>
      let (answer, notices) := e.answer s
      (((answer.settled? r.halves).map (Response.ofJson 200)).getD .serverError, notices)

/-- A path without the slashes at its end. -/
def withoutSlashes (path : Text) : Text := (path.reverse.dropWhile (· = '/')).reverse

/-- Whether a character may stand in the address of a redirection as it is. -/
def isLocationSafe (c : Char) : Bool :=
  HostName.isUnreserved c || ":/%#?=@[]!$&'()*+,;".toList.contains c

/-- The response to a request that only has slashes too many at the end of its path. -/
def redirect (r : Request) (path : Text) : Response where
  status := 307
  headers :=
    [("location".toList,
      Percent.encode isLocationSafe
        (r.address.scheme ++ "://".toList ++ r.place ++ path ++
          (if r.address.query = [] then [] else '?' :: r.address.query)))]

/-- The response to a request, leaving aside where it comes from. -/
def route (r : Request) : Response × List Notice :=
  let path := r.address.plainPath
  match Endpoint.ofPath? path with
  | some e =>
    if r.verb = e.method then e.respond r
    else (.ofDetail 405 "Method Not Allowed" [("allow".toList, e.method)], [])
  | none =>
    let shorter := withoutSlashes path
    if (Endpoint.ofPath? shorter).isSome then (redirect r shorter, [])
    else (.ofDetail 404 "Not Found", [])

/-- The response to a request, where a policy lists the allowed origins, and the notices that
arise.  A response to the method HEAD has no body, and a failure of the service is not marked for
the caller's origin. -/
def respond (origins : List Text) (r : Request) : Response × List Notice :=
  match CrossOrigin.question? r with
  | some q => (CrossOrigin.preflight origins q, [])
  | none =>
    let (response, notices) := route r
    let response := if r.verb = "HEAD".toList then { response with body := [] } else response
    if response.status = 500 then (response, notices)
    else (CrossOrigin.mark origins r response, notices)

end Statechart.Service
