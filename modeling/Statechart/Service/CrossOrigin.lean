import Statechart.Service.Message

/-!
# Calls from other origins

A browser lets a page of one origin call a service of another only if the service agrees.  The
service agrees for the origins of its policy, of which `*` stands for all, with every usual method
and with any headers.  Before some calls a browser asks in advance; the answer to such a question
is `CrossOrigin.preflight`, and it lists everything that the service does not agree to.
-/

namespace Statechart.Service.CrossOrigin

/-- Whether a policy allows an origin. -/
def allows (origins : List Text) (origin : Text) : Bool :=
  origins.contains ['*'] || origins.contains origin

/-- The methods that are allowed. -/
def methods : List Text :=
  ["DELETE", "GET", "HEAD", "OPTIONS", "PATCH", "POST", "PUT", "QUERY"].map String.toList

/-- The header that names the origin which a response is for, if it is allowed. -/
def originHeaders (origins : List Text) (origin : Text) : Headers :=
  if allows origins origin then [("access-control-allow-origin".toList, origin)] else []

/-- The header that allows a call on behalf of a user. -/
def credentialHeaders : Headers := [("access-control-allow-credentials".toList, "true".toList)]

/-- What a question in advance asks for. -/
structure Question where
  /-- The origin of the call. -/
  origin : Text
  /-- Its method. -/
  method : Text
  /-- Its headers, in one text. -/
  headers : Option Text
  /-- Whether it goes into a private network. -/
  intoPrivate : Bool
  deriving DecidableEq, Inhabited

/-- The question that a request asks, if it asks one. -/
def question? (r : Request) : Option Question :=
  if r.verb = "OPTIONS".toList then do
    return { origin := ← r.header? "origin"
             method := ← r.header? "access-control-request-method"
             headers := r.header? "access-control-request-headers"
             intoPrivate := (r.header? "access-control-request-private-network").isSome }
  else none

/-- What the service does not agree to. -/
def objections (origins : List Text) (q : Question) : List Text :=
  (if allows origins q.origin then [] else ["origin".toList]) ++
    (if methods.contains q.method then [] else ["method".toList]) ++
    (if q.intoPrivate then ["private-network".toList] else [])

/-- What the answer to a question depends on. -/
def questionHeaders : Text :=
  List.intercalate [',', ' ']
    (["Origin", "Access-Control-Request-Method", "Access-Control-Request-Headers",
      "Access-Control-Request-Private-Network"].map String.toList)

/-- The answer to a question. -/
def preflight (origins : List Text) (q : Question) : Response :=
  let headers : Headers :=
    [("vary".toList, questionHeaders),
      ("access-control-allow-methods".toList, List.intercalate [',', ' '] methods),
      ("access-control-max-age".toList, "600".toList)] ++ credentialHeaders ++
      originHeaders origins q.origin ++
      (match q.headers with
        | none => []
        | some names => [("access-control-allow-headers".toList, names)])
  match objections origins q with
  | [] => .ofText 200 "OK".toList headers
  | list =>
    .ofText 400 ("Disallowed CORS ".toList ++ List.intercalate [',', ' '] list) headers

/-- A response with the headers that its caller's origin calls for. -/
def mark (origins : List Text) (r : Request) (response : Response) : Response :=
  let forOrigin :=
    match r.header? "origin" with
    | none => []
    | some origin => credentialHeaders ++ originHeaders origins origin
  { response with headers := response.headers ++ ("vary".toList, "Origin".toList) :: forOrigin }

end Statechart.Service.CrossOrigin
