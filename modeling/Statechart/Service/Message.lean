import Statechart.Json.Halves
import Statechart.Json.Printer
import Statechart.Service.Address
import Statechart.Text.Case
import Statechart.Text.Encoding

/-!
# Requests and responses

The messages of the service.  The names of headers and of methods are read without regard to the
case of letters.  `Request.content` says what the body of a request holds: it is read as JSON only
if its content type says that it is JSON.  JSON may be encoded in several ways, and it may hold
halves of surrogate pairs, which are read as stand-ins (`Request.halves`).
-/

namespace Statechart.Service

open Text

/-- Headers with their values. -/
abbrev Headers := List (Text × Text)

/-- ASCII letters in lower case. -/
def small (s : Text) : Text := s.map Char.toLower

/-- Characters outside ASCII in a header, which cannot be sent. -/
structure UnsendableRun where
  /-- The first of them. -/
  first : Char
  /-- The number of characters before them. -/
  position : Nat
  /-- The number of them after the first one. -/
  more : Nat
  deriving DecidableEq, Inhabited

/-- The message about characters that cannot be sent. -/
def UnsendableRun.message (r : UnsendableRun) : Text :=
  let place :=
    if r.more = 0 then
      "character '".toList ++ escapeCode r.first ++ "' in position ".toList ++
        Digits.ofNat r.position
    else
      "characters in position ".toList ++ Digits.ofNat r.position ++ '-' ::
        Digits.ofNat (r.position + r.more)
  "'ascii' codec can't encode ".toList ++ place ++ ": ordinal not in range(128)".toList

/-- The first run of characters outside ASCII. -/
def unsendableRun? (s : Text) : Option UnsendableRun :=
  let before := s.takeWhile fun c => c.toNat < 128
  match (s.drop before.length).takeWhile fun c => 128 ≤ c.toNat with
  | [] => none
  | c :: run => some ⟨c, before.length, run.length⟩

/-- The first run of characters outside ASCII in headers, where a name goes before its value. -/
def Headers.unsendable? (headers : Headers) : Option UnsendableRun :=
  headers.findSome? fun e => unsendableRun? e.1 <|> unsendableRun? e.2

/-- A request. -/
structure Request where
  /-- The method. -/
  method : Text
  /-- The address that it goes to. -/
  address : Address
  /-- The headers. -/
  headers : Headers := []
  /-- The body. -/
  body : Text := []
  deriving DecidableEq, Inhabited

/-- A response. -/
structure Response where
  /-- The status. -/
  status : Nat
  /-- The headers. -/
  headers : Headers := []
  /-- The body. -/
  body : Text := []
  deriving DecidableEq, Inhabited

namespace Response

/-- The header that tells the type of a body. -/
def contentType : Text := "content-type".toList

/-- A response with a plain text. -/
def ofText (status : Nat) (s : Text) (headers : Headers := []) : Response where
  status
  headers := headers ++ [(contentType, "text/plain; charset=utf-8".toList)]
  body := s

/-- A response with a JSON value. -/
def ofJson (status : Nat) (j : Json) (headers : Headers := []) : Response where
  status
  headers := headers ++ [(contentType, "application/json".toList)]
  body := j.write .tight

/-- A response that explains itself in a few words. -/
def ofDetail (status : Nat) (detail : String) (headers : Headers := []) : Response :=
  ofJson status (.object [("detail".toList, .text detail.toList)]) headers

/-- The response to a request that the service has failed at. -/
def serverError : Response := ofText 500 "Internal Server Error".toList

end Response

namespace Request

/-- A header. -/
def header? (r : Request) (name : String) : Option Text :=
  (r.headers.find? fun e => small e.1 = name.toList).map Prod.snd

/-- The method in capitals. -/
def verb (r : Request) : Text := upper r.method

/-- The place that the request has arrived at: the host that it names, if it names one, or else the
one that it was sent to. -/
def place (r : Request) : Text :=
  let named := (r.header? "host").getD r.address.hostHeader
  if HostName.isHeader named then named else r.address.place

end Request

/-! ### The body of a request -/

/-- Whether a content type says that the body is JSON. -/
def saysJson (type : Text) : Bool :=
  let bare := small (trim (type.takeWhile (· ≠ ';')))
  match past? "application/".toList bare with
  | none => false
  | some kind =>
    !kind.contains '/' &&
      (kind = "json".toList || (past? "nosj+".toList kind.reverse).isSome)

/-- What the body of a request holds. -/
inductive Content where
  /-- Nothing. -/
  | nothing
  /-- A JSON value. -/
  | json (j : Json)
  /-- A text that is not meant as JSON. -/
  | text (s : Text)
  /-- A text that is meant as JSON, but is none. -/
  | noJson (f : Json.Fault)
  /-- What is meant as JSON, but cannot be read to the end. -/
  | unreadable
  deriving Inhabited

/-- The greatest number of brackets that may be open at a time in a body. -/
def deepestBody : Nat := 960

/-- Codes as one JSON value, where `halves` has the stand-ins for halves of surrogate pairs. -/
def Content.ofCodes (halves : Halves.Block) (codes : List Nat) : Content :=
  match Json.readWith ⟨halves.standIn, deepestBody⟩ (codes.map halves.character) with
  | .ok j => .json j
  | .error ⟨.deep, _⟩ | .error ⟨.longInteger, _⟩ => .unreadable
  | .error f => .noJson f

/-- Codes without a byte order mark in front. -/
def withoutMark : List Nat → List Nat
  | 0xFEFF :: codes => codes
  | codes => codes

namespace Request

/-- The codes of a body that is meant as JSON. -/
def codes? (r : Request) : Option (List Nat) :=
  let bytes := Utf8.encode r.body
  ((Encoding.guess bytes).codes? bytes).map withoutMark

/-- The block of the stand-ins in the body, which has no other use for it in any encoding. -/
def halves (r : Request) : Halves.Block :=
  Json.freeBlock (r.codes?.getD [] ++ r.body.map Char.toNat)

/-- What the body of a request holds. -/
def content (r : Request) : Content :=
  if r.body.isEmpty then .nothing
  else if ((r.header? "content-type").map saysJson).getD false then
    match r.codes? with
    | some codes => .ofCodes r.halves codes
    | none => .unreadable
  else .text r.body

end Request

end Statechart.Service
