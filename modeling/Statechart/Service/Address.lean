import Statechart.Service.HostName

/-!
# Addresses

A request goes to an address.  `Address.read` reads one: a full address names a scheme and a host,
and any other one is looked up at the home of the service, `http://testserver`.  The parts of an
address that is read hold ASCII characters only; what else was written there is escaped.

`Address.segments` is what a path comes down to when its steps are taken.
-/

namespace Statechart.Service

open Text

/-- An address in ASCII. -/
structure Address where
  /-- The scheme, in small letters. -/
  scheme : Text
  /-- The host, in square brackets if it is a number of sixteen bytes. -/
  host : Text
  /-- The port, unless it is the usual one of the scheme. -/
  port : Option Int := none
  /-- The path, which may be empty. -/
  path : Text
  /-- The query, which may be empty. -/
  query : Text := []
  deriving DecidableEq, Inhabited

namespace Address

/-- Why a text is not read as an address. -/
inductive Fault where
  /-- It is too long. -/
  | long
  /-- A part of it is too long once it is escaped. -/
  | longPart (name : Text)
  /-- It holds a control character. -/
  | control (c : Char) (position : Nat)
  /-- The host looks like a number of four bytes and is none. -/
  | noFourBytes (host : Text)
  /-- The host looks like a number of sixteen bytes and is none. -/
  | noSixteenBytes (host : Text)
  /-- The host is no name. -/
  | noName (host : Text)
  /-- The port is no number. -/
  | noPort (port : Text)
  /-- The path does not begin with a slash, though it follows a host. -/
  | noSlash
  /-- The path begins with two slashes, though it follows neither a scheme nor a host. -/
  | twoSlashes
  /-- The path begins with a colon, though it follows neither a scheme nor a host. -/
  | colon
  /-- There is no such scheme. -/
  | scheme (name : Text)
  deriving DecidableEq, Inhabited

/-- The message of a fault. -/
def Fault.message : Fault → Text
  | .long => "URL too long".toList
  | .longPart name => "URL component ".toList ++ quoted name ++ " too long".toList
  | .control c position =>
    "Invalid non-printable ASCII character in URL, ".toList ++ quoted [c] ++
      " at position ".toList ++ Digits.ofNat position ++ ['.']
  | .noFourBytes host => "Invalid IPv4 address: ".toList ++ quoted host
  | .noSixteenBytes host => "Invalid IPv6 address: ".toList ++ quoted host
  | .noName host => "Invalid IDNA hostname: ".toList ++ quoted host
  | .noPort port => "Invalid port: ".toList ++ quoted port
  | .noSlash => "For absolute URLs, path must be empty or begin with '/'".toList
  | .twoSlashes => "Relative URLs cannot have a path starting with '//'".toList
  | .colon => "Relative URLs cannot have a path starting with ':'".toList
  | .scheme name => quoted name

/-! ### Characters -/

/-- Whether a character is a control character of ASCII. -/
def isControl (c : Char) : Bool := c.toNat < 32 || c.toNat == 127

/-- Whether a character is printable in ASCII and none of the given ones. -/
def isPrintableBut (others : Text) (c : Char) : Bool :=
  33 ≤ c.toNat && c.toNat < 127 && !others.contains c

/-- Whether a character may stand in a path as it is. -/
def isPathSafe (c : Char) : Bool := isPrintableBut ("\"#<>?\x60".toList ++ ['\x7b', '\x7d']) c

/-- Whether a character may stand in a query as it is. -/
def isQuerySafe (c : Char) : Bool := isPrintableBut "\"#<>".toList c

/-- Whether a character may stand in the name of a host as it is. -/
def isHostSafe (c : Char) : Bool :=
  HostName.isUnreserved c || HostName.isMark c ||
    ("\"%|\\\x60".toList ++ ['\x7b', '\x7d']).contains c

/-- Whether a character may stand in the name of a scheme after the first letter. -/
def isSchemeChar (c : Char) : Bool := c.isAlphanum || "+.-".toList.contains c

/-! ### Parts -/

/-- The name of the scheme, which may be empty, and what follows its colon. -/
def cutScheme (s : Text) : Text × Text :=
  let name := s.takeWhile isSchemeChar
  match name, s.drop name.length with
  | [], ':' :: rest => ([], rest)
  | c :: _, ':' :: rest => if c.isAlpha then (name, rest) else ([], s)
  | _, _ => ([], s)

/-- The text up to the last `sep`, and what follows it. -/
def cutLast? (sep : Char) (s : Text) : Option (Text × Text) :=
  (cut? sep s.reverse).map fun (after, before) => (before.reverse, after.reverse)

/-- What comes between the two slashes and the path: a user, a host and a port. -/
structure Authority where
  /-- The user, which may be empty. -/
  user : Text
  /-- The host, which may be empty. -/
  host : Text
  /-- The port, which may be empty. -/
  port : Text
  deriving DecidableEq, Inhabited

/-- The parts of what comes between the two slashes and the path. -/
def Authority.ofText (s : Text) : Authority :=
  let (user, s) := (cutLast? '@' s).getD ([], s)
  let host :=
    match s, cutLast? ']' s with
    | '[' :: _, some (number, _) => number ++ [']']
    | s, _ => s.takeWhile (· ≠ ':')
  match s.drop host.length with
  | ':' :: port => ⟨user, host, port⟩
  | port => ⟨user, host, port⟩

/-- A host in plain form. -/
def plainHost (s : Text) : Except Fault Text :=
  if HostName.isFourRows s then
    if HostName.isFourBytes s then .ok s else .error (.noFourBytes s)
  else if s.head? = some '[' ∧ s.getLast? = some ']' then
    if HostName.isSixteenBytes (s.drop 1).dropLast then .ok s else .error (.noSixteenBytes s)
  else if s.all fun c => c.toNat < 128 then
    .ok (Percent.encode isHostSafe (s.map Char.toLower))
  else
    match HostName.ascii? (s.map Char.toLower) with
    | some name => .ok name
    | none => .error (.noName s)

/-- The usual ports of schemes. -/
def usualPorts : List (Text × Int) :=
  [("ftp".toList, 21), ("http".toList, 80), ("https".toList, 443), ("ws".toList, 80),
    ("wss".toList, 443)]

/-- A port, unless it is the usual one of the scheme. -/
def plainPort (scheme port : Text) : Except Fault (Option Int) :=
  if port = [] then .ok none
  else
    match Numeral.anyScript? port with
    | none => .error (.noPort port)
    | some n => .ok (if usualPorts.lookup scheme = some n then none else some n)

/-- The parts of a path when its steps are taken: a single point stays where it is, and two go back
by one part, but not beyond the start. -/
def segments (parts : List Text) : List Text :=
  (parts.foldl
    (fun taken part =>
      if part = ['.'] then taken
      else if part = ['.', '.'] then (if taken = [[]] then taken else taken.tail)
      else part :: taken)
    []).reverse

/-- A path with its steps taken. -/
def walked (path : Text) : Text := List.intercalate ['/'] (segments (pieces '/' path))

/-- Whether a path may follow what comes before it. -/
def checkPath (path : Text) (hasScheme hasAuthority : Bool) : Except Fault Unit :=
  match path with
  | [] => .ok ()
  | c :: rest =>
    if hasAuthority ∧ c ≠ '/' then .error .noSlash
    else if hasScheme ∨ hasAuthority then .ok ()
    else if c = '/' ∧ rest.head? = some '/' then .error .twoSlashes
    else if c = ':' then .error .colon
    else .ok ()

/-! ### Reading -/

/-- The greatest length of an address, and of a part of one. -/
def longest : Nat := 65536

/-- The schemes that the service can be called with. -/
def schemes : List Text := ["http", "https", "ws", "wss"].map String.toList

/-- The address at the home of the service with this path and query. -/
def atHome (path query : Text) : Except Fault Address :=
  if longest < path.length then .error (.longPart "path".toList)
  else if longest < query.length then .error (.longPart "query".toList)
  else
    .ok { scheme := "http".toList, host := "testserver".toList
          path := walked ('/' :: path.dropWhile (· = '/')), query }

/-- An address without control characters that is not too long. -/
def readParts (s : Text) : Except Fault Address := do
  let s := s.takeWhile (· ≠ '#')
  let (scheme, s) := cutScheme s
  let (authority, s) :=
    match s with
    | '/' :: '/' :: rest =>
      let authority := rest.takeWhile fun c => c ≠ '/' && c ≠ '?'
      (Authority.ofText authority, rest.drop authority.length)
    | s => (Authority.ofText [], s)
  let path := s.takeWhile (· ≠ '?')
  let query := Percent.encode isQuerySafe ((s.drop path.length).drop 1)
  let host ← plainHost authority.host
  let port ← plainPort scheme authority.port
  let hasAuthority := authority.user ≠ [] ∨ host ≠ [] ∨ port ≠ none
  checkPath path (scheme ≠ []) hasAuthority
  let path := if scheme ≠ [] ∨ hasAuthority then walked path else path
  let path := Percent.encode isPathSafe path
  if scheme = [] ∨ host = [] then atHome path query
  else
    let scheme := scheme.map Char.toLower
    if schemes.contains scheme then .ok { scheme, host, port, path, query }
    else .error (.scheme scheme)

/-- The address that a text names. -/
def read (s : Text) : Except Fault Address :=
  let before := s.takeWhile fun c => !isControl c
  if longest < s.length then .error .long
  else
    match s.drop before.length with
    | c :: _ => .error (.control c before.length)
    | [] => readParts s

/-! ### Views -/

/-- The number of a port with its colon, if there is one. -/
def portText : Option Int → Text
  | none => []
  | some n => ':' :: Digits.ofInt n

/-- The host as a request names it, with its port. -/
def hostHeader (a : Address) : Text := a.host ++ portText a.port

/-- The place where a request to the address arrives: its host, with its port unless that is the
usual one. -/
def place (a : Address) : Text :=
  a.host ++ portText (if a.port = usualPorts.lookup a.scheme then none else a.port)

/-- The path that a request to the address asks for.  What has been escaped twice stands for
itself. -/
def plainPath (a : Address) : Text :=
  if a.path = [] then ['/'] else Percent.decode (Percent.decode a.path)

end Address

end Statechart.Service
