/-!
# Addresses of WebSocket servers

How the URL of a connection is taken apart, and what is said about one that cannot be used. An
absolute URL has a scheme, an authority and a path with its query. Whom to connect to follows from
the authority and from a port, which the authority names or the schemes `ws` and `wss` imply.

These rules serve only the outer layer that runs, where the fault of an address has to be named. No
theorem reaches them: what is proved of a connect call holds whatever the reason of its failure.
-/
namespace WorkspaceLink

/-- Why a URL cannot be used. -/
inductive AddressFault where
  | empty
  | tooLong
  | schemeTooLong
  | invalidCharacter
  | invalidFormat
  | invalidAuthority
  | noHost
  | unsupportedScheme
  deriving DecidableEq, Repr

def AddressFault.message : AddressFault → String
  | .empty => "HTTP format error: empty string"
  | .tooLong => "HTTP format error: uri too long"
  | .schemeTooLong => "HTTP format error: scheme too long"
  | .invalidCharacter => "HTTP format error: invalid uri character"
  | .invalidFormat => "HTTP format error: invalid format"
  | .invalidAuthority => "HTTP format error: invalid authority"
  | .noHost => "URL error: No host name in the URL"
  | .unsupportedScheme => "URL error: URL scheme not supported"

structure Address where
  scheme : Option String
  authority : String
  /-- The path and the query. -/
  target : String
  deriving DecidableEq, Repr

namespace Address

def maxLength : Nat := 65534

def maxSchemeLength : Nat := 64

/-- The most colons that one part of an authority may have. -/
def maxColons : Nat := 8

def isSchemeChar (c : Char) : Bool := c.isAlphanum || "+-.~".toList.contains c

def isAuthorityChar (c : Char) : Bool :=
  c.isAlphanum || "!$&'()*+,-.:;=[]_~@".toList.contains c

def endsAuthority (c : Char) : Bool := c = '/' || c = '?' || c = '#'

/-- A character that a path or a query may hold, those apart that only one of them excludes. -/
def isTargetChar (c : Char) : Bool :=
  0x20 < c.toNat && c.toNat ≠ 0x7f && c ≠ '<' && c ≠ '>'

def isPathChar (c : Char) : Bool := isTargetChar c && c ≠ '`'

def isQueryChar (c : Char) : Bool := isTargetChar c && c ≠ '"'

/-- The scheme before `://`, if the text starts with one. -/
def splitScheme (cs : List Char) : Option (List Char) × List Char :=
  match cs.dropWhile isSchemeChar with
  | ':' :: '/' :: '/' :: rest =>
    if cs.length ≤ 3 then (none, cs) else (some (cs.takeWhile isSchemeChar), rest)
  | _ => (none, cs)

/-- What was met while an authority was read. -/
structure AuthorityScan where
  /-- Colons since the last `@` or `]`. -/
  colons : Nat := 0
  /-- A bracket was opened. -/
  opened : Bool := false
  /-- It was closed. -/
  closed : Bool := false
  /-- There was a `%` since the last `@` or `]`. -/
  percent : Bool := false
  deriving DecidableEq, Repr

/-- Read one character of an authority. What stands before `@` names a user, and what stands between
brackets is an address, so neither says anything about the port. -/
def AuthorityScan.read (scan : AuthorityScan) (c : Char) : Except AddressFault AuthorityScan :=
  if c = ':' then
    if maxColons ≤ scan.colons then .error .invalidAuthority
    else .ok { scan with colons := scan.colons + 1 }
  else if c = '[' then
    if scan.percent || scan.opened then .error .invalidAuthority
    else .ok { scan with opened := true }
  else if c = ']' then
    if !scan.opened || scan.closed then .error .invalidAuthority
    else .ok { scan with closed := true, colons := 0, percent := false }
  else if c = '@' then .ok { scan with colons := 0, percent := false }
  else if c = '%' then .ok { scan with percent := true }
  else if isAuthorityChar c then .ok scan
  else .error .invalidCharacter

/-- The authority that was read is one: its bracket is closed, and its host has at most one colon
behind it and no `%`. -/
def AuthorityScan.isSound (scan : AuthorityScan) : Bool :=
  scan.opened == scan.closed && decide (scan.colons ≤ 1) && !scan.percent

/-- The authority at the start of a text, and the text after it. -/
def splitAuthority (cs : List Char) : Except AddressFault (List Char × List Char) := do
  let authority := cs.takeWhile fun c => !endsAuthority c
  let scan ← authority.foldlM AuthorityScan.read {}
  if scan.isSound ∧ authority.getLast? ≠ some '@' then
    return (authority, cs.dropWhile fun c => !endsAuthority c)
  else throw .invalidAuthority

/-- The path and the query of a URL; a fragment is dropped. -/
def targetOf (cs : List Char) : Except AddressFault String :=
  let kept := cs.takeWhile (· ≠ '#')
  if (kept.takeWhile (· ≠ '?')).any (fun c => !isPathChar c) ||
      (kept.dropWhile (· ≠ '?')).any (fun c => !isQueryChar c) then
    .error .invalidCharacter
  else
    match kept with
    | '/' :: _ => .ok (String.ofList kept)
    | _ => .ok (String.ofList ('/' :: kept))

/-- The port that an authority names: what follows its last colon, if that is a number of at most
16 bits. -/
def port? (authority : List Char) : Option Nat :=
  if authority.contains ':' then
    let named := (authority.reverse.takeWhile (· ≠ ':')).reverse
    let digits := match named with
      | '+' :: rest => rest
      | _ => named
    if digits.isEmpty || digits.any (fun c => !c.isDigit) then none
    else
      let number := digits.foldl (fun n c => 10 * n + (c.toNat - '0'.toNat)) 0
      if number < Nat.pow 2 16 then some number else none
  else none

def impliedPort? (scheme : Option String) : Option Nat :=
  match scheme with
  | some "wss" => some 443
  | some "ws" => some 80
  | _ => none

/-- Take a URL without a scheme apart: it is an authority and nothing else. -/
def splitRelative (cs : List Char) (rest : AddressFault) : Except AddressFault Address := do
  let (authority, after) ← splitAuthority cs
  if after.isEmpty then
    return { scheme := none, authority := String.ofList authority, target := "" }
  else throw rest

/-- Take the part of a URL after its scheme apart. -/
def splitAbsolute (scheme cs : List Char) : Except AddressFault Address := do
  if maxSchemeLength < scheme.length then throw .schemeTooLong
  if cs.isEmpty then throw .empty
  let (authority, after) ← splitAuthority cs
  if authority.isEmpty then throw .invalidFormat
  let target ← targetOf after
  return { scheme := some (String.ofList scheme), authority := String.ofList authority, target }

def split (url : String) : Except AddressFault Address :=
  if maxLength < url.utf8ByteSize then .error .tooLong
  else
    match url.toList with
    | [] => .error .empty
    | '/' :: rest =>
      (targetOf ('/' :: rest)).map fun target => { scheme := none, authority := "", target }
    | ['*'] => .ok { scheme := none, authority := "", target := url }
    | [c] => splitRelative [c] .invalidCharacter
    | cs =>
      match splitScheme cs with
      | (none, rest) => splitRelative rest .invalidFormat
      | (some scheme, rest) => splitAbsolute scheme rest

/-- The address of a URL that can be connected to. -/
def ofUrl (url : String) : Except AddressFault Address := do
  let address ← split url
  if address.authority.isEmpty then throw .noHost
  match (port? address.authority.toList).or (impliedPort? address.scheme) with
  | some _ => return address
  | none => throw .unsupportedScheme

end Address

/-- What can be reached: at most one server, by its authority. -/
structure Network where
  server : Option String := none
  deriving Repr

/-- What is said when a server cannot be reached. -/
def Network.unreachable : String := "IO error: Network is unreachable (os error 101)"

/-- Try to open a connection to a URL. A server that is reached is spoken to as `ws` says. -/
def Network.dial (network : Network) (url : String) : Except String Address :=
  match Address.ofUrl url with
  | .error fault => .error fault.message
  | .ok address =>
    if network.server ≠ some address.authority then .error Network.unreachable
    else if address.scheme = some "ws" then .ok address
    else .error AddressFault.unsupportedScheme.message

end WorkspaceLink
