/-!
# URLs

The parts of a URL and its text. Parts are kept as they are written, percent-encoded.
-/

namespace CameraConsole

inductive UrlFault where
  | relativeWithoutBase
  | relativeToFlatBase
  | emptyHost
  | invalidPort
  | invalidIpv4
  | invalidIpv6
  | invalidInternationalName
  | invalidHostCharacter
  deriving DecidableEq, Repr

def UrlFault.message : UrlFault → String
  | .relativeWithoutBase => "relative URL without a base"
  | .relativeToFlatBase => "relative URL with a cannot-be-a-base base"
  | .emptyHost => "empty host"
  | .invalidPort => "invalid port number"
  | .invalidIpv4 => "invalid IPv4 address"
  | .invalidIpv6 => "invalid IPv6 address"
  | .invalidInternationalName => "invalid international domain name"
  | .invalidHostCharacter => "invalid domain character"

/-- Who serves a URL, and as whom to ask. -/
structure Authority where
  username : String
  password : Option String
  host : String
  /-- Left out when it is the default of the scheme. -/
  port : Option Nat
  deriving DecidableEq, Repr

inductive UrlPath where
  /-- The path of a URL that nothing is relative to, such as an address after `mailto:`. -/
  | flat (text : String)
  /-- Segments, each with a slash before it. -/
  | nested (segments : List String)
  deriving DecidableEq, Repr

structure Url where
  scheme : String
  authority : Option Authority
  path : UrlPath
  query : Option String
  fragment : Option String
  deriving DecidableEq, Repr

/-! ## Schemes -/

inductive SchemeKind where
  | web
  | file
  | other
  deriving DecidableEq, Repr

def schemeKind (scheme : String) : SchemeKind :=
  if scheme ∈ ["http", "https", "ws", "wss", "ftp"] then .web
  else if scheme = "file" then .file
  else .other

/-- Backslashes count as slashes in the URLs of these schemes, and a path is never empty. -/
def SchemeKind.special (k : SchemeKind) : Bool :=
  k ≠ .other

def defaultPort? : String → Option Nat
  | "http" | "ws" => some 80
  | "https" | "wss" => some 443
  | "ftp" => some 21
  | _ => none

/-! ## Text -/

def UrlPath.text : UrlPath → String
  | .flat t => t
  | .nested segments => segments.foldr (fun s rest => "/" ++ s ++ rest) ""

/-- User name and password with the sign after them; nothing when both are absent. -/
def Authority.userText (a : Authority) : String :=
  match a.username, a.password with
  | "", none => ""
  | u, none => u ++ "@"
  | u, some p => u ++ ":" ++ p ++ "@"

def Authority.portText (a : Authority) : String :=
  match a.port with
  | none => ""
  | some p => ":" ++ toString p

def Authority.text (a : Authority) : String :=
  "//" ++ a.userText ++ a.host ++ a.portText

namespace Url

/-- Keeps a path that starts with two slashes from reading as an authority. -/
def pathGuard (u : Url) : String :=
  match u.authority, u.path with
  | none, .nested ("" :: _ :: _) => "/."
  | _, _ => ""

def queryText (u : Url) : String :=
  match u.query with
  | none => ""
  | some q => "?" ++ q

def fragmentText (u : Url) : String :=
  match u.fragment with
  | none => ""
  | some f => "#" ++ f

def text (u : Url) : String :=
  u.scheme ++ ":" ++ (u.authority.map Authority.text).getD "" ++ u.pathGuard ++ u.path.text ++
    u.queryText ++ u.fragmentText

def host? (u : Url) : Option String :=
  u.authority.bind fun a => if a.host = "" then none else some a.host

/-- Whether the host has only characters that may stand in a request. -/
def hostIsPlain (u : Url) : Bool :=
  (u.host?.getD "").toList.all fun c => !("\"`\x7b\x7d".toList.contains c)

/-- The port, or the default of the scheme. -/
def port? (u : Url) : Option Nat :=
  (u.authority.bind Authority.port) <|> defaultPort? u.scheme

def segments (u : Url) : List String :=
  match u.path with
  | .flat _ => []
  | .nested s => s

/-- The URL without user name and password. -/
def withoutUser (u : Url) : Url :=
  { u with authority := u.authority.map fun a => { a with username := "", password := none } }

def withoutFragment (u : Url) : Url :=
  { u with fragment := none }

end Url

end CameraConsole
