import CameraConsole.Text.Blank
import CameraConsole.Url.Host

/-!
# Reading URLs

A reference is an absolute URL or is resolved against a base. Blanks around it do not count, nor do
breaks, the tabs and line ends inside it. Only in the path of a file a break can show.
-/

namespace CameraConsole.Url

/-! ## What is percent-encoded where -/

def isControl (c : Char) : Bool :=
  c.toNat < 0x20 || c.toNat = 0x7F

def inFragment (c : Char) : Bool :=
  isControl c || " \"<>`".toList.contains c

def inPath (c : Char) : Bool :=
  inFragment c || "#?\x7b\x7d".toList.contains c

def inUser (c : Char) : Bool :=
  inPath c || "/:;=@[\\]^|".toList.contains c

def inQuery (k : SchemeKind) (c : Char) : Bool :=
  isControl c || " \"#<>".toList.contains c || (k.special && c = '\x27')

def encoded (escaped : Char → Bool) (cs : List Char) : String :=
  String.ofList (Text.percentEncode escaped cs)

/-! ## Pieces -/

def isBreak (c : Char) : Bool :=
  c = '\t' || c = '\n' || c = '\r'

/-- The characters that count. -/
def unbroken (raw : List Char) : List Char :=
  raw.filter (!isBreak ·)

/-- What follows the first `n` characters that count. -/
def beyond : (n : Nat) → (raw : List Char) → List Char
  | 0, raw => raw
  | _, [] => []
  | n + 1, c :: raw => if isBreak c then beyond (n + 1) raw else beyond n raw

/-- A reference without the blanks around it. -/
def trimmed (s : String) : List Char :=
  Text.trimBoth (·.toNat ≤ 0x20) s.toList

def isSchemeChar (c : Char) : Bool :=
  c.isAlphanum || c = '+' || c = '-' || c = '.'

/-- The scheme before the first colon, in lower case, and what follows it. -/
def splitScheme (raw : List Char) : Option (String × List Char) :=
  let inScheme (c : Char) := isSchemeChar c || isBreak c
  match unbroken (raw.takeWhile inScheme), raw.dropWhile inScheme with
  | c :: cs, ':' :: rest =>
    if c.isAlpha then some (String.ofList ((c :: cs).map Char.toLower), rest) else none
  | _, _ => none

def isSlash (k : SchemeKind) (c : Char) : Bool :=
  c = '/' || (k.special && c = '\\')

/-- What ends an authority. -/
def endsAuthority (k : SchemeKind) (c : Char) : Bool :=
  isSlash k c || c = '?' || c = '#'

def endsPath (c : Char) : Bool :=
  c = '?' || c = '#'

/-- Query and fragment, from the character that starts them. -/
def tailParts (k : SchemeKind) (cs : List Char) : Option String × Option String :=
  match cs with
  | '?' :: rest =>
    let query := encoded (inQuery k) (rest.takeWhile (· ≠ '#'))
    match rest.dropWhile (· ≠ '#') with
    | '#' :: f => (some query, some (encoded inFragment f))
    | _ => (some query, none)
  | '#' :: f => (none, some (encoded inFragment f))
  | _ => (none, none)

/-! ## Paths -/

/-- A dot, plain or percent-encoded. -/
def dropDot : List Char → Option (List Char)
  | '.' :: rest => some rest
  | '%' :: '2' :: 'e' :: rest | '%' :: '2' :: 'E' :: rest => some rest
  | _ => none

def isSingleDot (cs : List Char) : Bool :=
  dropDot cs = some []

def isDoubleDot (cs : List Char) : Bool :=
  (dropDot cs).bind dropDot = some []

/-- A letter and a colon, or a bar in place of the colon. -/
def isDrive (cs : List Char) : Bool :=
  match cs with
  | [a, b] => a.isAlpha && (b = ':' || b = '|')
  | _ => false

/-- Whether a segment is a drive, or is one up to a backslash. -/
def isDriveSegment (s : String) : Bool :=
  isDrive (s.toList.takeWhile (· ≠ '\\'))

/-- Steps out of the last segment. A drive stays. -/
def leave (segments : List String) : List String :=
  if segments.getLast?.any isDriveSegment then segments else segments.dropLast

/-- A drive and what stands below it, where only a break parts the two. -/
def splitDrive (raw : List Char) : Option (List Char × List Char) :=
  match unbroken raw, beyond 2 raw with
  | a :: ':' :: c :: cs, b :: _ =>
    if a.isAlpha && isBreak b then some ([a, ':'], c :: cs) else none
  | _, _ => none

/-- The first segments of the path of a file. A drive is written with a colon, and a break after it
counts as a slash. -/
def enterRoot (raw : List Char) : List String :=
  match splitDrive raw, unbroken raw with
  | some (drive, below), _ => [String.ofList drive, encoded inPath below]
  | none, [a, b] => if isDrive [a, b] then [String.ofList [a, ':']] else [encoded inPath [a, b]]
  | none, part => [encoded inPath part]

/-- Steps into a segment. -/
def enter (k : SchemeKind) (segments : List String) (raw : List Char) : List String :=
  if k = .file ∧ segments = [] then enterRoot raw
  else segments ++ [encoded inPath (unbroken raw)]

/-- Follows a part of a path: a dot stays, two dots step out, all else steps in. -/
def step (k : SchemeKind) (segments : List String) (raw : List Char) : List String :=
  if isDoubleDot (unbroken raw) then leave segments
  else if isSingleDot (unbroken raw) then segments
  else enter k segments raw

/-- Walks from `segments` along the parts of a path. Dots at its end leave an empty segment. -/
def walk (k : SchemeKind) : List String → List (List Char) → List String
  | segments, [] => segments
  | segments, [last] =>
    if isSingleDot (unbroken last) || isDoubleDot (unbroken last) then step k segments last ++ [""]
    else step k segments last
  | segments, part :: parts => walk k (step k segments part) parts

/-- Whether a walk through a file system steps from its root into a drive. -/
def meetsDrive : List String → List (List Char) → Bool
  | _, [] => false
  | segments, part :: parts =>
    (segments = [] && isDrive (unbroken part)) || meetsDrive (step .file segments part) parts

/-- The parts of a path between slashes. -/
def pathParts (k : SchemeKind) (cs : List Char) : List (List Char) :=
  Text.splitAll (isSlash k) cs

/-- Drops the empty segments before the first other one. -/
def dropEmpty : List String → List String
  | "" :: s :: rest => dropEmpty (s :: rest)
  | segments => segments

/-- The segments that the path `cs` leads to from `start`. -/
def segmentsFrom (k : SchemeKind) (start : List String) (cs : List Char) : List String :=
  let segments := walk k start (pathParts k cs)
  if k = .file then dropEmpty segments else segments

/-- The URL with the path that `cs` leads to from `start`, and the query and fragment after it. -/
def withPath (u : Url) (k : SchemeKind) (start : List String) (cs : List Char) : Url :=
  let (query, fragment) := tailParts k (unbroken (cs.dropWhile (!endsPath ·)))
  { u with
    path := .nested (segmentsFrom k start (cs.takeWhile (!endsPath ·)))
    query, fragment }

/-- The URL with the path after its authority. -/
def withRootedPath (u : Url) (k : SchemeKind) (cs : List Char) : Url :=
  match cs with
  | [] =>
    if k.special then withPath u k [] []
    else { u with path := .nested [], query := none, fragment := none }
  | c :: rest =>
    if isSlash k c then withPath u k [] rest
    else if endsPath c && !k.special then
      let (query, fragment) := tailParts k cs
      { u with path := .nested [], query, fragment }
    else withPath u k [] cs

/-! ## Authorities -/

/-- Splits at the last `@`. -/
def splitUser (cs : List Char) : Option (List Char × List Char) :=
  match cs.reverse.dropWhile (· ≠ '@') with
  | [] => none
  | _ :: user => some (user.reverse, (cs.reverse.takeWhile (· ≠ '@')).reverse)

/-- User name and password; an empty password is none. -/
def userParts (cs : List Char) : String × Option String :=
  match cs.dropWhile (· ≠ ':') with
  | [] | [_] => (encoded inUser (cs.takeWhile (· ≠ ':')), none)
  | _ :: password =>
    (encoded inUser (cs.takeWhile (· ≠ ':')), some (encoded inUser password))

/-- Splits before the colon of the port, which is the first outside of brackets. -/
def splitPort : (inside : Bool) → List Char → List Char × List Char
  | _, [] => ([], [])
  | inside, c :: cs =>
    if c = ':' && !inside then ([], c :: cs)
    else
      let inside := if c = '[' then true else if c = ']' then false else inside
      let (host, port) := splitPort inside cs
      (c :: host, port)

/-- The port after its colon, and what is left; none when it is empty or the default of the
scheme. -/
def readPort (scheme : String) (cs : List Char) : Except UrlFault (Option Nat × List Char) :=
  let digits := cs.takeWhile Char.isDigit
  let rest := cs.dropWhile Char.isDigit
  match Text.readDigits 65535 0 digits with
  | .error _ => .error .invalidPort
  | .ok port =>
    match rest with
    | [] | '\\' :: _ =>
      .ok (if digits = [] ∨ some port = defaultPort? scheme then none else some port, rest)
    | _ => .error .invalidPort

/-- The authority of a URL that is not a file's, and what is left before the path. -/
def readAuthority (scheme : String) (cs : List Char) (more : Bool) :
    Except UrlFault (Authority × List Char) := do
  let k := schemeKind scheme
  let ((username, password), address) ← match splitUser cs with
    | none => .ok (("", none), cs)
    | some ([], []) => if more then .error .emptyHost else .ok (("", none), [])
    | some (user, address) => .ok (userParts user, address)
  let (hostText, portText) := splitPort false address
  if hostText = [] ∧ (k.special ∨ portText ≠ [] ∨ username ≠ "" ∨ password ≠ none) then
    .error .emptyHost
  let host ← if k.special then Host.web hostText else Host.elsewhere hostText
  let (port, rest) ← match portText with
    | [] => .ok (none, [])
    | _ :: digits => readPort scheme digits
  .ok ({ username, password, host := String.ofList host, port }, rest)

/-- A URL from its authority on. -/
def afterSlashes (scheme : String) (cs : List Char) : Except UrlFault Url := do
  let k := schemeKind scheme
  let rest := cs.dropWhile (!endsAuthority k ·)
  let (authority, left) ←
    readAuthority scheme (cs.takeWhile (!endsAuthority k ·)) (rest ≠ [])
  let u : Url :=
    { scheme, authority := some authority, path := .nested [], query := none, fragment := none }
  .ok (u.withRootedPath k (left ++ rest))

/-! ## Files -/

/-- The URL of a file on a host. A drive is on no host. -/
def fileOn (host : String) (raw : List Char) : Url :=
  let drive := meetsDrive [] (pathParts .file (raw.takeWhile (!endsPath ·)))
  let u : Url :=
    { scheme := "file", authority := some ⟨"", none, if drive then "" else host, none⟩,
      path := .nested [], query := none, fragment := none }
  u.withPath .file [] raw

/-- The URL of a file after its scheme. After two slashes stands the host; `localhost` and a drive
are none. -/
def fileUrl (raw : List Char) : Except UrlFault Url := do
  let cs := unbroken raw
  match (cs.takeWhile (isSlash .file)).length with
  | 0 => .ok (fileOn "" raw)
  | 1 => .ok (fileOn "" (beyond 1 raw))
  | _ =>
    let hostText := (cs.drop 2).takeWhile (!endsAuthority .file ·)
    if hostText = [] ∨ isDrive hostText then .ok (fileOn "" (beyond 2 raw))
    else
      let host := String.ofList (← Host.web hostText)
      let path := beyond (2 + hostText.length) raw
      if host = "localhost" then .ok (fileOn "" path)
      else if (unbroken path).head?.any (isSlash .file) then .ok (fileOn host (beyond 1 path))
      else .ok (fileOn host path)

/-! ## References -/

/-- A URL of any other scheme, after its scheme. -/
def otherUrl (scheme : String) (cs : List Char) : Except UrlFault Url :=
  let u : Url := { scheme, authority := none, path := .nested [], query := none, fragment := none }
  match cs with
  | '/' :: '/' :: rest => afterSlashes scheme rest
  | '/' :: rest => .ok (u.withPath .other [] rest)
  | _ =>
    let (query, fragment) := tailParts .other (cs.dropWhile (!endsPath ·))
    .ok { u with path := .flat (encoded isControl (cs.takeWhile (!endsPath ·))), query, fragment }

/-- A URL after its scheme. -/
def absolute (scheme : String) (raw : List Char) : Except UrlFault Url :=
  match schemeKind scheme with
  | .file => fileUrl raw
  | .web => afterSlashes scheme ((unbroken raw).dropWhile (isSlash .web))
  | .other => otherUrl scheme (unbroken raw)

/-- A reference without a scheme, against a base with a nested path. Exactly two slashes lead to an
authority; of a run with backslashes in it all count as those two. -/
def relative (base : Url) (cs : List Char) : Except UrlFault Url :=
  let k := schemeKind base.scheme
  match cs with
  | [] => .ok base.withoutFragment
  | '?' :: _ =>
    let (query, fragment) := tailParts k cs
    .ok { base with query, fragment }
  | '#' :: _ => .ok { base with fragment := (tailParts k cs).2 }
  | c :: rest =>
    if isSlash k c then
      match rest with
      | d :: below =>
        if c = '/' && d = '/' then afterSlashes base.scheme below
        else if isSlash k d then afterSlashes base.scheme (cs.dropWhile (isSlash k))
        else .ok (base.withPath k [] rest)
      | [] => .ok (base.withPath k [] rest)
    else .ok (base.withPath k base.segments.dropLast cs)

/-- The URL that a text is. -/
def ofText (s : String) : Except UrlFault Url :=
  match splitScheme (trimmed s) with
  | some (scheme, rest) => absolute scheme rest
  | none => .error .relativeWithoutBase

/-- The URL that a reference means at `base`. A reference with the scheme of a web base and without
two slashes is relative to it. -/
def join (base : Url) (reference : String) : Except UrlFault Url :=
  match splitScheme (trimmed reference) with
  | some (scheme, rest) =>
    if scheme = base.scheme ∧ schemeKind scheme = .web ∧
        ((unbroken rest).takeWhile (isSlash .web)).length < 2 then relative base (unbroken rest)
    else absolute scheme rest
  | none =>
    match base.path, unbroken (trimmed reference) with
    | .flat _, '#' :: rest => .ok { base with fragment := (tailParts .other ('#' :: rest)).2 }
    | .flat _, _ => .error .relativeToFlatBase
    | .nested _, cs => relative base cs

end CameraConsole.Url
