import CameraConsole.Text.Percent
import CameraConsole.Text.Split

/-!
# Form encoding

Pairs of texts in the query of a URL, in the form of `application/x-www-form-urlencoded`.
-/

namespace CameraConsole.Form

/-- Letters, digits and `*-._` are kept. -/
def kept (c : Char) : Bool :=
  c.isAlphanum || c = '*' || c = '-' || c = '.' || c = '_'

def encodeChar (c : Char) : List Char :=
  if c = ' ' then ['+'] else Text.percentChar (!kept ·) c

/-- One name or value. A space becomes a plus sign. -/
def encode (s : String) : String :=
  String.ofList (s.toList.flatMap encodeChar)

/-- Reads one name or value back; ill-formed bytes become replacement characters. -/
def decode (cs : List Char) : String :=
  String.ofList <|
    Text.fromUtf8 none (Text.percentDecode (cs.map fun c => if c = '+' then ' ' else c))

/-- A pair, split at the first equals sign. -/
def decodePair (cs : List Char) : String × String :=
  (decode (cs.takeWhile (· ≠ '=')), decode ((cs.dropWhile (· ≠ '=')).drop 1))

/-- The pairs of a query, between ampersands; empty parts are none. -/
def pairs (query : String) : List (String × String) :=
  ((Text.splitAll (· = '&') query.toList).filter (· ≠ [])).map decodePair

end CameraConsole.Form
