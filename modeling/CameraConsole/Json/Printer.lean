import CameraConsole.Json.Basic
import CameraConsole.Number.Shortest

/-!
# Writing JSON

The compact text of a value, and the indented one for people. Members are written as listed.
-/

namespace CameraConsole

/-- The digits of an integer, with a minus sign below zero. -/
def intText (i : Int) : List Char :=
  if i < 0 then '-' :: Nat.toDigits 10 i.natAbs else Nat.toDigits 10 i.natAbs

def Number.text : Number → List Char
  | .int i => intText i
  | .real d => d.text

namespace Json

/-- Quotes, backslashes and control characters are escaped; all else stands for itself. -/
def escapeChar (c : Char) : List Char :=
  if c = '"' then ['\\', '"']
  else if c = '\\' then ['\\', '\\']
  else if c = '\x08' then ['\\', 'b']
  else if c = '\x0c' then ['\\', 'f']
  else if c = '\n' then ['\\', 'n']
  else if c = '\r' then ['\\', 'r']
  else if c = '\t' then ['\\', 't']
  else if c.toNat < 0x20 then
    ['\\', 'u', '0', '0', Nat.digitChar (c.toNat / 16), Nat.digitChar (c.toNat % 16)]
  else [c]

def textChars (s : String) : List Char :=
  '"' :: (s.toList.flatMap escapeChar ++ ['"'])

def scalarChars : Json → List Char
  | .null => ['n', 'u', 'l', 'l']
  | .bool true => ['t', 'r', 'u', 'e']
  | .bool false => ['f', 'a', 'l', 's', 'e']
  | .number n => n.text
  | .text s => textChars s
  | .list _ | .object _ => []

/-! ## Compact -/

mutual

def chars : Json → List Char
  | .list [] => ['[', ']']
  | .list (v :: rest) => '[' :: (v.chars ++ itemChars rest)
  | .object [] => ['\x7b', '\x7d']
  | .object ((k, v) :: rest) => '\x7b' :: (textChars k ++ ':' :: (v.chars ++ memberChars rest))
  | v => v.scalarChars

/-- The items after the first, and the end of the list. -/
def itemChars : List Json → List Char
  | [] => [']']
  | v :: rest => ',' :: (v.chars ++ itemChars rest)

/-- The members after the first, and the end of the object. -/
def memberChars : List (String × Json) → List Char
  | [] => ['\x7d']
  | (k, v) :: rest => ',' :: (textChars k ++ ':' :: (v.chars ++ memberChars rest))

end

def render (v : Json) : String :=
  String.ofList v.chars

/-! ## Indented -/

/-- A new line, two spaces deep for every level. -/
def newline (level : Nat) : List Char :=
  '\n' :: List.replicate (2 * level) ' '

mutual

def indentedChars (level : Nat) : Json → List Char
  | .list [] => ['[', ']']
  | .list (v :: rest) =>
    '[' :: (newline (level + 1) ++ v.indentedChars (level + 1) ++ indentedItems level rest)
  | .object [] => ['\x7b', '\x7d']
  | .object ((k, v) :: rest) =>
    '\x7b' :: (newline (level + 1) ++ textChars k ++ ':' :: ' ' :: v.indentedChars (level + 1) ++
      indentedMembers level rest)
  | v => v.scalarChars

def indentedItems (level : Nat) : List Json → List Char
  | [] => newline level ++ [']']
  | v :: rest =>
    ',' :: (newline (level + 1) ++ v.indentedChars (level + 1) ++ indentedItems level rest)

def indentedMembers (level : Nat) : List (String × Json) → List Char
  | [] => newline level ++ ['\x7d']
  | (k, v) :: rest =>
    ',' :: (newline (level + 1) ++ textChars k ++ ':' :: ' ' :: v.indentedChars (level + 1) ++
      indentedMembers level rest)

end

def renderIndented (v : Json) : String :=
  String.ofList (v.indentedChars 0)

end Json

end CameraConsole
