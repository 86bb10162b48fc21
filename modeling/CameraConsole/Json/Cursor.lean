import CameraConsole.Json.Mismatch

/-!
# Places in a JSON text

What is left of a text, with the line and the column before it. Lines count from one; columns count
the bytes since the last line break.
-/

namespace CameraConsole

/-- What can be wrong with a JSON text. -/
inductive Flaw where
  | endInList
  | endInObject
  | endInText
  | endInValue
  | expectedColon
  | expectedListEnd
  | expectedObjectEnd
  | expectedWord
  | expectedValue
  | invalidEscape
  | invalidNumber
  | numberOutOfRange
  | controlCharacter
  | keyNotText
  | loneSurrogate
  | unfinishedSurrogate
  | trailingComma
  | trailingCharacters
  | tooDeep
  | mismatch (mismatch : Mismatch)
  deriving DecidableEq

def Flaw.message : Flaw → String
  | .endInList => "EOF while parsing a list"
  | .endInObject => "EOF while parsing an object"
  | .endInText => "EOF while parsing a string"
  | .endInValue => "EOF while parsing a value"
  | .expectedColon => "expected `:`"
  | .expectedListEnd => "expected `,` or `]`"
  | .expectedObjectEnd => "expected `,` or `\x7d`"
  | .expectedWord => "expected ident"
  | .expectedValue => "expected value"
  | .invalidEscape => "invalid escape"
  | .invalidNumber => "invalid number"
  | .numberOutOfRange => "number out of range"
  | .controlCharacter => "control character (\\u0000-\\u001F) found while parsing a string"
  | .keyNotText => "key must be a string"
  | .loneSurrogate => "lone leading surrogate in hex escape"
  | .unfinishedSurrogate => "unexpected end of hex escape"
  | .trailingComma => "trailing comma"
  | .trailingCharacters => "trailing characters"
  | .tooDeep => "recursion limit exceeded"
  | .mismatch m => m.message

structure Fault where
  flaw : Flaw
  line : Nat
  column : Nat
  deriving DecidableEq

def Fault.message (f : Fault) : String :=
  f.flaw.message ++ " at line " ++ toString f.line ++ " column " ++ toString f.column

structure Cursor where
  rest : List Char
  line : Nat
  column : Nat
  deriving DecidableEq, Repr

namespace Cursor

def ofText (s : String) : Cursor :=
  ⟨s.toList, 1, 0⟩

/-- The place after `c`, with `rest` left. -/
def after (p : Cursor) (c : Char) (rest : List Char) : Cursor :=
  if c = '\n' then ⟨rest, p.line + 1, 0⟩ else ⟨rest, p.line, p.column + c.utf8Size⟩

/-- Passes the next character. -/
def eat (p : Cursor) : Cursor :=
  match p.rest with
  | [] => p
  | c :: rest => p.after c rest

/-- A fault at this place. -/
def fault (p : Cursor) (flaw : Flaw) : Fault :=
  ⟨flaw, p.line, p.column⟩

/-- A fault that counts the first byte of the next character as passed. -/
def faultNext (p : Cursor) (flaw : Flaw) : Fault :=
  match p.rest with
  | [] => ⟨flaw, p.line, p.column⟩
  | '\n' :: _ => ⟨flaw, p.line + 1, 0⟩
  | _ :: _ => ⟨flaw, p.line, p.column + 1⟩

/-- The blanks between the tokens of a JSON text. -/
def isGap (c : Char) : Bool :=
  c = ' ' || c = '\n' || c = '\t' || c = '\r'

def skipGapFrom : List Char → Cursor → Cursor
  | [], p => p
  | c :: rest, p => if isGap c then skipGapFrom rest (p.after c rest) else p

def skipGap (p : Cursor) : Cursor :=
  skipGapFrom p.rest p

/-- The digits that come next, and the place after them. -/
def digits (p : Cursor) : List Char × Cursor :=
  let ds := p.rest.takeWhile Char.isDigit
  (ds, ⟨p.rest.dropWhile Char.isDigit, p.line, p.column + ds.length⟩)

end Cursor

end CameraConsole
