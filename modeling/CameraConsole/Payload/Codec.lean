import CameraConsole.Json.Reader

/-!
# Codecs

How a type of payload is decoded from a JSON value, read straight from a JSON text, and written
back.
-/

namespace CameraConsole

structure Codec (α : Type) where
  decode : Json → Except Mismatch α
  /-- Reads from a text, with `room` levels of nesting left. -/
  read : (room : Nat) → Cursor → Except Fault (α × Cursor)
  encode : α → Json

namespace Scan

/-- The fault of finding something other than `expected` where a value starts. A scalar is passed
first, so that its own flaws come before. -/
def unexpected (expected : String) (p : Cursor) : Fault :=
  let wrong (found : Found) (q : Cursor) : Fault := q.fault (.mismatch (.wrongType found expected))
  let afterWord (w : List Char) (found : Found) : Fault :=
    match word w p.eat with
    | .ok q => wrong found q
    | .error f => f
  let afterNumber (n : Except Fault (Number × Cursor)) : Fault :=
    match n with
    | .ok (n, q) => wrong (.number n) q
    | .error f => f
  match p.rest with
  | 'n' :: _ => afterWord ['u', 'l', 'l'] .null
  | 't' :: _ => afterWord ['r', 'u', 'e'] (.bool true)
  | 'f' :: _ => afterWord ['a', 'l', 's', 'e'] (.bool false)
  | '-' :: _ => afterNumber (number true p.eat)
  | '"' :: _ =>
    match quoted p.eat with
    | .ok (s, q) => wrong (.text s) q
    | .error f => f
  | '[' :: _ => wrong .list p
  | '\x7b' :: _ => wrong .object p
  | c :: _ =>
    if c.isDigit then afterNumber (number false p) else p.faultNext .expectedValue
  | [] => p.faultNext .expectedValue

/-- Passes blanks up to a value that has to come. -/
def atValue (p : Cursor) : Except Fault Cursor :=
  let p := p.skipGap
  match p.rest with
  | [] => .error (p.faultNext .endInValue)
  | _ => .ok p

/-- Reads a number and turns it into what is wanted. -/
def numberAs {α : Type} (expected : String) (convert : Number → Except Mismatch α)
    (p : Cursor) : Except Fault (α × Cursor) := do
  let p ← atValue p
  let scan := match p.rest with
    | '-' :: _ => some (number true p.eat)
    | c :: _ => if c.isDigit then some (number false p) else none
    | [] => none
  match scan with
  | none => .error (unexpected expected p)
  | some result =>
    let (n, q) ← result
    match convert n with
    | .ok x => .ok (x, q)
    | .error m => .error (q.fault (.mismatch m))

/-- Passes the end of a list. Gives the place reached also when something else comes first. -/
def endList (p : Cursor) : Except Fault Unit × Cursor :=
  let p := p.skipGap
  match p.rest with
  | [] => (.error (p.faultNext .endInList), p)
  | ']' :: _ => (.ok (), p.eat)
  | ',' :: _ =>
    let q := p.eat.skipGap
    match q.rest with
    | ']' :: _ => (.error (q.faultNext .trailingComma), q)
    | _ => (.error (q.faultNext .trailingCharacters), q)
  | _ => (.error (p.faultNext .trailingCharacters), p)

/-- Passes the end of an object. -/
def endObject (p : Cursor) : Except Fault Unit × Cursor :=
  let p := p.skipGap
  match p.rest with
  | [] => (.error (p.faultNext .endInObject), p)
  | '\x7d' :: _ => (.ok (), p.eat)
  | ',' :: _ => (.error (p.faultNext .trailingComma), p)
  | _ => (.error (p.faultNext .trailingCharacters), p)

/-- Reads items up to the end of a list. -/
def itemsWith {α : Type} (item : Cursor → Except Fault (α × Cursor)) :
    (fuel : Nat) → (first : Bool) → Cursor → Except Fault (List α × Cursor)
  | 0, _, p => .error (p.fault .tooDeep)
  | fuel + 1, first, p => do
    match ← nextItem first p with
    | none => .ok ([], p.skipGap.eat)
    | some p =>
      let (x, q) ← item p
      let (xs, r) ← itemsWith item fuel false q
      .ok (x :: xs, r)

end Scan

namespace Codec

def text : Codec String where
  decode
    | .text s => .ok s
    | v => .error (.wrongType v.found "a string")
  read _ p := do
    let p ← Scan.atValue p
    match p.rest with
    | '"' :: _ => Scan.quoted p.eat
    | _ => .error (Scan.unexpected "a string" p)
  encode := .text

def bool : Codec Bool where
  decode
    | .bool b => .ok b
    | v => .error (.wrongType v.found "a boolean")
  read _ p := do
    let p ← Scan.atValue p
    match p.rest with
    | 't' :: _ => .ok (true, ← Scan.word ['r', 'u', 'e'] p.eat)
    | 'f' :: _ => .ok (false, ← Scan.word ['a', 'l', 's', 'e'] p.eat)
    | _ => .error (Scan.unexpected "a boolean" p)
  encode := .bool

/-- A natural number up to `limit`, for a type of that size. -/
def unsignedOf (limit : Nat) (expected : String) : Number → Except Mismatch Nat
  | .int i =>
    if 0 ≤ i ∧ i ≤ limit then .ok i.toNat else .error (.wrongValue i expected)
  | .real d => .error (.wrongType (.number (.real d)) expected)

def unsigned {α : Type} (limit : Nat) (expected : String) (ofNat : Nat → α)
    (toNat : α → Nat) : Codec α where
  decode
    | .number n => do .ok (ofNat (← unsignedOf limit expected n))
    | v => .error (.wrongType v.found expected)
  read _ p := Scan.numberAs expected (fun n => do .ok (ofNat (← unsignedOf limit expected n))) p
  encode x := .number (.int (toNat x))

def uint32 : Codec UInt32 :=
  unsigned Text.max32 "u32" UInt32.ofNat UInt32.toNat

def uint64 : Codec UInt64 :=
  unsigned Text.max64 "u64" UInt64.ofNat UInt64.toNat

/-- A double; integers are rounded to one. -/
def realOf : Number → Double
  | .int i => Double.ofInt i
  | .real d => d

def real : Codec Double where
  decode
    | .number n => .ok (realOf n)
    | v => .error (.wrongType v.found "f64")
  read _ p := Scan.numberAs "f64" (fun n => .ok (realOf n)) p
  encode d := .number (.real d)

/-- Any value, as it is. -/
def json : Codec Json where
  decode := .ok
  read room p := Scan.value (Scan.fuelFor p) room p
  encode v := v

/-- An object of any members. -/
def members : Codec (List (String × Json)) where
  decode
    | .object ms => .ok ms
    | v => .error (.wrongType v.found "a map")
  read room p := do
    let p ← Scan.atValue p
    match p.rest with
    | '\x7b' :: _ =>
      if room ≤ 1 then .error (p.faultNext .tooDeep)
      else
        let (ms, q) ← Scan.objectMembers (Scan.fuelFor p) (room - 1) true p.eat
        .ok (Json.orderMembers ms, q)
    | _ => .error (Scan.unexpected "a map" p)
  encode := .object

/-- A value or null. -/
def option {α : Type} (c : Codec α) : Codec (Option α) where
  decode
    | .null => .ok none
    | v => do .ok (some (← c.decode v))
  read room p :=
    let q := p.skipGap
    match q.rest with
    | 'n' :: _ => do .ok (none, ← Scan.word ['u', 'l', 'l'] q.eat)
    | _ => do
      let (x, q) ← c.read room q
      .ok (some x, q)
  encode
    | none => .null
    | some x => c.encode x

def decodeItems {α : Type} (decode : Json → Except Mismatch α) :
    List Json → Except Mismatch (List α)
  | [] => .ok []
  | v :: rest => do
    let x ← decode v
    let xs ← decodeItems decode rest
    .ok (x :: xs)

def list {α : Type} (c : Codec α) : Codec (List α) where
  decode
    | .list items => decodeItems c.decode items
    | v => .error (.wrongType v.found "a sequence")
  read room p := do
    let p ← Scan.atValue p
    match p.rest with
    | '[' :: _ =>
      if room ≤ 1 then .error (p.faultNext .tooDeep)
      else Scan.itemsWith (c.read (room - 1)) (p.rest.length + 1) true p.eat
    | _ => .error (Scan.unexpected "a sequence" p)
  encode xs := .list (xs.map c.encode)

/-- Reads a text that holds exactly one payload. -/
def ofText {α : Type} (c : Codec α) (s : String) : Except Fault α := do
  Scan.finish (← c.read Scan.depthLimit (Cursor.ofText s))

/-- A codec for a type whose values are built from those of `c` and taken apart into them. -/
def map {α β : Type} (c : Codec α) (build : α → β) (fields : β → α) : Codec β where
  decode v := do .ok (build (← c.decode v))
  read room p := do
    let (x, q) ← c.read room p
    .ok (build x, q)
  encode y := c.encode (fields y)

end Codec

end CameraConsole
