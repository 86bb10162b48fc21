import CameraConsole.Json.Skip
import CameraConsole.Payload.Codec

/-!
# Layouts of records

A record is decoded from an object, by the names of its fields and in any order, or from a list, by
their position. Members that no field asks for are passed over. Fields with a fallback may be
absent, in a list only at its end.
-/

namespace CameraConsole

/-- The fields of a record, in the order in which they are written. -/
inductive Layout : Type → Type 1 where
  | done : Layout Unit
  | field {α ρ : Type} (name : String) (codec : Codec α) (fallback : Option α)
      (rest : Layout ρ) : Layout (α × ρ)

namespace Layout

def size {ρ : Type} : Layout ρ → Nat
  | .done => 0
  | .field _ _ _ rest => rest.size + 1

def names {ρ : Type} : Layout ρ → List String
  | .done => []
  | .field name _ _ rest => name :: rest.names

/-- The fields found so far. -/
def Draft {ρ : Type} : Layout ρ → Type
  | .done => Unit
  | .field (α := α) _ _ _ rest => Option α × Draft rest

def blank {ρ : Type} : (l : Layout ρ) → Draft l
  | .done => ()
  | .field _ _ _ rest => (none, blank rest)

/-- Decodes a member into its field. -/
def put {ρ : Type} : (l : Layout ρ) → Draft l → String → Json → Except Mismatch (Draft l)
  | .done, draft, _, _ => .ok draft
  | .field name codec _ rest, draft, key, v =>
    if key = name then do
      let x ← codec.decode v
      .ok (some x, draft.2)
    else do
      let others ← rest.put draft.2 key v
      .ok (draft.1, others)

def putAll {ρ : Type} (l : Layout ρ) :
    Draft l → List (String × Json) → Except Mismatch (Draft l)
  | draft, [] => .ok draft
  | draft, (key, v) :: rest => do
    let draft ← l.put draft key v
    putAll l draft rest

/-- The record of a draft. Of the fields that are missing the first is reported. -/
def complete {ρ : Type} : (l : Layout ρ) → Draft l → Except Mismatch ρ
  | .done, _ => .ok ()
  | .field name _ fallback rest, draft =>
    match draft.1 <|> fallback with
    | none => .error (.missing name)
    | some x => do
      let r ← rest.complete draft.2
      .ok (x, r)

/-- Decodes by position, and gives the items that are left over. -/
def positional {ρ : Type} (expected : String) :
    (l : Layout ρ) → (index : Nat) → List Json → Except Mismatch (ρ × List Json)
  | .done, _, items => .ok ((), items)
  | .field _ codec fallback rest, index, items =>
    match items, fallback with
    | [], none => .error (.wrongLength index expected)
    | [], some x => do
      let (r, left) ← positional expected rest (index + 1) []
      .ok ((x, r), left)
    | v :: items, _ => do
      let x ← codec.decode v
      let (r, left) ← positional expected rest (index + 1) items
      .ok ((x, r), left)

def encode {ρ : Type} : Layout ρ → ρ → List (String × Json)
  | .done, _ => []
  | .field name codec _ rest, (x, r) => (name, codec.encode x) :: rest.encode r

/-- What a record of this name and layout is called in a list that is too short for it. -/
def inWords {ρ : Type} (l : Layout ρ) (name : String) : String :=
  "struct " ++ name ++ " with " ++ toString l.size ++
    (if l.size = 1 then " element" else " elements")

def decode {ρ : Type} (l : Layout ρ) (name : String) : Json → Except Mismatch ρ
  | .object members => do
    let draft ← l.putAll l.blank members
    l.complete draft
  | .list items => do
    let (r, left) ← l.positional (l.inWords name) 0 items
    match left with
    | [] => .ok r
    | _ => .error (.wrongLength items.length "fewer elements in array")
  | v => .error (.wrongType v.found ("struct " ++ name))

/-! ## From a text -/

/-- Why the fields of a record could not be read: a fault of the text, or a mismatch that was
noticed at a place inside the record. -/
inductive Trouble where
  | fault (fault : Fault)
  | mismatch (mismatch : Mismatch) (place : Cursor)

def lift {α : Type} (result : Except Fault α) : Except Trouble α :=
  result.mapError .fault

/-- Reads the value after a key into its field. -/
def readField {ρ : Type} (room : Nat) :
    (l : Layout ρ) → Draft l → String → Cursor → Except Trouble (Draft l × Cursor)
  | .done, draft, _, p => do
    let p ← lift (Scan.colon p)
    let p ← lift (Scan.skipValue p)
    .ok (draft, p)
  | .field name codec _ rest, draft, key, p =>
    if key = name then
      match draft.1 with
      | some _ => .error (.mismatch (.duplicate name) p)
      | none => do
        let p ← lift (Scan.colon p)
        let (x, p) ← lift (codec.read room p)
        .ok ((some x, draft.2), p)
    else do
      let (others, p) ← rest.readField room draft.2 key p
      .ok ((draft.1, others), p)

def readMembers {ρ : Type} (l : Layout ρ) (room : Nat) :
    (fuel : Nat) → (first : Bool) → Draft l → Cursor → Except Trouble (Draft l × Cursor)
  | 0, _, _, p => .error (.fault (p.fault .tooDeep))
  | fuel + 1, first, draft, p => do
    match ← lift (Scan.nextKey first p) with
    | none => .ok (draft, p.skipGap)
    | some p =>
      let (key, p) ← lift (Scan.quoted p.eat)
      let (draft, p) ← l.readField room draft key p
      readMembers l room fuel false draft p

def readPositional {ρ : Type} (expected : String) (room : Nat) :
    (l : Layout ρ) → (index : Nat) → Cursor → Except Trouble (ρ × Cursor)
  | .done, _, p => .ok ((), p)
  | .field _ codec fallback rest, index, p => do
    match ← lift (Scan.nextItem (index == 0) p), fallback with
    | none, none => .error (.mismatch (.wrongLength index expected) p.skipGap)
    | none, some x =>
      let (r, p) ← readPositional expected room rest (index + 1) p
      .ok ((x, r), p)
    | some p, _ =>
      let (x, p) ← lift (codec.read room p)
      let (r, p) ← readPositional expected room rest (index + 1) p
      .ok ((x, r), p)

/-- Ends a record: a mismatch is reported where the closing bracket was looked for. -/
def close {α : Type} (ending : Cursor → Except Fault Unit × Cursor) :
    Except Trouble (α × Cursor) → Except Fault (α × Cursor)
  | .error (.fault f) => .error f
  | .error (.mismatch m p) => .error ((ending p).2.fault (.mismatch m))
  | .ok (x, p) =>
    match ending p with
    | (.ok (), q) => .ok (x, q)
    | (.error f, _) => .error f

def read {ρ : Type} (l : Layout ρ) (name : String) (room : Nat) (p : Cursor) :
    Except Fault (ρ × Cursor) := do
  let p ← Scan.atValue p
  match p.rest with
  | '[' :: _ =>
    if room ≤ 1 then .error (p.faultNext .tooDeep)
    else close Scan.endList (l.readPositional (l.inWords name) (room - 1) 0 p.eat)
  | '\x7b' :: _ =>
    if room ≤ 1 then .error (p.faultNext .tooDeep)
    else close Scan.endObject do
      let (draft, q) ← l.readMembers (room - 1) (p.rest.length + 1) true l.blank p.eat
      match l.complete draft with
      | .ok r => .ok (r, q)
      | .error m => .error (.mismatch m q)
  | _ => .error (Scan.unexpected ("struct " ++ name) p)

/-- The codec of a record called `name`. -/
def codec {ρ : Type} (l : Layout ρ) (name : String) : Codec ρ where
  decode := l.decode name
  read := l.read name
  encode r := .object (l.encode r)

end Layout

end CameraConsole
