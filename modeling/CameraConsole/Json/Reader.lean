import CameraConsole.Json.Token

/-!
# Reading JSON

A text holds exactly one value. Lists and objects nest at most 127 deep; of members with the same
key the last counts.
-/

namespace CameraConsole.Scan

/-- The nesting level at which reading gives up. -/
def depthLimit : Nat := 128

/-- The place of the next item of a list, or none at its end. -/
def nextItem (first : Bool) (p : Cursor) : Except Fault (Option Cursor) :=
  let p := p.skipGap
  match p.rest with
  | [] => .error (p.faultNext .endInList)
  | ']' :: _ => .ok none
  | c :: _ =>
    if first then .ok (some p)
    else if c = ',' then
      let q := p.eat.skipGap
      match q.rest with
      | [] => .error (q.faultNext .endInValue)
      | ']' :: _ => .error (q.faultNext .trailingComma)
      | _ => .ok (some q)
    else .error (p.faultNext .expectedListEnd)

/-- The place of the opening quote of the next key of an object, or none at its end. -/
def nextKey (first : Bool) (p : Cursor) : Except Fault (Option Cursor) :=
  let p := p.skipGap
  match p.rest with
  | [] => .error (p.faultNext .endInObject)
  | '\x7d' :: _ => .ok none
  | c :: _ =>
    if first then
      if c = '"' then .ok (some p) else .error (p.faultNext .keyNotText)
    else if c = ',' then
      let q := p.eat.skipGap
      match q.rest with
      | [] => .error (q.faultNext .endInValue)
      | '"' :: _ => .ok (some q)
      | '\x7d' :: _ => .error (q.faultNext .trailingComma)
      | _ => .error (q.faultNext .keyNotText)
    else .error (p.faultNext .expectedObjectEnd)

/-- Passes the colon between a key and its value. -/
def colon (p : Cursor) : Except Fault Cursor :=
  let p := p.skipGap
  match p.rest with
  | ':' :: _ => .ok p.eat
  | [] => .error (p.faultNext .endInObject)
  | _ => .error (p.faultNext .expectedColon)

mutual

/-- Reads a value; `room` is how many levels of nesting are left, counting this one. Every call
passes a character before it calls again, so `fuel` bounds nothing but the length of the text. -/
def value (fuel room : Nat) (p : Cursor) : Except Fault (Json × Cursor) :=
  match fuel with
  | 0 => .error (p.fault .tooDeep)
  | fuel + 1 =>
    let p := p.skipGap
    match p.rest with
    | [] => .error (p.faultNext .endInValue)
    | 'n' :: _ => do .ok (.null, ← word ['u', 'l', 'l'] p.eat)
    | 't' :: _ => do .ok (.bool true, ← word ['r', 'u', 'e'] p.eat)
    | 'f' :: _ => do .ok (.bool false, ← word ['a', 'l', 's', 'e'] p.eat)
    | '"' :: _ => do
      let (s, q) ← quoted p.eat
      .ok (.text s, q)
    | '-' :: _ => do
      let (n, q) ← number true p.eat
      .ok (.number n, q)
    | '[' :: _ =>
      if room ≤ 1 then .error (p.faultNext .tooDeep)
      else do
        let (items, q) ← listItems fuel (room - 1) true p.eat
        .ok (.list items, q)
    | '\x7b' :: _ =>
      if room ≤ 1 then .error (p.faultNext .tooDeep)
      else do
        let (members, q) ← objectMembers fuel (room - 1) true p.eat
        .ok (.object (Json.orderMembers members), q)
    | c :: _ =>
      if c.isDigit then do
        let (n, q) ← number false p
        .ok (.number n, q)
      else .error (p.faultNext .expectedValue)

/-- Reads the items of a list and its end. -/
def listItems (fuel room : Nat) (first : Bool) (p : Cursor) : Except Fault (List Json × Cursor) :=
  match fuel with
  | 0 => .error (p.fault .tooDeep)
  | fuel + 1 => do
    match ← nextItem first p with
    | none => .ok ([], p.skipGap.eat)
    | some p =>
      let (v, q) ← value fuel room p
      let (vs, r) ← listItems fuel room false q
      .ok (v :: vs, r)

/-- Reads the members of an object, in the order of the text, and its end. -/
def objectMembers (fuel room : Nat) (first : Bool) (p : Cursor) :
    Except Fault (List (String × Json) × Cursor) :=
  match fuel with
  | 0 => .error (p.fault .tooDeep)
  | fuel + 1 => do
    match ← nextKey first p with
    | none => .ok ([], p.skipGap.eat)
    | some p =>
      let (key, q) ← quoted p.eat
      let q ← colon q
      let (v, q) ← value fuel room q
      let (rest, r) ← objectMembers fuel room false q
      .ok ((key, v) :: rest, r)

end

/-- Enough for every value that starts at `p`. -/
def fuelFor (p : Cursor) : Nat :=
  2 * p.rest.length + 2

/-- Nothing but blanks may follow a value. -/
def finish {α : Type} (result : α × Cursor) : Except Fault α :=
  let p := result.2.skipGap
  match p.rest with
  | [] => .ok result.1
  | _ => .error (p.faultNext .trailingCharacters)

end CameraConsole.Scan

namespace CameraConsole

/-- The value that a text holds. -/
def Json.ofText (s : String) : Except Fault Json := do
  let p := Cursor.ofText s
  Scan.finish (← Scan.value (Scan.fuelFor p) Scan.depthLimit p)

end CameraConsole
