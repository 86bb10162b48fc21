import CameraConsole.Json.Reader

/-!
# Passing over values

A value that nobody asked for is passed without being built. Its numbers have no range, its escapes
need not pair up, and its nesting has no limit.
-/

namespace CameraConsole.Scan

/-- Passes the exponent of a number after its mark. -/
def skipExponent (p : Cursor) : Except Fault Cursor :=
  let p := match p.rest with
    | '+' :: _ | '-' :: _ => p.eat
    | _ => p
  match p.digits with
  | ([], q) => .error (q.faultNext .invalidNumber)
  | (_, q) => .ok q

/-- Passes a number after its sign. -/
def skipNumber (p : Cursor) : Except Fault Cursor :=
  match p.digits with
  | ([], q) => .error (q.faultNext .invalidNumber)
  | ('0' :: _ :: _, _) => .error (p.eat.faultNext .invalidNumber)
  | (_, q) =>
    match q.rest with
    | '.' :: _ =>
      match q.eat.digits with
      | ([], r) => .error (r.faultNext .invalidNumber)
      | (_, r) =>
        match r.rest with
        | 'e' :: _ | 'E' :: _ => skipExponent r.eat
        | _ => .ok r
    | 'e' :: _ | 'E' :: _ => skipExponent q.eat
    | _ => .ok q

/-- Passes a quoted text after its opening quote. -/
def skipQuotedFrom : TextState → List Char → Cursor → Except Fault Cursor
  | _, [], p => .error (p.fault .endInText)
  | .escape, c :: cs, p =>
    if c = 'u' then skipQuotedFrom (.unit none 0 (some 0)) cs (p.after c cs)
    else
      match escaped? c with
      | some _ => skipQuotedFrom .plain cs (p.after c cs)
      | none => .error (p.faultNext .invalidEscape)
  | .unit high passed value, c :: cs, p =>
    let value := match value, Text.hexValue? c with
      | some v, some d => some (v * 16 + d)
      | _, _ => none
    if passed + c.utf8Size < 4 then
      skipQuotedFrom (.unit high (passed + c.utf8Size) value) cs (p.after c cs)
    else
      match value with
      | some _ => skipQuotedFrom .plain cs (p.after c cs)
      | none =>
        let q := if passed + c.utf8Size = 4 then p.after c cs
          else { p with column := p.column + (4 - passed) }
        .error (q.fault .invalidEscape)
  | _, c :: cs, p =>
    if c = '"' then .ok (p.after c cs)
    else if c = '\\' then skipQuotedFrom .escape cs (p.after c cs)
    else if c.toNat < 0x20 then .error (p.fault .controlCharacter)
    else skipQuotedFrom .plain cs (p.after c cs)

def skipQuoted (p : Cursor) : Except Fault Cursor :=
  skipQuotedFrom .plain p.rest p

/-- What encloses a value that is being passed. -/
inductive Frame where
  | list
  | object
  deriving DecidableEq, Repr

/-- Passes a scalar, or the opening bracket of a list or an object. -/
def skipStart (p : Cursor) : Except Fault (Option Frame × Cursor) :=
  let p := p.skipGap
  match p.rest with
  | [] => .error (p.faultNext .endInValue)
  | 'n' :: _ => do .ok (none, ← word ['u', 'l', 'l'] p.eat)
  | 't' :: _ => do .ok (none, ← word ['r', 'u', 'e'] p.eat)
  | 'f' :: _ => do .ok (none, ← word ['a', 'l', 's', 'e'] p.eat)
  | '"' :: _ => do .ok (none, ← skipQuoted p.eat)
  | '-' :: _ => do .ok (none, ← skipNumber p.eat)
  | '[' :: _ => .ok (some .list, p.eat)
  | '\x7b' :: _ => .ok (some .object, p.eat)
  | c :: _ =>
    if c.isDigit then do .ok (none, ← skipNumber p)
    else .error (p.faultNext .expectedValue)

/-- Passes closing brackets up to the next value inside `frames`; `complete` tells whether a value
or an opening bracket stands before. Gives the frames left open, none at the end of the
outermost. -/
def skipEnds : (complete : Bool) → List Frame → Cursor → Except Fault (List Frame × Cursor)
  | _, [], p => .ok ([], p)
  | complete, frame :: outer, p =>
    let p := p.skipGap
    match p.rest, frame with
    | [], .list => .error (p.faultNext .endInList)
    | [], .object => .error (p.faultNext .endInObject)
    | ']' :: _, .list => skipEnds true outer p.eat
    | '\x7d' :: _, .object => skipEnds true outer p.eat
    | c :: _, _ =>
      if complete then
        if c = ',' then .ok (frame :: outer, p.eat)
        else .error (p.faultNext (match frame with
          | .list => .expectedListEnd
          | .object => .expectedObjectEnd))
      else .ok (frame :: outer, p)

/-- Passes a key and its colon. -/
def skipKey (p : Cursor) : Except Fault Cursor :=
  let p := p.skipGap
  match p.rest with
  | [] => .error (p.faultNext .endInObject)
  | '"' :: _ => do colon (← skipQuoted p.eat)
  | _ => .error (p.faultNext .keyNotText)

/-- Passes values until no frame is open. Every round passes a character. -/
def skipValues : (fuel : Nat) → List Frame → Cursor → Except Fault Cursor
  | 0, _, p => .error (p.fault .tooDeep)
  | fuel + 1, frames, p => do
    let (opened, q) ← skipStart p
    let (frames, q) ← match opened with
      | some frame => skipEnds false (frame :: frames) q
      | none => skipEnds true frames q
    match frames with
    | [] => .ok q
    | .object :: _ => skipValues fuel frames (← skipKey q)
    | .list :: _ => skipValues fuel frames q

/-- Passes one value. -/
def skipValue (p : Cursor) : Except Fault Cursor :=
  skipValues (p.rest.length + 1) [] p

end CameraConsole.Scan
