import CameraConsole.Json.Cursor
import CameraConsole.Text.Numeral
import CameraConsole.Text.Percent

/-!
# Tokens of a JSON text

Words, numbers and quoted texts. Each reader starts where its token does and gives the place after
it.
-/

namespace CameraConsole.Scan

/-! ## Words -/

/-- Passes exactly these characters. -/
def word : List Char → Cursor → Except Fault Cursor
  | [], p => .ok p
  | w :: ws, p =>
    match p.rest with
    | [] => .error (p.fault .endInValue)
    | c :: _ => if c = w then word ws p.eat else .error (p.faultNext .expectedWord)

/-! ## Numbers -/

/-- Appends digits to `value` while the result stays at most `limit`, and gives the digits that were
not taken. -/
def absorb (limit : Nat) : Nat → List Char → Nat × List Char
  | value, [] => (value, [])
  | value, c :: cs =>
    let next := value * 10 + (c.toNat - '0'.toNat)
    if next ≤ limit then absorb limit next cs else (value, c :: cs)

/-- `significand * 10 ^ exponent`, computed in doubles: the significand is rounded first, then
scaled by a power of ten, in two steps when one is not enough. None when the result is too large. -/
def scaled? (negative : Bool) (significand : Nat) (exponent : Int) : Option Double :=
  let d := Double.ofNat negative significand
  if 0 ≤ exponent then
    if exponent ≤ 308 then d.mulPowTen? exponent.toNat
    else if d.isZero then some d else none
  else
    let k := exponent.natAbs
    if k ≤ 308 then some (d.divPowTen k)
    else if k ≤ 616 then some ((d.divPowTen 308).divPowTen (k - 308))
    else some (Double.zero negative)

/-- The largest exponent that is read. -/
def maxExponent : Nat := 2147483647

/-- A real number whose digits end at `p`. -/
def realAt (negative : Bool) (significand : Nat) (exponent : Int) (p : Cursor) :
    Except Fault (Number × Cursor) :=
  match scaled? negative significand exponent with
  | some d => .ok (.real d, p)
  | none => .error (p.fault .numberOutOfRange)

/-- Reads the exponent after its mark. An exponent that is too large makes zero of zero and of a
negative power, and is out of range otherwise. -/
def exponentPart (negative : Bool) (significand : Nat) (start : Int) (p : Cursor) :
    Except Fault (Number × Cursor) :=
  let (down, p) := match p.rest with
    | '+' :: _ => (false, p.eat)
    | '-' :: _ => (true, p.eat)
    | _ => (false, p)
  match p.rest with
  | [] => .error (p.fault .endInValue)
  | c :: _ =>
    if c.isDigit then
      let (ds, q) := p.digits
      match absorb maxExponent 0 ds with
      | (e, []) =>
        let total : Int := if down then start - e else start + e
        realAt negative significand (max (-maxExponent - 1) (min total maxExponent)) q
      | (_, left) =>
        if significand ≠ 0 ∧ ¬ down then
          .error (Cursor.fault { p with column := p.column + (ds.length - left.length) + 1 }
            .numberOutOfRange)
        else .ok (.real (Double.zero negative), q)
    else .error (p.faultNext .invalidNumber)

/-- What may follow the digits of a significand. -/
def exponentOrEnd (negative : Bool) (significand : Nat) (exponent : Int) (p : Cursor) :
    Except Fault (Number × Cursor) :=
  match p.rest with
  | 'e' :: _ | 'E' :: _ => exponentPart negative significand exponent p.eat
  | _ => realAt negative significand exponent p

/-- Reads the digits after the point. Those for which 64 bits have no room are dropped. -/
def fractionPart (negative : Bool) (significand : Nat) (exponent : Int) (p : Cursor) :
    Except Fault (Number × Cursor) :=
  let (ds, q) := p.digits
  match ds, q.rest with
  | [], [] => .error (q.fault .endInValue)
  | [], _ => .error (q.faultNext .invalidNumber)
  | _, _ =>
    let (s, left) := absorb Text.max64 significand ds
    exponentOrEnd negative s (exponent - (ds.length - left.length : Nat)) q

/-- The number of a run of digits with neither point nor exponent. Negative zero, and what fits
neither a signed nor an unsigned word, is real. -/
def wholeNumber (negative : Bool) (significand : Nat) (dropped : Nat) (p : Cursor) :
    Except Fault (Number × Cursor) :=
  if dropped = 0 then
    if negative then
      if significand = 0 ∨ UInt64.size / 2 < significand then
        .ok (.real (Double.ofNat true significand), p)
      else .ok (.int (-significand), p)
    else .ok (.int significand, p)
  else realAt negative significand dropped p

/-- Reads a number after its sign. -/
def number (negative : Bool) (p : Cursor) : Except Fault (Number × Cursor) :=
  match p.rest with
  | [] => .error (p.fault .endInValue)
  | c :: _ =>
    if c.isDigit then
      let (ds, q) := p.digits
      if c = '0' ∧ 1 < ds.length then .error (p.eat.faultNext .invalidNumber)
      else
        let (s, left) := absorb Text.max64 0 ds
        match q.rest with
        | '.' :: _ => fractionPart negative s left.length q.eat
        | 'e' :: _ | 'E' :: _ => exponentPart negative s left.length q.eat
        | _ => wholeNumber negative s left.length q
    else .error (p.faultNext .invalidNumber)

/-! ## Quoted texts -/

/-- Where a reader stands inside a quoted text. -/
inductive TextState where
  | plain
  /-- After a backslash. -/
  | escape
  /-- In the four bytes of a code unit: the leading surrogate that waits for it, how many bytes
  were passed, and their value while all are digits. -/
  | unit (high : Option Nat) (passed : Nat) (value : Option Nat)
  /-- A leading surrogate waits for a backslash. -/
  | wantBackslash (high : Nat)
  /-- A leading surrogate waits for the letter of a code unit. -/
  | wantLetter (high : Nat)
  deriving DecidableEq, Repr

/-- The character of a one-letter escape. -/
def escaped? (c : Char) : Option Char :=
  match c with
  | '"' => some '"'
  | '\\' => some '\\'
  | '/' => some '/'
  | 'b' => some '\x08'
  | 'f' => some '\x0c'
  | 'n' => some '\n'
  | 'r' => some '\r'
  | 't' => some '\t'
  | _ => none

def isLeading (n : Nat) : Bool := 0xD800 ≤ n && n ≤ 0xDBFF

def isTrailing (n : Nat) : Bool := 0xDC00 ≤ n && n ≤ 0xDFFF

/-- What a complete code unit means: a character, or the leading surrogate that it is. -/
def unitMeaning (high : Option Nat) (n : Nat) : Except Flaw (Char ⊕ Nat) :=
  match high with
  | none =>
    if isTrailing n then .error .loneSurrogate
    else if isLeading n then .ok (.inr n)
    else .ok (.inl (Char.ofNat n))
  | some h =>
    if isTrailing n then
      .ok (.inl (Char.ofNat (0x10000 + (h - 0xD800) * 0x400 + (n - 0xDC00))))
    else .error .loneSurrogate

/-- Reads a quoted text after its opening quote; `read` holds the characters so far, the last one
first. -/
def quotedFrom : TextState → List Char → Cursor → List Char → Except Fault (String × Cursor)
  | _, [], p, _ => .error (p.fault .endInText)
  | .plain, c :: cs, p, read =>
    if c = '"' then .ok (String.ofList read.reverse, p.after c cs)
    else if c = '\\' then quotedFrom .escape cs (p.after c cs) read
    else if c.toNat < 0x20 then .error ((p.after c cs).fault .controlCharacter)
    else quotedFrom .plain cs (p.after c cs) (c :: read)
  | .escape, c :: cs, p, read =>
    if c = 'u' then quotedFrom (.unit none 0 (some 0)) cs (p.after c cs) read
    else
      match escaped? c with
      | some e => quotedFrom .plain cs (p.after c cs) (e :: read)
      | none => .error (p.faultNext .invalidEscape)
  | .unit high passed value, c :: cs, p, read =>
    let value := match value, Text.hexValue? c with
      | some v, some d => some (v * 16 + d)
      | _, _ => none
    if passed + c.utf8Size < 4 then
      quotedFrom (.unit high (passed + c.utf8Size) value) cs (p.after c cs) read
    else
      let q := if passed + c.utf8Size = 4 then p.after c cs
        else { p with column := p.column + (4 - passed) }
      match value with
      | none => .error (q.fault .invalidEscape)
      | some n =>
        match unitMeaning high n with
        | .ok (.inl e) => quotedFrom .plain cs (p.after c cs) (e :: read)
        | .ok (.inr h) => quotedFrom (.wantBackslash h) cs (p.after c cs) read
        | .error flaw => .error (q.fault flaw)
  | .wantBackslash high, c :: cs, p, read =>
    if c = '\\' then quotedFrom (.wantLetter high) cs (p.after c cs) read
    else .error (p.faultNext .unfinishedSurrogate)
  | .wantLetter high, c :: cs, p, read =>
    if c = 'u' then quotedFrom (.unit (some high) 0 (some 0)) cs (p.after c cs) read
    else .error (p.faultNext .unfinishedSurrogate)

/-- Reads a quoted text after its opening quote. -/
def quoted (p : Cursor) : Except Fault (String × Cursor) :=
  quotedFrom .plain p.rest p []

end CameraConsole.Scan
