/-!
# Bytes of a text

Texts are sent as UTF-8. Received bytes are read leniently: a leading byte order mark selects the
encoding, and every maximal ill-formed part becomes one replacement character.
-/

namespace CameraConsole.Text

/-- The UTF-8 bytes of a text. -/
def bytes (s : String) : List UInt8 :=
  s.toList.flatMap String.utf8EncodeChar

/-- What stands for an ill-formed part. -/
def replacement : Char := '�'

/-! ## UTF-8 -/

/-- A character whose tail is still owed: how many bytes, the range of the next one, and the bits
read so far. -/
structure Pending where
  owed : Nat
  low : Nat
  high : Nat
  bits : Nat
  deriving DecidableEq, Repr

/-- What a byte says where a character may start: a character, a pending one, or neither. -/
inductive Lead where
  | char (c : Char)
  | pending (p : Pending)
  | illFormed
  deriving DecidableEq, Repr

def lead (b : UInt8) : Lead :=
  let n := b.toNat
  if n < 0x80 then .char (Char.ofNat n)
  else if n < 0xC2 then .illFormed
  else if n < 0xE0 then .pending ⟨1, 0x80, 0xBF, n - 0xC0⟩
  else if n = 0xE0 then .pending ⟨2, 0xA0, 0xBF, 0⟩
  else if n = 0xED then .pending ⟨2, 0x80, 0x9F, 0xD⟩
  else if n < 0xF0 then .pending ⟨2, 0x80, 0xBF, n - 0xE0⟩
  else if n = 0xF0 then .pending ⟨3, 0x90, 0xBF, 0⟩
  else if n < 0xF4 then .pending ⟨3, 0x80, 0xBF, n - 0xF0⟩
  else if n = 0xF4 then .pending ⟨3, 0x80, 0x8F, 4⟩
  else .illFormed

/-- Reads UTF-8; a byte that cannot continue a pending character starts anew. -/
def fromUtf8 : Option Pending → List UInt8 → List Char
  | none, [] => []
  | some _, [] => [replacement]
  | none, b :: bs =>
    match lead b with
    | .char c => c :: fromUtf8 none bs
    | .pending p => fromUtf8 (some p) bs
    | .illFormed => replacement :: fromUtf8 none bs
  | some p, b :: bs =>
    if p.low ≤ b.toNat ∧ b.toNat ≤ p.high then
      let bits := p.bits * 64 + (b.toNat - 0x80)
      if p.owed ≤ 1 then Char.ofNat bits :: fromUtf8 none bs
      else fromUtf8 (some ⟨p.owed - 1, 0x80, 0xBF, bits⟩) bs
    else
      match lead b with
      | .char c => replacement :: c :: fromUtf8 none bs
      | .pending q => replacement :: fromUtf8 (some q) bs
      | .illFormed => replacement :: replacement :: fromUtf8 none bs

/-- The text of well-formed UTF-8. -/
def fromUtf8? (bs : List UInt8) : Option String :=
  let s := String.ofList (fromUtf8 none bs)
  if bytes s = bs then some s else none

/-! ## UTF-16 -/

/-- Pairs bytes into units; `true` when a byte is left over. -/
def units (unit : UInt8 → UInt8 → Nat) : List UInt8 → List Nat × Bool
  | [] => ([], false)
  | [_] => ([], true)
  | a :: b :: rest =>
    let (us, odd) := units unit rest
    (unit a b :: us, odd)

/-- Reads UTF-16 units; `high` is a leading surrogate that waits for its partner. A byte left over
at the end is ill-formed together with such a surrogate. -/
def fromUnits (odd : Bool) : Option Nat → List Nat → List Char
  | none, [] => if odd then [replacement] else []
  | some _, [] => [replacement]
  | none, u :: us =>
    if 0xD800 ≤ u ∧ u ≤ 0xDBFF then fromUnits odd (some u) us
    else if 0xDC00 ≤ u ∧ u ≤ 0xDFFF then replacement :: fromUnits odd none us
    else Char.ofNat u :: fromUnits odd none us
  | some h, u :: us =>
    if 0xDC00 ≤ u ∧ u ≤ 0xDFFF then
      Char.ofNat (0x10000 + (h - 0xD800) * 0x400 + (u - 0xDC00)) :: fromUnits odd none us
    else if 0xD800 ≤ u ∧ u ≤ 0xDBFF then replacement :: fromUnits odd (some u) us
    else replacement :: Char.ofNat u :: fromUnits odd none us

def fromUtf16 (unit : UInt8 → UInt8 → Nat) (bs : List UInt8) : List Char :=
  let (us, odd) := units unit bs
  fromUnits odd none us

/-! ## Received bodies -/

/-- The text of received bytes. -/
def received (bs : List UInt8) : String :=
  String.ofList <| match bs with
    | 0xEF :: 0xBB :: 0xBF :: rest => fromUtf8 none rest
    | 0xFF :: 0xFE :: rest => fromUtf16 (fun a b => a.toNat + 256 * b.toNat) rest
    | 0xFE :: 0xFF :: rest => fromUtf16 (fun a b => 256 * a.toNat + b.toNat) rest
    | _ => fromUtf8 none bs

end CameraConsole.Text
