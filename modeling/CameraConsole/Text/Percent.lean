import CameraConsole.Text.Bytes

/-!
# Percent encoding

A byte is written as `%` and two upper-case hexadecimal digits. Reading leaves a `%` that no two
digits follow as it is.
-/

namespace CameraConsole.Text

/-- The upper-case hexadecimal digit of a number below sixteen. -/
def hexDigit (n : Nat) : Char :=
  if n < 10 then Char.ofNat (48 + n) else Char.ofNat (55 + n)

/-- The value of a hexadecimal digit of either case. -/
def hexValue? (c : Char) : Option Nat :=
  if '0' ≤ c ∧ c ≤ '9' then some (c.toNat - 48)
  else if 'A' ≤ c ∧ c ≤ 'F' then some (c.toNat - 55)
  else if 'a' ≤ c ∧ c ≤ 'f' then some (c.toNat - 87)
  else none

def percentByte (b : UInt8) : List Char :=
  ['%', hexDigit (b.toNat / 16), hexDigit (b.toNat % 16)]

/-- Writes a character's bytes in percent form when `escaped` holds of it or it is not ASCII. -/
def percentChar (escaped : Char → Bool) (c : Char) : List Char :=
  if c.toNat < 0x80 && !escaped c then [c] else (String.utf8EncodeChar c).flatMap percentByte

def percentEncode (escaped : Char → Bool) (cs : List Char) : List Char :=
  cs.flatMap (percentChar escaped)

/-- The bytes that a percent-encoded text stands for. -/
def percentDecode : List Char → List UInt8
  | [] => []
  | '%' :: a :: b :: rest =>
    match hexValue? a, hexValue? b with
    | some x, some y => UInt8.ofNat (x * 16 + y) :: percentDecode rest
    | _, _ => String.utf8EncodeChar '%' ++ percentDecode (a :: b :: rest)
  | c :: rest => String.utf8EncodeChar c ++ percentDecode rest

end CameraConsole.Text
