/-!
# Unsigned numerals

Decimal numerals with an optional plus sign, read under a limit. Reading goes from left to right and
stops at the first fault.
-/

namespace CameraConsole.Text

inductive NumeralFault where
  | empty
  | invalidDigit
  | tooLarge
  deriving DecidableEq, Repr

def NumeralFault.message : NumeralFault → String
  | .empty => "cannot parse integer from empty string"
  | .invalidDigit => "invalid digit found in string"
  | .tooLarge => "number too large to fit in target type"

/-- The value of a decimal digit. -/
def digitValue? (c : Char) : Option Nat :=
  if '0' ≤ c ∧ c ≤ '9' then some (c.toNat - '0'.toNat) else none

/-- Appends digits to `value` as long as the result stays at most `limit`. -/
def readDigits (limit : Nat) : Nat → List Char → Except NumeralFault Nat
  | value, [] => .ok value
  | value, c :: cs =>
    match digitValue? c with
    | none => .error .invalidDigit
    | some d =>
      if value * 10 + d ≤ limit then readDigits limit (value * 10 + d) cs else .error .tooLarge

/-- Reads a numeral of at most `limit`. A lone sign is no numeral. -/
def readNumeral (limit : Nat) (s : String) : Except NumeralFault Nat :=
  match s.toList with
  | [] => .error .empty
  | ['+'] => .error .invalidDigit
  | '+' :: cs => readDigits limit 0 cs
  | cs => readDigits limit 0 cs

/-- The largest 32-bit number. -/
def max32 : Nat := UInt32.size - 1

/-- The largest 64-bit number. -/
def max64 : Nat := UInt64.size - 1

end CameraConsole.Text
