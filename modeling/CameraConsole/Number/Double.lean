/-!
# Finite doubles

The finite numbers of the 64-bit binary format, as sign, exponent field and fraction field, with
correctly rounded arithmetic on exact fractions of natural numbers.
-/

namespace CameraConsole

/-- The bit before the fraction of a normal double, which its format leaves out: `2 ^ 52`. -/
def implicitBit : Nat := 0x10000000000000

/-- A finite 64-bit binary floating point number. -/
structure Double where
  negative : Bool
  /-- The exponent field; 2047 is kept for values that are not finite. -/
  biased : Nat
  fraction : Nat
  biased_lt : biased < 2047 := by decide
  fraction_lt : fraction < implicitBit := by decide
  deriving DecidableEq

namespace Double

def zero (negative : Bool) : Double :=
  { negative, biased := 0, fraction := 0 }

instance : Inhabited Double := ⟨zero false⟩

/-- The magnitude is `significand * 2 ^ scale`. -/
def significand (d : Double) : Nat :=
  if d.biased = 0 then d.fraction else implicitBit + d.fraction

def scale (d : Double) : Int :=
  (if d.biased = 0 then 1 else d.biased : Nat) - 1075

def isZero (d : Double) : Bool :=
  d.significand == 0

def ofFields? (negative : Bool) (biased fraction : Nat) : Option Double :=
  if h : biased < 2047 ∧ fraction < implicitBit then
    some ⟨negative, biased, fraction, h.1, h.2⟩
  else none

/-- The quotient rounded to the nearest integer, a half to the even one. -/
def roundDiv (num den : Nat) : Nat :=
  let q := num / den
  let r := 2 * (num % den)
  if r < den then q else if den < r then q + 1 else if q % 2 = 0 then q else q + 1

/-- The double nearest to `num / den * 2 ^ e`, a half to the even significand; none beyond the
largest double. -/
def ofRatio? (negative : Bool) (num den : Nat) (e : Int) : Option Double :=
  if num = 0 then some (zero negative) else
    -- `num / den` lies strictly between `2 ^ (top - 1)` and `2 ^ (top + 1)`
    let top : Int := num.log2 - den.log2
    let units (shift : Int) : Nat × Nat := (num <<< shift.toNat, den <<< (-shift).toNat)
    let (n, d) := units (52 - top)
    let unit := max (if n < d * implicitBit then top - 53 + e else top - 52 + e) (-1074)
    let (n, d) := units (e - unit)
    let m := roundDiv n d
    if m < implicitBit then ofFields? negative 0 m
    else if m = 2 * implicitBit then ofFields? negative (unit + 1076).toNat 0
    else ofFields? negative (unit + 1075).toNat (m - implicitBit)

/-- The double nearest to a natural number; the largest one stands for all beyond it. -/
def ofNat (negative : Bool) (n : Nat) : Double :=
  (ofRatio? negative n 1 0).getD { negative, biased := 2046, fraction := implicitBit - 1 }

def ofInt (i : Int) : Double :=
  ofNat (i < 0) i.natAbs

/-- The double nearest to a power of ten up to `10 ^ 308`. -/
def powTen (k : Nat) : Double :=
  ofNat false (Nat.pow 10 k)

/-- The rounded product of the magnitude with a power of ten. -/
def mulPowTen? (d : Double) (k : Nat) : Option Double :=
  let p := powTen k
  ofRatio? d.negative (d.significand * p.significand) 1 (d.scale + p.scale)

/-- The rounded quotient by a power of ten. It is never beyond the range. -/
def divPowTen (d : Double) (k : Nat) : Double :=
  let p := powTen k
  (ofRatio? d.negative d.significand p.significand (d.scale - p.scale)).getD (zero d.negative)

end Double

end CameraConsole
