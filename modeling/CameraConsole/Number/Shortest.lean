import CameraConsole.Number.Double

/-!
# Shortest decimals

The fewest decimal digits that read back as a given double, and the text built from them.
-/

namespace CameraConsole

/-- The decimal number `digits * 10 ^ exponent`. -/
structure Decimal where
  digits : Nat
  exponent : Int
  deriving DecidableEq, Repr

namespace Double

/-- Four times the significand, with the two ends of the interval that rounds to it. Below a power
of two the gap is half as wide. -/
def neighbourhood (d : Double) : Nat × Nat × Nat :=
  let m := 4 * d.significand
  (if d.fraction = 0 ∧ 1 < d.biased then m - 1 else m - 2, m, m + 2)

/-- Whether `c * 10 ^ k` lies in the interval that rounds to `d`; its ends belong to it when the
significand is even. -/
def readsBack (d : Double) (c : Nat) (k : Int) : Bool :=
  let (low, _, high) := d.neighbourhood
  let s := d.scale - 2
  -- both sides of `c * 10 ^ k` against `_ * 2 ^ s`, multiplied out
  let decimal := (c * Nat.pow 10 k.toNat) <<< (-s).toNat
  let binary (x : Nat) := (x * Nat.pow 10 (-k).toNat) <<< s.toNat
  if d.significand % 2 = 0 then binary low ≤ decimal && decimal ≤ binary high
  else binary low < decimal && decimal < binary high

/-- `⌊|d| / 10 ^ k⌋` with twice the remainder and the divisor. -/
def floorAt (d : Double) (k : Int) : Nat × Nat × Nat :=
  let num := (d.significand * Nat.pow 10 (-k).toNat) <<< d.scale.toNat
  let den := Nat.pow 10 k.toNat <<< (-d.scale).toNat
  (num / den, 2 * (num % den), den)

/-- On the grid of multiples of `10 ^ k`, a neighbour of `d` that reads back as it: the nearer of
two, the even one of two equally near. -/
def nearestAt? (d : Double) (k : Int) : Option Nat :=
  let (c, r, den) := d.floorAt k
  match d.readsBack c k, d.readsBack (c + 1) k with
  | true, false => some c
  | false, true => some (c + 1)
  | true, true =>
    if r < den then some c else if den < r then some (c + 1)
    else some (if c % 2 = 0 then c else c + 1)
  | false, false => none

/-- The largest `k` with `10 ^ k ≤ |d|`, searched upwards from `k` in at most `fuel` steps. -/
def magnitudeFrom (d : Double) : Nat → Int → Int
  | 0, k => k
  | fuel + 1, k => if 10 ≤ (d.floorAt k).1 then magnitudeFrom d fuel (k + 1) else k

/-- A lower estimate of the decimal magnitude from the binary one. -/
def magnitude (d : Double) : Int :=
  let top := d.significand.log2 + d.scale
  magnitudeFrom d 3 (top * 30103 / 100000 - 1)

/-- Tries grids of `tries` more digits, coarse ones first. -/
def shortestFrom (d : Double) (k : Int) : Nat → Decimal
  | 0 => ⟨(d.floorAt k).1, k⟩
  | tries + 1 =>
    match d.nearestAt? k with
    | some c => ⟨c, k⟩
    | none => shortestFrom d (k - 1) tries

/-- The shortest decimal that reads back as the magnitude of a nonzero `d`. -/
def shortest (d : Double) : Decimal :=
  shortestFrom d d.magnitude 17

end Double

/-- The digits of `n` without trailing zeros, and how many zeros were dropped. -/
def significantDigits (n : Nat) : List Char × Nat :=
  let back := (Nat.toDigits 10 n).reverse
  ((back.dropWhile (· == '0')).reverse, (back.takeWhile (· == '0')).length)

/-- Decimal exponents from -5 to 15 are written in positional notation, with at least one digit
after the point; all others with a signed exponent. -/
def Decimal.text (d : Decimal) : List Char :=
  let (ds, dropped) := significantDigits d.digits
  let x : Int := d.exponent + dropped + ds.length - 1
  if 0 ≤ x ∧ x ≤ 15 then
    let whole := x.toNat + 1
    if ds.length ≤ whole then
      ds ++ List.replicate (whole - ds.length) '0' ++ ['.', '0']
    else
      ds.take whole ++ '.' :: ds.drop whole
  else if -5 ≤ x ∧ x < 0 then
    '0' :: '.' :: (List.replicate ((-x).toNat - 1) '0' ++ ds)
  else
    let mantissa := match ds with
      | [] => ['0']
      | [c] => [c]
      | c :: cs => c :: '.' :: cs
    mantissa ++ 'e' :: (if x < 0 then '-' else '+') :: Nat.toDigits 10 x.natAbs

def Double.text (d : Double) : List Char :=
  let body := if d.isZero then ['0', '.', '0'] else d.shortest.text
  if d.negative then '-' :: body else body

end CameraConsole
