/-!
# Punycode

A text in ASCII: first its ASCII characters, then, after a hyphen, where the others go. Each
insertion is a number of variable length that counts how far to go from the last one, through every
place of the text for one character after another.
-/

namespace CameraConsole.Text.Punycode

/-- The value of a digit in base 36: letters, then figures. -/
def digit? (c : Char) : Option Nat :=
  if 'a' ≤ c ∧ c ≤ 'z' then some (c.toNat - 97)
  else if '0' ≤ c ∧ c ≤ '9' then some (c.toNat - 22)
  else none

/-- A digit below this one is the last of its number. `weightIndex` is 36 for the first digit and
36 more for each after it. -/
def threshold (weightIndex bias : Nat) : Nat :=
  if weightIndex ≤ bias then 1 else if bias + 26 ≤ weightIndex then 26 else weightIndex - bias

/-- The bias that suits numbers of the size of `delta`. -/
def biasFor (delta : Nat) : Nat :=
  if 455 < delta then 36 + biasFor (delta / 35) else 36 * delta / (delta + 38)
termination_by delta

/-- The bias after an insertion. The first number is large and counts little. -/
def adapted (delta length : Nat) (first : Bool) : Nat :=
  let delta := if first then delta / 700 else delta / 2
  biasFor (delta + delta / length)

/-- Where reading stands. -/
structure Reader where
  text : List Char
  /-- The character to insert next. -/
  code : Nat
  bias : Nat
  /-- Where the last insertion left off. -/
  start : Nat
  /-- `start` and what is read of the number so far. -/
  position : Nat
  weight : Nat
  weightIndex : Nat
  deriving DecidableEq, Repr

def Reader.ofText (text : List Char) : Reader :=
  { text, code := 128, bias := 72, start := 0, position := 0, weight := 1, weightIndex := 36 }

/-- Inserts a character once its number is read. -/
def Reader.insert (r : Reader) (position : Nat) : Option Reader :=
  let places := r.text.length + 1
  let code := r.code + position / places
  let place := position % places
  if code.isValidChar then
    some
      { text := r.text.take place ++ Char.ofNat code :: r.text.drop place
        code
        bias := adapted (position - r.start) places (r.start = 0)
        start := place + 1
        position := place + 1
        weight := 1
        weightIndex := 36 }
  else none

/-- Reads a digit. Positions and weights are words of 32 bits. -/
def Reader.feed (r : Reader) (c : Char) : Option Reader :=
  match digit? c with
  | none => none
  | some d =>
    let position := r.position + d * r.weight
    let t := threshold r.weightIndex r.bias
    let weight := r.weight * (36 - t)
    if UInt32.size ≤ position then none
    else if d < t then r.insert position
    else if UInt32.size ≤ weight then none
    else some { r with position, weight, weightIndex := r.weightIndex + 36 }

/-- Splits at the last hyphen, unless it comes first. -/
def splitHyphen (cs : List Char) : List Char × List Char :=
  match cs.reverse.dropWhile (· ≠ '-') with
  | [] | [_] => ([], cs)
  | _ :: plain => (plain.reverse, (cs.reverse.takeWhile (· ≠ '-')).reverse)

/-- The text that `cs` stands for; none when a number is cut off or leads nowhere. -/
def decode? (cs : List Char) : Option (List Char) :=
  let (plain, insertions) := splitHyphen cs
  match insertions.foldlM Reader.feed (Reader.ofText plain) with
  | none => none
  | some r => if r.weightIndex = 36 then some r.text else none

/-! ## Writing -/

def digit (n : Nat) : Char :=
  Char.ofNat (if n < 26 then n + 97 else n + 22)

/-- The digits of a number, from the one with this index on. -/
def digits (bias weightIndex n : Nat) : List Char :=
  let t := threshold weightIndex bias
  if n < t then [digit n]
  else digit (t + (n - t) % (36 - t)) :: digits bias (weightIndex + 36) ((n - t) / (36 - t))
termination_by n
decreasing_by
  have hpos : 1 ≤ threshold weightIndex bias := by
    unfold threshold
    split
    · exact Nat.le_refl 1
    · split <;> omega
  exact Nat.lt_of_le_of_lt (Nat.div_le_self _ _) (by omega)

/-- Where writing stands. -/
structure Writer where
  /-- The insertions so far. -/
  insertions : List Char
  /-- The characters below this one are written. -/
  code : Nat
  bias : Nat
  /-- How many characters are written. -/
  length : Nat
  /-- How far the text has been gone through since the last insertion. -/
  steps : Nat
  deriving DecidableEq, Repr

/-- Goes past a character, and writes it when its turn has come. -/
def Writer.pass (plain : Nat) (w : Writer) (c : Char) : Writer :=
  if c.toNat < w.code then { w with steps := w.steps + 1 }
  else if c.toNat = w.code then
    { w with
      insertions := w.insertions ++ digits w.bias 36 w.steps
      bias := adapted w.steps (w.length + 1) (w.length = plain)
      length := w.length + 1
      steps := 0 }
  else w

/-- Writes all that is equal to `code`, which comes next. -/
def Writer.turn (plain : Nat) (text : List Char) (w : Writer) (code : Nat) : Writer :=
  let start := { w with code, steps := w.steps + (code - w.code) * (w.length + 1) }
  let w := text.foldl (Writer.pass plain) start
  { w with code := code + 1, steps := w.steps + 1 }

/-- What stands for a text. -/
def encode (text : List Char) : List Char :=
  let plain := text.filter (·.toNat < 128)
  let codes := (((text.map Char.toNat).filter (128 ≤ ·)).mergeSort).eraseReps
  let start : Writer :=
    { insertions := [], code := 128, bias := 72, length := plain.length, steps := 0 }
  let w := codes.foldl (Writer.turn plain.length text) start
  (if plain = [] then [] else plain ++ ['-']) ++ w.insertions

end CameraConsole.Text.Punycode
