import CameraConsole.Text.Direction
import CameraConsole.Text.Joining
import CameraConsole.Text.Mark
import CameraConsole.Text.Normal
import CameraConsole.Text.Punycode
import CameraConsole.Url.NameCharacter

/-!
# International labels

A label after `xn--` spells characters beyond ASCII. A name is well-formed when each label with such
characters, spelled or not, is in canonical form, and the labels of a name with a part written from
the right keep one direction each.
-/

namespace CameraConsole.Label

open Text (Direction Joining)

/-! ## Joiners -/

/-- Whether a letter that joins as one of `wanted` comes next, apart from marks. -/
def joins (wanted : List Joining) (cs : List Char) : Bool :=
  ((cs.map Text.joining).find? (· ≠ .transparent)).any wanted.contains

/-- Whether a character may stand between `before`, which is in reverse, and `after`. Joiners follow
a virama; the one that parts letters may also stand between two that would join. -/
def inPlace (before : List Char) (c : Char) (after : List Char) : Bool :=
  if c = '\u200d' then before.head?.any Text.isVirama
  else if c = '\u200c' then
    before.head?.any Text.isVirama ||
      (joins [.next, .both] before && joins [.previous, .both] after)
  else true

/-- Whether the joiners of a label are in place; `before` is what stands before it, in reverse. -/
def joinersInPlace : (before : List Char) → List Char → Bool
  | _, [] => true
  | before, c :: after => inPlace before c after && joinersInPlace (c :: before) after

/-! ## Direction -/

def isRightward (c : Char) : Bool :=
  Text.direction c = .right || Text.direction c = .arabicNumber

/-- Whether a label is written one way: its first character sets the direction, the last one that is
no mark keeps it, and nothing between them is written the other way. -/
def keepsDirection : List Char → Bool
  | [] => true
  | first :: rest =>
    let inner := ((rest.map Text.direction).reverse.dropWhile (· = .mark)).reverse
    match Text.direction first with
    | .left =>
      inner.all (fun d => d ≠ .right && d ≠ .arabicNumber) &&
        inner.getLast?.all fun d => d = .left || d = .number
    | .right =>
      inner.all (· ≠ .left) && !(inner.contains .number && inner.contains .arabicNumber) &&
        inner.getLast?.all fun d => d = .right || d = .number || d = .arabicNumber
    | _ => false

/-! ## Labels -/

/-- The longest spelling that is read, and the longest label that it may spell. -/
def spellingLimit : Nat := 2000

def labelLimit : Nat := 1000

/-- What follows `xn--`. -/
def spelling? : List Char → Option (List Char)
  | 'x' :: 'n' :: '-' :: '-' :: cs => some cs
  | _ => none

/-- Whether a label is the canonical form of one with characters beyond ASCII. -/
def isCanonical (cs : List Char) : Bool :=
  cs.any (0x80 ≤ ·.toNat) && cs.length ≤ labelLimit && cs.all Url.isNameChar &&
    Text.isComposed cs && (spelling? cs).isNone && !(cs.head?.any Text.isMark) &&
    joinersInPlace [] cs

def isAscii (cs : List Char) : Bool :=
  cs.all (·.toNat < 0x80)

/-- The label that a label in plain form stands for. -/
def read? (label : List Char) : Option (List Char) :=
  if isAscii label then
    match spelling? label with
    | none => some label
    | some cs =>
      if cs.length ≤ spellingLimit then (Text.Punycode.decode? cs).filter isCanonical else none
  else if isCanonical label then some label
  else none

/-- A label in ASCII. -/
def written (label : List Char) : List Char :=
  if isAscii label then label else 'x' :: 'n' :: '-' :: '-' :: Text.Punycode.encode label

/-- Whether the labels of a name can stand together. -/
def wellFormed (labels : List (List Char)) : Bool :=
  match labels.mapM read? with
  | none => false
  | some names => !(names.any (·.any isRightward)) || names.all keepsDirection

end CameraConsole.Label
