import CameraConsole.Text.CombiningClass
import CameraConsole.Text.Composite

/-!
# Composed form

Of the texts that read the same, the one in which marks stand in canonical order and whatever has a
composite is composed.
-/

namespace CameraConsole.Text

/-- A code point taken apart, at most `depth` times. -/
def decomposed : (depth : Nat) → (n : Nat) → List Nat
  | 0, n => [n]
  | depth + 1, n =>
    match compositeParts? n with
    | none => [n]
    | some (a, b) => decomposed depth a ++ [b]

/-- Adds a code point to a text kept in reverse. A mark moves before marks of a higher class. -/
def settle (n : Nat) : List Nat → List Nat
  | [] => [n]
  | m :: rest =>
    if combiningClass n ≠ 0 ∧ combiningClass n < combiningClass m then m :: settle n rest
    else n :: m :: rest

/-- The code points with marks in canonical order. -/
def ordered (ns : List Nat) : List Nat :=
  (ns.foldl (fun text n => settle n text) []).reverse

/-- Composes what follows `start` with it, across the marks in between, which are kept in reverse.
A mark of the same or a higher class in between keeps the two apart. -/
def composedFrom (start : Nat) (marks : List Nat) : List Nat → List Nat
  | [] => start :: marks.reverse
  | n :: ns =>
    let apart := marks.head?.any fun m => combiningClass n ≤ combiningClass m
    match if apart then none else composite? start n with
    | some c => composedFrom c marks ns
    | none =>
      if combiningClass n = 0 then start :: (marks.reverse ++ composedFrom n [] ns)
      else composedFrom start (n :: marks) ns

def composed : List Nat → List Nat
  | [] => []
  | n :: ns => if combiningClass n = 0 then composedFrom n [] ns else n :: composed ns

/-- A part of a composite may be a composite; its parts are none. -/
def compositeDepth : Nat := 2

/-- The composed form of a text, in code points. -/
def normalized (ns : List Nat) : List Nat :=
  composed (ordered (ns.flatMap (decomposed compositeDepth)))

/-- Whether a text is in its composed form. -/
def isComposed (cs : List Char) : Bool :=
  let ns := cs.map Char.toNat
  normalized ns = ns

def composedForm (cs : List Char) : List Char :=
  (normalized (cs.map Char.toNat)).map Char.ofNat

end CameraConsole.Text
