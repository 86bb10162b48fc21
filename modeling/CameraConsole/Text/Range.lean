/-!
# Ranges of code points

Classes of characters and their properties, as tables of inclusive ranges.
-/

namespace CameraConsole.Text

def inRanges (ranges : List (Nat × Nat)) (n : Nat) : Bool :=
  ranges.any fun (low, high) => low ≤ n && n ≤ high

/-- The value of the first range that a code point is in. -/
def valueIn {α : Type} (ranges : List (Nat × Nat × α)) (otherwise : α) (n : Nat) : α :=
  match ranges.find? fun (low, high, _) => low ≤ n && n ≤ high with
  | some (_, _, value) => value
  | none => otherwise

end CameraConsole.Text
