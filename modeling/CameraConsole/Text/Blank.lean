/-!
# Blank characters

The Unicode white space class and trimming by it.
-/

namespace CameraConsole.Text

/-- The characters with the Unicode property `White_Space`. -/
def isBlank (c : Char) : Bool :=
  let n := c.toNat
  (9 ≤ n && n ≤ 13) || n == 0x20 || n == 0x85 || n == 0xA0 || n == 0x1680 ||
    (0x2000 ≤ n && n ≤ 0x200A) || n == 0x2028 || n == 0x2029 || n == 0x202F || n == 0x205F ||
    n == 0x3000

/-- Drops what `p` holds of at both ends. -/
def trimBoth (p : Char → Bool) (cs : List Char) : List Char :=
  ((cs.dropWhile p).reverse.dropWhile p).reverse

/-- The text without leading and trailing blanks. -/
def trim (s : String) : String :=
  String.ofList (trimBoth isBlank s.toList)

/-- A text of blanks only; the empty text is one. -/
def blank (s : String) : Bool :=
  s.toList.all isBlank

end CameraConsole.Text
