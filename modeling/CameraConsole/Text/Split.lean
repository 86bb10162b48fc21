/-!
# Texts in parts

Lists, queries, paths and names of hosts are texts of parts with separators between them.
-/

namespace CameraConsole.Text

/-- Splits at every character that `sep` holds of. -/
def splitAll (sep : Char → Bool) : List Char → List (List Char)
  | [] => [[]]
  | c :: cs =>
    if sep c then [] :: splitAll sep cs
    else
      match splitAll sep cs with
      | [] => [[c]]
      | part :: parts => (c :: part) :: parts

/-- The parts with `sep` between them. -/
def joinAll (sep : Char) : List (List Char) → List Char
  | [] => []
  | [part] => part
  | part :: parts => part ++ sep :: joinAll sep parts

end CameraConsole.Text
