import TemplateCompiler.Text.Basic

/-!
# Edit distance

The distance of two texts is the least number of bytes that have to be put in, taken out or changed
to make one from the other.  It is computed row by row: a row holds the distances of a fixed text to
the beginnings of the other one, shortest first.
-/

namespace TemplateCompiler

namespace Text

/-- The rest of the next row.  `corner` and `above` are entries of the old row, `left` is the entry
before in the new one. -/
def extendRow (b : UInt8) (corner left : Nat) : Text → List Nat → List Nat
  | c :: t, above :: row =>
    let entry := if b == c then corner else 1 + min (min above left) corner
    entry :: extendRow b above entry t row
  | _, _ => []

/-- The row of a text that is one byte longer. -/
def nextRow (t : Text) (row : List Nat) (b : UInt8) : List Nat :=
  match row with
  | [] => []
  | corner :: rest => (corner + 1) :: extendRow b corner (corner + 1) t rest

/-- The number of edits between two texts. -/
def editDistance (s t : Text) : Nat :=
  (s.foldl (nextRow t) (List.range (t.length + 1))).getLastD 0

end Text

end TemplateCompiler
