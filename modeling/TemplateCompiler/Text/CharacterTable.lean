import TemplateCompiler.Text.Characters

/-!
# Tables of character properties

Properties of characters that no formula gives are tables of the Unicode standard, version 15.0.
A table is written as a text of blank-separated entries with hexadecimal code points:

* `41-5a` is a range, `aa` a single code point (`RangeTable`);
* `41-5a:61` maps a range onto the range of the same length that starts at the last number, and
  `100/12e:101` maps every second code point of a range (`MapTable`).
-/

namespace TemplateCompiler

namespace Text

/-- The number that hexadecimal digits denote. -/
def hexNumber (digits : String) : Nat :=
  digits.toList.foldl (fun n c => 16 * n + ((hexValue? c.toUInt8).getD 0)) 0

def tableEntries (source : String) : List String :=
  ((source.map fun c => if c == '
' then ' ' else c).splitOn " ").filter fun e => !e.isEmpty

/-- A set of characters, given by the ranges of their code points in increasing order. -/
structure RangeTable where
  ranges : Array (Nat × Nat)

namespace RangeTable

/-- Read a table from its written form. -/
def ofString (source : String) : RangeTable where
  ranges := ((tableEntries source).map fun entry =>
    match entry.splitOn "-" with
    | [low, high] => (hexNumber low, hexNumber high)
    | _ => (hexNumber entry, hexNumber entry)).toArray

/-- Whether a code point lies in one of the ranges. -/
def containsCode (table : RangeTable) (code : Nat) : Bool :=
  table.ranges.any fun (low, high) => low ≤ code && code ≤ high

/-- Whether a character lies in one of the ranges. -/
def contains (table : RangeTable) (c : Char) : Bool := table.containsCode c.toNat

end RangeTable

/-- One entry of a `MapTable`: the code points `low`, `low + step`, ... up to `high` are moved so
that `low` becomes `target`. -/
structure Shift where
  low : Nat
  high : Nat
  step : Nat
  target : Nat

namespace Shift

def single (code target : Nat) : Shift := ⟨code, code, 1, target⟩

/-- All code points of a range are moved. -/
def run (low high target : Nat) : Shift := ⟨low, high, 1, target⟩

/-- Every second code point of a range is moved. -/
def alternating (low high target : Nat) : Shift := ⟨low, high, 2, target⟩

end Shift

/-- A map of characters that is the identity outside the listed ranges. -/
structure MapTable where
  shifts : Array Shift

namespace MapTable

def readShift (entry : String) : Shift :=
  match entry.splitOn ":" with
  | [source, target] =>
    match source.splitOn "-", source.splitOn "/" with
    | [low, high], _ => .run (hexNumber low) (hexNumber high) (hexNumber target)
    | _, [low, high] => .alternating (hexNumber low) (hexNumber high) (hexNumber target)
    | _, _ => .single (hexNumber source) (hexNumber target)
  | _ => .single 0 0

/-- Read a table from its written form. -/
def ofString (source : String) : MapTable where
  shifts := ((tableEntries source).map readShift).toArray

def apply (table : MapTable) (c : Char) : Char :=
  let code := c.toNat
  match table.shifts.find? fun s => s.low ≤ code && code ≤ s.high && (code - s.low) % s.step == 0 with
  | some s => Char.ofNat (code - s.low + s.target)
  | none => c

end MapTable

end Text

end TemplateCompiler
