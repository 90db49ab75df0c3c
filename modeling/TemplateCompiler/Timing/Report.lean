import TemplateCompiler.Text.Characters
import TemplateCompiler.Text.Decimal

/-!
# Timings

How long the phases of a document took, and the sums over many documents.  Durations are in
milliseconds.  A report lists the phases in the order in which they began, the totals in the order
in which they were first seen.

Two runs on the same inputs differ in the times they measured and in nothing else.  A masked text
shows each measured time as a mark, so that runs can be compared.
-/

namespace TemplateCompiler

namespace Timing

/-- A measured phase. -/
structure Phase where
  name : Text
  duration : Float := 0
  note : Text := []

/-- The measured phases of a document, in the order in which they began, and the time of the whole.
-/
structure Report where
  total : Float := 0
  phases : List Phase := []

/-- A line of a report: a name of at least 24 characters, then a duration of at least nine. -/
def line (name : Text) (duration : Float) : Text :=
  "  " ++ name ++ Text.replicate (24 - name.glyphs.length) ' '.toUInt8 ++ " "
    ++ (Text.fixed 2 duration).padLeft 9 ++ " ms"

/-- The line of a phase, with its note. -/
def Phase.line (p : Phase) : Text :=
  Timing.line p.name p.duration ++ Text.when (!p.note.isEmpty) ("  // " ++ p.note) ++ "\n"

def Report.summary (r : Report) : Text :=
  "timings:\n" ++ r.phases.flatMap Phase.line ++ line "total" r.total ++ "\n"

/-- The sums of reports. -/
structure Totals where
  documents : Nat := 0
  report : Report := {}

/-- Add a duration to the sum of a name; a name that is new comes last. -/
def addPhase (sums : List Phase) (p : Phase) : List Phase :=
  if sums.any fun s => s.name == p.name then
    sums.map fun s => if s.name == p.name then { s with duration := s.duration + p.duration } else s
  else sums ++ [{ name := p.name, duration := 0 + p.duration }]

/-- The totals with one more report.  Notes are dropped. -/
def Totals.add (t : Totals) (r : Report) : Totals :=
  { documents := t.documents + 1
    report := ⟨t.report.total + r.total, r.phases.foldl addPhase t.report.phases⟩ }

def Totals.ofReports (reports : List Report) : Totals := reports.foldl Totals.add {}

/-! ## Recording -/

/-- The phases that have begun, with their notes once they end. -/
structure Recorder where
  phases : List Phase := []

/-- Begin a phase; its handle is its place. -/
def Recorder.begin (r : Recorder) (name : Text) : Recorder × Nat :=
  (⟨r.phases ++ [{ name := name }]⟩, r.phases.length)

/-- End the phase of a handle.  A handle of no phase is ignored. -/
def Recorder.finish (r : Recorder) (handle : Nat) (note : Text) : Recorder :=
  ⟨r.phases.modify handle fun p => { p with note }⟩

def Recorder.report (r : Recorder) : Report :=
  ⟨r.phases.foldl (fun sum p => sum + p.duration) 0, r.phases⟩

/-! ## Texts without measured times -/

/-- A time in milliseconds at the front of a text: blanks, a decimal with a fraction and its unit.
Gives the number of its bytes. -/
def spelledTime? (t : Text) : Option Nat :=
  let blanks := (t.takeWhile (· == ' '.toUInt8)).length
  let whole := ((t.drop blanks).takeWhile Text.isDecimalDigit).length
  let point := blanks + whole
  let fraction := ((t.drop (point + 1)).takeWhile Text.isDecimalDigit).length
  let unit := point + 1 + fraction
  if whole != 0 && fraction != 0 && t[point]? == some '.'.toUInt8
      && Text.startsWith (t.drop unit) " ms" then some (unit + 3)
  else none

/-- The keys whose values are measured times, also inside a quoted document. -/
def timeKeys : List Text :=
  ["\"total_ms\":", "\"duration_ms\":", "\\\"total_ms\\\":", "\\\"duration_ms\\\":"]

/-- Whether a byte can belong to a number. -/
def isNumeral (b : UInt8) : Bool :=
  Text.isDecimalDigit b || (Text.ofString "+-.eE").contains b

/-- What a measured time at the front of a text is shown as, with the number of its bytes. -/
def masked? (t : Text) : Option (Text × Nat) :=
  match spelledTime? t with
  | some n => some (" # ms", n)
  | none => (timeKeys.find? fun k => t.startsWith k).map fun k =>
    let blanks := (t.drop k.length).takeWhile (· == ' '.toUInt8)
    let number := (t.drop (k.length + blanks.length)).takeWhile isNumeral
    (k ++ blanks ++ "#", k.length + blanks.length + number.length)

/-- Mask the times of a text after some bytes that a mask stands for. -/
def maskedFrom : Nat → Text → Text
  | _, [] => []
  | skip + 1, _ :: rest => maskedFrom skip rest
  | 0, b :: rest =>
    match masked? (b :: rest) with
    | some (mask, n) => mask ++ maskedFrom (n - 1) rest
    | none => b :: maskedFrom 0 rest

/-- A text with marks for its measured times. -/
def masked (t : Text) : Text := maskedFrom 0 t

end Timing

end TemplateCompiler
