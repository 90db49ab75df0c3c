import TemplateCompiler.Report.Paint
import TemplateCompiler.Report.Place
import TemplateCompiler.Text.Width

/-!
# Reports with excerpts

A diagnostic is shown with the line it starts on, the lines around it and a line of marks below its
extent.  Line numbers and columns are 32-bit words, and so is their arithmetic: an offset just below
the largest word has a column that wraps around, and has no excerpt.
-/

namespace TemplateCompiler

namespace Report

/-- What is shown of a diagnostic beside its message: how many lines around its place, how wide they
may be, and in which way its file is named. -/
structure ExcerptStyle where
  color : Bool := false
  /-- The number of lines shown before and behind the line of the diagnostic. -/
  context : Int := 0
  display : PathDisplay := {}
  /-- The number of columns after which lines are cut; no limit unless positive. -/
  width : Int := 0
  notes : Bool := false

namespace Excerpt

/-- Tabulators as four blanks. -/
def expandTabs (t : Text) : Text :=
  t.mapBytes fun b => if b == '\t'.toUInt8 then "    " else [b]

/-- A number of context lines as a word; one that does not fit counts as none. -/
def contextWord (context : Int) : UInt32 :=
  if 0 ≤ context && context < 4294967296 then context.toNat.toUInt32 else 0

/-- The smaller of two words. -/
def least (a b : UInt32) : UInt32 := if a ≤ b then a else b

/-- The larger of two words. -/
def greatest (a b : UInt32) : UInt32 := if a ≤ b then b else a

/-- The numbers of the first and the last line shown around a line. -/
def bounds (f : SourceFile) (line : UInt32) (context : Int) : UInt32 × UInt32 :=
  let around := contextWord context
  (greatest line (1 + around) - around, least (line + around) f.lineCount.toUInt32)

/-- The numbers of the lines shown around a line.  They are counted with a word, which never gets
past the largest one: there are none up to it. -/
def lineNumbers? (f : SourceFile) (line : UInt32) (context : Int) : Option (List Nat) :=
  let (first, last) := bounds f line context
  if last == 0xFFFFFFFF then none
  else some (List.range' first.toNat (last.toNat + 1 - first.toNat))

/-- The part of a line between two columns, counted from zero; nothing if these are not in order on
the line. -/
def cut? (line : Text) (first last : Int) : Option Text :=
  if 0 ≤ first ∧ first ≤ last ∧ last ≤ line.length then some (line.slice first.toNat last.toNat)
  else none

/-- The line of marks below a line: blanks up to the start of a span, a caret and tildes up to its
end or the end of the line.  There is none below a column that has wrapped around. -/
def marks? (color : Bool) (line : Text) (start stop : Position) : Option Text := do
  let first := min ((start.column.toNat : Int) - 1) line.length
  let last := if stop.line == start.line then min ((stop.column.toNat : Int) - 1) line.length
    else line.length
  let before ← cut? line 0 first
  let covered ← if first < last then cut? line first last else some []
  let extent := max (Text.width (expandTabs covered)) 1
  return Text.replicate (Text.width (expandTabs before)) ' '.toUInt8
    ++ Paint.apply color [.red, .bold] ("^" ++ Text.replicate (extent - 1) '~'.toUInt8)

/-- The number in front of a line, or blanks in its place. -/
def gutter (color : Bool) (columns : Nat) (number : Text) : Text :=
  Paint.apply color [.blue] (Text.padLeft columns number ++ " |") ++ " "

def row (s : ExcerptStyle) (f : SourceFile) (columns n : Nat) : Text :=
  let line := expandTabs (f.line n)
  let line := if 0 < s.width then line.truncate s.width.toNat "…" else line
  gutter s.color columns (Text.ofNat n) ++ line ++ "\n"

/-- The lines of a file around a span, with marks below the one where the span starts.  A file whose
lines are too many for a word is not shown. -/
def excerpt? (s : ExcerptStyle) (f : SourceFile) (span : Span) : Option Text :=
  if 4294967296 ≤ f.lineCount then some []
  else do
    let start := f.position span.start
    let stop := f.position span.stop
    let columns := (Text.ofNat (bounds f start.line s.context).2.toNat).length
    let numbers ← lineNumbers? f start.line s.context
    let rows ← numbers.mapM fun n =>
      if n == start.line.toNat then
        (marks? s.color (f.line n) start stop).map fun marks =>
          row s f columns n ++ gutter s.color columns [] ++ marks ++ "\n"
      else some (row s f columns n)
    return rows.flatten

end Excerpt

def severityPaint : Severity → List Paint
  | .warning => [.yellow, .bold]
  | .info => [.cyan, .bold]
  | _ => [.red, .bold]

def noteLine (s : ExcerptStyle) (files : FileSet) (located : Bool) (n : DiagnosticNote) : Text :=
  let location := match if located then files.get? n.span.file else none with
    | some f => place s.display f n.span.start ++ ": "
    | none => []
  "  " ++ Paint.apply s.color [.green] "= note:" ++ " " ++ location ++ n.message ++ "\n"

/-- A diagnostic with its excerpt and its notes. -/
def prettyOne? (s : ExcerptStyle) (files : FileSet) (d : Diagnostic) : Option Text := do
  let found := fileOf? files d
  let location := match found with
    | some (f, span) => Paint.apply s.color [.white, .bold] (place s.display f span.start) ++ ": "
    | none => []
  let excerpt ← match found with
    | some (f, span) => Excerpt.excerpt? s f span
    | none => some []
  return location ++ Paint.apply s.color (severityPaint d.severity) d.severity.name.toUpper ++ " "
    ++ Paint.apply s.color [.bold] d.code.id ++ ": " ++ d.message ++ "\n" ++ excerpt
    ++ Text.when s.notes (d.notes.flatMap (noteLine s files found.isSome))

/-- Diagnostics with excerpts, separated by empty lines; nothing if one of them has no excerpt. -/
def pretty? (s : ExcerptStyle) (files : FileSet) (items : List Diagnostic) : Option Text :=
  (items.mapM (prettyOne? s files)).map (Text.join "\n")

end Report

end TemplateCompiler
