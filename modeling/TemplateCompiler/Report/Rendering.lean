import TemplateCompiler.Report.Excerpt
import TemplateCompiler.Report.Structured

/-!
# Rendering the diagnostics of a run

The diagnostics of all documents are gathered in order, with warnings kept, dropped or raised, and
rendered in one format.  Timings are for the formats that tools read; the others have a summary of
their own.
-/

namespace TemplateCompiler

namespace Report

/-- A format of diagnostics. -/
inductive Format where
  | pretty
  | short
  | json
  | sarif
  deriving DecidableEq, Repr, Inhabited

namespace Format

def name : Format → Text
  | pretty => "pretty"
  | short => "short"
  | json => "json"
  | sarif => "sarif"

def ofName? (name : Text) : Option Format :=
  [pretty, short, json, sarif].find? fun f => f.name == name

/-- Whether a format is read by tools. -/
def isStructured : Format → Bool
  | json | sarif => true
  | _ => false

end Format

/-- What is done with warnings. -/
inductive WarningPolicy where
  | keep
  | drop
  | raise
  deriving DecidableEq, Repr, Inhabited

/-- What a run reports and how, as the flags of a command say. -/
structure Options where
  format : Format := .pretty
  notes : Bool := false
  /-- Show absolute paths. -/
  fullPaths : Bool := false
  /-- The number of lines shown around each diagnostic. -/
  context : Int := 0
  warnings : WarningPolicy := .keep
  /-- Leave out the summary. -/
  quiet : Bool := false
  color : Bool := false

def Options.admit? (o : Options) (d : Diagnostic) : Option Diagnostic :=
  if d.code == .timings && !o.format.isStructured then none
  else if d.severity == .warning then
    match o.warnings with
    | .keep => some d
    | .drop => none
    | .raise => some { d with severity := .error }
  else some d

/-- What is reported of the diagnostics of all documents, in order. -/
def Options.gather (o : Options) (bags : List DiagnosticBag) : List Diagnostic :=
  (bags.flatMap DiagnosticBag.items).filterMap o.admit?

/-- Diagnostics as text, one after another in the given order.  Nothing if an excerpt cannot be
shown. -/
def render? (o : Options) (files : FileSet) (root version : Text) (arguments : List Text)
    (items : List Diagnostic) : Option Text :=
  let display : PathDisplay :=
    { style := if o.fullPaths then .absolute else .automatic, baseDirectory := root }
  match o.format with
  | .short => some (short files display items)
  | .json => some (json ⟨true, display, 0, o.notes⟩ files items)
  | .sarif => some (sarif ⟨"quill", version, arguments, display⟩ files items)
  | .pretty =>
    (pretty? ⟨o.color, o.context, display, 0, o.notes⟩ files items).map fun t =>
      if o.quiet then t else t ++ summary items

end Report

end TemplateCompiler
