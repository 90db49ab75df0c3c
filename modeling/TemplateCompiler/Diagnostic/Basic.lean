import TemplateCompiler.Diagnostic.Code
import TemplateCompiler.Source.Span

/-!
# Diagnostics

A diagnostic is a finding about a template: how severe it is, what kind it is, where it is and what
it says.  Some findings have no place, such as those about a descriptor.  A `DiagnosticBag` collects
diagnostics up to a limit, and puts them in the order of their places.
-/

namespace TemplateCompiler

/-- How severe a diagnostic is.  A report counts errors and fails on them, can leave warnings out or
raise them to errors, and only shows the rest. -/
inductive Severity where
  | info
  | warning
  | error
  /-- A severity that is not defined; it counts as worse than an error. -/
  | unknown (ordinal : UInt8)
  deriving DecidableEq, Repr, Inhabited

namespace Severity

def ofOrdinal (n : UInt8) : Severity :=
  if n == 0 then info else if n == 1 then warning else if n == 2 then error else unknown n

def ordinal : Severity → Nat
  | info => 0
  | warning => 1
  | error => 2
  | unknown n => n.toNat

def name : Severity → Text
  | info => "info"
  | warning => "warning"
  | error => "error"
  | unknown _ => "unknown"

/-- The severity of a name; any other name counts as an error. -/
def ofName (name : Text) : Severity :=
  if name == "info" then info else if name == "warning" then warning else error

/-- Whether a diagnostic of this severity is an error. -/
def isError (s : Severity) : Bool := 2 ≤ s.ordinal

/-- Whether a diagnostic of this severity is a warning or worse. -/
def isWarning (s : Severity) : Bool := 1 ≤ s.ordinal

end Severity

/-- A remark that belongs to a diagnostic and has a place of its own, such as where a keyword was
used before. -/
structure DiagnosticNote where
  span : Span
  message : Text
  deriving DecidableEq, Repr

/-- A finding about a template, a tag helper or a run.  It has a severity, a code by which tools
recognize it, a message, a place if it is about one, and further remarks with places of their own.
-/
structure Diagnostic where
  severity : Severity
  code : DiagnosticCode
  message : Text
  /-- The place of the finding, if it has one. -/
  span? : Option Span
  notes : List DiagnosticNote := []
  deriving DecidableEq, Repr

namespace Diagnostic

def error (code : DiagnosticCode) (span : Span) (message : Text) : Diagnostic :=
  ⟨.error, code, message, some span, []⟩

def warning (code : DiagnosticCode) (span : Span) (message : Text) : Diagnostic :=
  ⟨.warning, code, message, some span, []⟩

/-- An error without a place. -/
def unlocated (code : DiagnosticCode) (message : Text) : Diagnostic :=
  ⟨.error, code, message, none, []⟩

def withNote (d : Diagnostic) (span : Span) (message : Text) : Diagnostic :=
  { d with notes := d.notes ++ [⟨span, message⟩] }

def isError (d : Diagnostic) : Bool := d.severity.isError

/-- The span of the diagnostic; the span of no position if it has no place. -/
def span (d : Diagnostic) : Span := d.span?.getD .none

def text (d : Diagnostic) : Text :=
  match d.span? with
  | none => d.severity.name ++ " " ++ d.code.id ++ ": " ++ d.message
  | some span => d.severity.name ++ " " ++ d.code.id ++ " " ++ span.text ++ ": " ++ d.message

def anyError (items : List Diagnostic) : Bool := items.any isError

/-! ## Order -/

def compareNat (a b : Nat) : Ordering := if a < b then .lt else if b < a then .gt else .eq

/-- The order of diagnostics: those without a place first, in the order in which they were found;
then by file, start and end; at one place the more severe first, then by identifier. -/
def compare (a b : Diagnostic) : Ordering :=
  match a.span?, b.span? with
  | none, none => .eq
  | none, some _ => .lt
  | some _, none => .gt
  | some s, some t =>
    (compareNat s.file t.file).then <|
    (compareNat s.start t.start).then <|
    (compareNat s.stop t.stop).then <|
    (compareNat b.severity.ordinal a.severity.ordinal).then <|
    Text.compare a.code.id b.code.id

/-- Diagnostics in order; equal ones keep theirs. -/
def sorted (items : List Diagnostic) : List Diagnostic :=
  items.mergeSort fun a b => compare a b != .gt

/-- Whether two diagnostics say the same about the same place. -/
def repeats (a b : Diagnostic) : Bool :=
  a.code == b.code && a.span? == b.span? && a.message == b.message

/-- The diagnostics that repeat none of `seen` and no earlier one. -/
def distinctFrom (seen : List Diagnostic) : List Diagnostic → List Diagnostic
  | [] => []
  | d :: rest =>
    if seen.any (repeats d) then distinctFrom seen rest else d :: distinctFrom (d :: seen) rest

/-- The diagnostics without repetitions; of repeated ones the first is kept. -/
def distinct (items : List Diagnostic) : List Diagnostic := distinctFrom [] items

end Diagnostic

/-! ## Bags -/

/-- A collection of diagnostics.  With a positive limit it takes no more than that many. -/
structure DiagnosticBag where
  items : List Diagnostic := []
  limit : Nat := 0
  deriving Inhabited

namespace DiagnosticBag

/-- An empty bag; a limit that is not positive is no limit. -/
def ofLimit (limit : Int) : DiagnosticBag := ⟨[], limit.toNat⟩

/-- Whether the bag takes no more diagnostics. -/
def isFull (b : DiagnosticBag) : Bool := 0 < b.limit && b.limit ≤ b.items.length

/-- Add a diagnostic if there is room, and say whether there was. -/
def add (b : DiagnosticBag) (d : Diagnostic) : DiagnosticBag × Bool :=
  if b.isFull then (b, false) else ({ b with items := b.items ++ [d] }, true)

/-- Add diagnostics in order until the bag is full. -/
def addAll (b : DiagnosticBag) (items : List Diagnostic) : DiagnosticBag :=
  items.foldl (fun b d => (b.add d).1) b

/-- Add all diagnostics of another bag; the limit gives way. -/
def merge (b other : DiagnosticBag) : DiagnosticBag :=
  let items := b.items ++ other.items
  ⟨items, if 0 < b.limit && b.limit < items.length then items.length else b.limit⟩

/-- The bag in the order of its diagnostics. -/
def sort (b : DiagnosticBag) : DiagnosticBag := { b with items := Diagnostic.sorted b.items }

def dedup (b : DiagnosticBag) : DiagnosticBag := { b with items := Diagnostic.distinct b.items }

def hasErrors (b : DiagnosticBag) : Bool := Diagnostic.anyError b.items

/-- Whether the bag holds a warning or worse. -/
def hasWarnings (b : DiagnosticBag) : Bool := b.items.any fun d => d.severity.isWarning

end DiagnosticBag

end TemplateCompiler
