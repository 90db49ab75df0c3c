import TemplateCompiler.Diagnostic.Basic
import TemplateCompiler.Json.Basic

/-!
# Views of spans and diagnostics

JSON views of the library's values, for tools that look into a compilation.  A view shows every
field that a reader of the value can observe, under short keys.
-/

namespace TemplateCompiler

/-- The view of a span: its file, start and end. -/
def Span.view (s : Span) : Json := .array [.ofNat s.file, .ofNat s.start, .ofNat s.stop]

/-- The view of a span that may be missing. -/
def Span.viewOptional (s : Option Span) : Json := Json.orNull (s.map Span.view)

def DiagnosticNote.view (n : DiagnosticNote) : Json :=
  .record [("span", n.span.view), ("msg", .string n.message)]

def Diagnostic.view (d : Diagnostic) : Json := .record (
  [("sev", .string d.severity.name), ("code", .string d.code.id), ("msg", .string d.message)]
    ++ Json.optional "span" (d.span?.map Span.view)
    ++ (if d.notes.isEmpty then [] else [("notes", Json.list d.notes DiagnosticNote.view)]))

def Diagnostic.viewAll (items : List Diagnostic) : Json := Json.list items Diagnostic.view

end TemplateCompiler
