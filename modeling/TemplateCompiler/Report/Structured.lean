import TemplateCompiler.Json.Writer
import TemplateCompiler.Report.Place

/-!
# Reports for tools

Diagnostics as one JSON document, and in the interchange format of static analysis results.
-/

namespace TemplateCompiler

namespace Report

/-! ## One document -/

/-- What a JSON report shows. -/
structure JsonStyle where
  /-- Show lines and columns beside byte offsets. -/
  positions : Bool := false
  display : PathDisplay := {}
  /-- The number of diagnostics shown; no limit unless positive. -/
  limit : Int := 0
  notes : Bool := false

/-- A member with a word, unless it is zero. -/
def positiveWord (key : String) (w : UInt32) : List (String × Json) :=
  if w == 0 then [] else [(key, .ofNat w.toNat)]

/-- The place of a span in a file, with lines and columns if the style of the report shows them. -/
def location (s : JsonStyle) (f : SourceFile) (span : Span) : Json :=
  let start := f.position span.start
  let stop := f.position span.stop
  .record (
    [("file", .string (s.display.path f)), ("start_byte", .ofNat span.start),
     ("end_byte", .ofNat span.stop)]
      ++ if s.positions then
          positiveWord "start_line" start.line ++ positiveWord "start_col" start.column
            ++ positiveWord "end_line" stop.line ++ positiveWord "end_col" stop.column
        else [])

def noteJson (s : JsonStyle) (files : FileSet) (located : Bool) (n : DiagnosticNote) : Json :=
  let file? := if located then files.get? n.span.file else none
  .record ([("message", .string n.message)]
    ++ Json.optional "location" (file?.map fun f => location s f n.span))

/-- A diagnostic.  The notes of timings are always shown: they carry the measurements. -/
def diagnosticJson (s : JsonStyle) (files : FileSet) (d : Diagnostic) : Json :=
  let found := fileOf? files d
  let notes := if s.notes || d.code == .timings then d.notes else []
  .record (
    [("severity", .string d.severity.name), ("code", .string d.code.id),
     ("title", .string d.code.title), ("message", .string d.message)]
      ++ Json.optional "location" (found.map fun (f, span) => location s f span)
      ++ if notes.isEmpty then []
        else [("notes", Json.list notes (noteJson s files found.isSome))])

def json (s : JsonStyle) (files : FileSet) (items : List Diagnostic) : Text :=
  let shown := if 0 < s.limit then items.take s.limit.toNat else items
  Json.indented (.record
    [("diagnostics", Json.list shown (diagnosticJson s files)), ("count", .ofNat shown.length),
     ("errors", .ofNat (shown.countP Diagnostic.isError))]) ++ "\n"

/-! ## Interchange -/

/-- What produced the results. -/
structure SarifRun where
  tool : Text := []
  version : Text := []
  arguments : List Text := []
  display : PathDisplay := {}

def sarifLevel : Severity → Text
  | .error => "error"
  | .warning => "warning"
  | _ => "note"

def sarifMessage (t : Text) : Json := .record [("text", .string t)]

/-- The place of a span, possibly with a message. -/
def sarifLocation (r : SarifRun) (f : SourceFile) (span : Span) (message? : Option Text) : Json :=
  let start := f.position span.start
  let stop := f.position span.stop
  let word (w : UInt32) : Json := .ofNat w.toNat
  .record (
    [("physicalLocation", .record
      [("artifactLocation", .record [("uri", .string (r.display.path f))]),
       ("region", .record
          [("startLine", word start.line), ("startColumn", word start.column),
           ("endLine", word stop.line), ("endColumn", word stop.column),
           ("byteOffset", .ofNat span.start), ("byteLength", word span.length)])])]
      ++ Json.optional "message" (message?.map sarifMessage))

def sarifResult (r : SarifRun) (files : FileSet) (d : Diagnostic) : Json :=
  let related := d.notes.filterMap fun n =>
    (files.get? n.span.file).map fun f => sarifLocation r f n.span (some n.message)
  .record (
    [("ruleId", .string d.code.id), ("level", .string (sarifLevel d.severity)),
     ("message", sarifMessage d.message)]
      ++ match fileOf? files d with
        | none => []
        | some (f, span) =>
          [("locations", .array [sarifLocation r f span none])]
            ++ if related.isEmpty then [] else [("relatedLocations", .array related)])

/-- The codes that occur, in the order of their first occurrence. -/
def codesFrom (seen : List DiagnosticCode) : List Diagnostic → List DiagnosticCode
  | [] => []
  | d :: ds => if seen.contains d.code then codesFrom seen ds
    else d.code :: codesFrom (d.code :: seen) ds

/-- A member with a list, unless it is empty. -/
def nonEmptyList {α : Type} (key : String) (items : List α) (f : α → Json) :
    List (String × Json) :=
  if items.isEmpty then [] else [(key, Json.list items f)]

/-- The results of a run in the interchange format.  Every code that occurs is a rule. -/
def sarif (r : SarifRun) (files : FileSet) (items : List Diagnostic) : Text :=
  let rules := nonEmptyList "rules" (codesFrom [] items) fun c => .record
    [("id", .string c.id), ("shortDescription", sarifMessage c.title)]
  let tool : Json := .record [("driver", .record (
    [("name", .string r.tool)]
      ++ (if r.version.isEmpty then [] else [("version", .string r.version)]) ++ rules))]
  let invocation : Json := .record (nonEmptyList "arguments" r.arguments Json.string
    ++ [("executionSuccessful", .bool (!Diagnostic.anyError items))])
  Json.indented (.record
    [("$schema", "https://json.schemastore.org/sarif-2.1.0.json"), ("version", "2.1.0"),
     ("runs", .array [.record
        [("tool", tool), ("invocations", .array [invocation]),
         ("results", Json.list items (sarifResult r files))]])]) ++ "\n"

end Report

end TemplateCompiler
