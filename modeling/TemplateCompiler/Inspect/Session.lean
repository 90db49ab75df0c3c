import TemplateCompiler.Inspect.Pipeline
import TemplateCompiler.Project.Config
import TemplateCompiler.Report.Rendering
import TemplateCompiler.Session.Compile
import TemplateCompiler.Timing.Report

/-!
# Views of projects, sessions and their results

Views of results do not show measured times, so that two runs can be compared.
-/

namespace TemplateCompiler

/-! ## Configurations and disks -/

def Configuration.view (c : Configuration) : Json := .array
  [c.version.name, c.designTime, c.rootNamespace, c.leadingDirectivesOnly,
   .ofNat c.code.lineEnd.ordinal, c.code.designTime, c.code.rootNamespace]

def ProjectConfig.view (c : ProjectConfig) : Json := .record
  [("project", .array [c.rootNamespace, c.languageVersion, c.designTime]),
   ("codegen", .array [.ofInt c.indentSize.toInt, c.indentWithTabs, c.lineEnd, c.suppressChecksum,
      c.suppressMetadata, c.suppressBody]),
   ("manifests", Json.list c.manifests Json.string), ("suppressErrors", c.suppressImportErrors),
   ("cache", .array [c.keepsRecords, c.recordDirectory]), ("path", c.path), ("root", c.root),
   ("manifestPaths", Json.list c.manifestPlaces Json.string), ("cacheDir", c.recordPlace),
   ("engine", match c.engine with
      | .ok e => e.view
      | .error _ => .null)]

/-- The disk that holds the described files below a directory.  A name that ends in a slash is that
of a directory. -/
def Disk.ofJson (j : Json) (root : Text) : Disk :=
  j.members.foldl (fun d (name, content) =>
    let place := Path.join [root, name]
    if name.endsWith "/" then { d with directories := d.directories ++ [place] }
    else d.put place content.bytes) { workingDirectory := root }

mutual

/-- A value with each text changed. -/
def Json.mapTexts (f : Text → Text) : Json → Json
  | .string t => .string (f t)
  | .array items => .array (mapTextItems f items)
  | .object members => .object (mapTextMembers f members)
  | j => j

def Json.mapTextItems (f : Text → Text) : List Json → List Json
  | [] => []
  | j :: js => Json.mapTexts f j :: Json.mapTextItems f js

/-- Members with each text of their values changed. -/
def Json.mapTextMembers (f : Text → Text) : List (Text × Json) → List (Text × Json)
  | [] => []
  | (key, j) :: ms => (key, Json.mapTexts f j) :: Json.mapTextMembers f ms

end

/-! ## Results -/

/-- The diagnostic without measured times. -/
def Diagnostic.masked (d : Diagnostic) : Diagnostic :=
  { d with
    message := if d.code == .timings then Timing.masked d.message else d.message
    notes := d.notes.map fun n => { n with message := Timing.masked n.message } }

/-- The view of diagnostics without measured times. -/
def Diagnostic.viewMasked (items : List Diagnostic) : Json := viewAll (items.map masked)

def CacheRecord.view (r : CacheRecord) : List (String × Json) :=
  [("schema", .ofNat r.schema.toNat), ("path", .string r.path),
   ("src", .string r.sourceDigest.hex), ("helpers", .string r.helperDigest.hex),
   ("output", .string r.output), ("count", .ofInt r.diagnosticCount), ("errors", .bool r.hasErrors)]

def CompileResult.view (r : CompileResult) (files : FileSet) : Json :=
  let tree? := r.document?.bind (·.intermediate?)
  let defects := (tree?.map fun d => d.defects files).getD []
  .record ([("path", .string r.path), ("file", .ofNat r.file), ("cached", .bool r.isKept),
      ("output", .string r.output), ("diags", Diagnostic.viewMasked r.bag.items)]
    ++ Json.optional "timing" (r.timing?.map fun t =>
        Json.list t.phases fun p => .array [.string p.name, .string p.note])
    ++ Json.optional "ir" (tree?.map (·.toNode.view))
    ++ if defects.isEmpty then [] else [("invariants", .string (IR.Defect.report defects))])

/-- The view of an event: the start of a phase, or that a document is done. -/
def SessionEvent.view? : SessionEvent → Option Json
  | .phase path e => if e.status == .started then some (.string (path ++ " " ++ e.name)) else none
  | .finished path => some (.string ("done " ++ path))

/-- The options that a value describes, under a configuration. -/
def SessionOptions.ofJson (j : Json) (config : ProjectConfig) : SessionOptions :=
  { config, paths := j.texts "paths", maxDiagnostics := j.int "max"
    fileKind? := FileKind.ofName? (j.str "kind"), timings := j.flag "timings" }

def Report.Options.ofJson (j : Json) : Report.Options :=
  { format := (Report.Format.ofName? (j.str "format")).getD .pretty
    notes := j.flag "notes", fullPaths := j.flag "full", context := j.int "context"
    warnings := if j.flag "noWarnings" then .drop
      else if j.flag "warningsAsErrors" then .raise else .keep
    quiet := j.flag "quiet" }

end TemplateCompiler
