import TemplateCompiler.Json.Writer
import TemplateCompiler.Project.Layout
import TemplateCompiler.Session.Basic

/-!
# Compiling documents in a session

A document is read, its imports are asked for, and the engine takes it through its phases.  Where a
project keeps records, a document that was compiled before without any diagnostic, from the same
content under the same configuration, has its output from then.
-/

namespace TemplateCompiler

namespace Session

/-! ## Records -/

/-- The record that a document without diagnostics leaves behind. -/
def recordOf (s : Session) (doc : CodeDocument) (path output : Text) : CacheRecord :=
  { schema := CacheRecord.currentSchema, path, output, sourceDigest := doc.digest
    helperDigest := s.helpers.digest }

/-- The identity of a compilation: the sources, the tag helpers, the configuration, and the kind
and the path of the document. -/
def recordKey (s : Session) (doc : CodeDocument) : Digest :=
  (s.recordOf doc [] []).key.combine
    [s.engine.configuration.digest,
     .ofFields [.ordinal doc.fileKind.ordinal,
       .text ((doc.source?.map SourceFile.path).getD [])]]

/-- The output of an earlier compilation.  A record that cannot be read counts as missing. -/
def keptOutput? (s : Session) (key : Digest) (doc : CodeDocument) : Option Text :=
  match s.records?.map fun c => (c.read key).toOption.join with
  | some (some r) =>
    if r.schema == CacheRecord.currentSchema && r.sourceDigest == doc.digest && !r.hasErrors
        && r.diagnosticCount ≤ 0 then some r.output
    else none
  | _ => none

/-- The warning about records that cannot be written. -/
def recordsClosed (cause : Text) : Diagnostic :=
  ⟨.warning, .ioInformation, "disk cache: " ++ cause, none, []⟩

/-- Keep the output of a document, if there was nothing to report.  Where records cannot be written,
a warning takes the place of the record. -/
def keep (s : Session) (key : Digest) (doc : CodeDocument) (r : CompileResult) :
    Session × CompileResult :=
  match s.records? with
  | none => (s, r)
  | some records =>
    if !r.bag.items.isEmpty then (s, r)
    else match records.closed? with
      | some cause => (s, { r with bag := (r.bag.add (recordsClosed cause)).1 })
      | none =>
        ({ s with records? := some (records.write key (s.recordOf doc r.path r.output)) }, r)

/-! ## Timings -/

def timingJson (path : Text) (t : Timing.Report) : Json :=
  let time (x : Float) : Json := .number (Text.fixed 6 x)
  .record [("kind", "document"), ("path", .string path), ("total_ms", time t.total),
    ("phases", Json.list t.phases fun p => .record (
      [("name", .string p.name), ("duration_ms", time p.duration)]
        ++ if p.note.isEmpty then [] else [("note", .string p.note)]))]

/-- The timings of a document as a diagnostic. -/
def timingDiagnostic (path : Text) (t : Timing.Report) : Diagnostic :=
  { severity := .info, code := .timings, span? := none
    message := "timings (document): total " ++ Text.fixed 2 t.total ++ " ms, " ++ path
    notes := [⟨.none, (timingJson path t).compact⟩] }

/-- Add timings to a bag; its limit does not apply to them. -/
def addTimings (bag : DiagnosticBag) (d : Diagnostic) : DiagnosticBag :=
  match bag.add d with
  | (bag, true) => bag
  | (bag, false) => bag.merge ⟨[d], 1⟩

/-- What the events of a run say about its phases. -/
def recordPhases (r : Timing.Recorder) (events : List PhaseEvent) : Timing.Recorder :=
  events.foldl (fun r e => match e.status with
    | .started => (r.begin e.name).1
    | .ended => r.finish (r.phases.length - 1) []
    | .failed => r.finish (r.phases.length - 1) "failed") r

/-! ## One document -/

/-- The diagnostic about a source that cannot be read. -/
def sourceBroken (name : Text) (cause : ReadFailure) : Diagnostic :=
  .unlocated .loadFailed ("failed to load " ++ name ++ ": " ++ cause.message)

/-- The result of a document that has been taken through all phases.  Its findings are those about
its imports and those of the code writer, in order and within the limit. -/
def compiled (s : Session) (r : CompileResult) (key : Digest) (doc : CodeDocument)
    (timer : Timing.Recorder) : Session × CompileResult :=
  let output := doc.output?.map fun o => (o.text, o.diagnostics)
  let (text, diagnostics) := output.getD ([], [])
  let r := { r with
    document? := some doc
    output := text
    bag := (r.bag.addAll diagnostics).sort }
  let (s, r) := s.keep key doc r
  let report := timer.report
  let bag := if s.options.timings then addTimings r.bag (timingDiagnostic r.path report) else r.bag
  (s, { r with timing? := some report, bag })

/-- Take a document through the phases of the engine, inside a span.  The session takes over the
files, the tracer and the events of the run, whatever comes of it. -/
def runDocument (s : Session) (r : CompileResult) (key : Digest) (doc : CodeDocument)
    (timer : Timing.Recorder) (parent : Nat) : Session × Except SessionError CompileResult :=
  let world : World :=
    { document := doc, files := s.files, providedImport? := s.providedImport?, tracer := s.tracer }
  let (w, error?) := world.run s.engine parent
  let s := { s with
    files := w.files
    providedImport? := w.providedImport?
    tracer := w.tracer
    events := s.events ++ w.events.map (.phase r.path) }
  match error? with
  | some cause => (s, .error (.document r.path cause))
  | none =>
    let (s, r) := s.compiled r key w.document (recordPhases timer w.events)
    (s, .ok r)

/-- Compile a document whose source has been read, inside a span.  The imports are asked for first,
since the key of its record depends on their content; with a record of an earlier compilation no
phase is executed. -/
def compileSource (s : Session) (name : Text) (file : SourceFile) (parent : Nat) :
    Session × Except SessionError CompileResult :=
  let kind := s.options.fileKind?.getD (.ofPath name)
  let (timer, load) := Timing.Recorder.begin {} "load"
  match s.askImports name (.ofLimit s.options.maxDiagnostics) [] (Project.importPaths name kind) with
  | (s, .error e) => (s, .error e)
  | (s, .ok (bag, imports)) =>
    let timer := timer.finish load (Text.ofNat imports.length ++ " imports")
    let doc := { CodeDocument.ofSource file imports with fileKind := kind }
    let key := s.recordKey doc
    let r : CompileResult := { path := name, file := file.id, bag }
    match s.keptOutput? key doc with
    | some output => (s, .ok { r with output, isKept := true, timing? := some timer.report })
    | none => s.runDocument r key doc timer parent

/-- Compile a document, by its path from the root.  A source that cannot be read is a diagnostic of
the document. -/
def compileFile (s : Session) (path : Text) (parent : Nat := 0) :
    Session × Except SessionError CompileResult :=
  let name := Path.clean path
  let (tracer, span) := s.tracer.begin .document name parent
  let s := { s with tracer }
  let (s, result) : Session × Except SessionError CompileResult :=
    match s.source.read name with
    | .error cause =>
      (s, .ok { path := name
                bag := (DiagnosticBag.ofLimit s.options.maxDiagnostics).addAll
                  [sourceBroken name cause] })
    | .ok content =>
      let (files, id) := s.files.addRelative name name content .none
      match files.get? id with
      | some file => { s with files }.compileSource name file span.id
      | none => (s, .error .cancelled)
  ({ s with tracer := s.tracer.finish span [] }, result)

/-! ## Many documents -/

/-- The path of a file or directory from the root, and an error if it leads out of the project. -/
def relativePath (s : Session) (path : Text) : Except SessionError Text :=
  if !Path.isRooted path then .ok (Path.clean path)
  else match Path.relativeTo? s.options.config.root path with
    | none => .error (.outsideRoot path s.options.config.root)
    | some relative =>
      if (Path.components relative).head? == some ".." then
        .error (.outsideRoot path s.options.config.root)
      else .ok relative

/-- The documents that a path from the root stands for: itself, or the documents below it. -/
def documentsAt (s : Session) (name : Text) : List Text :=
  match s.source.isDirectory? name with
  | some true => ((s.source.filesBelow name).filter Project.isDocument).mergeSort Text.le
  | _ => [name]

/-- The documents that paths stand for, each once. -/
def expand (s : Session) (paths : List Text) : Except SessionError (List Text) := do
  let names ← paths.mapM s.relativePath
  return (names.flatMap s.documentsAt).foldl
    (fun found name => if found.contains name then found else found ++ [name]) []

/-- Compile documents one after another, each in the session that the one before it has left.  The
first error ends the run. -/
def compileNames (s : Session) (parent : Nat) (results : List CompileResult) :
    List Text → Session × Except SessionError (List CompileResult)
  | [] => (s, .ok results)
  | name :: names =>
    match s.compileFile name parent with
    | (s, .error e) => (s, .error e)
    | (s, .ok r) =>
      let s := { s with events := s.events ++ [SessionEvent.finished r.path] }
      s.compileNames parent (results ++ [r]) names

/-- Compile all documents of the session's paths, each once, inside one span for all of them. -/
def compileAll (s : Session) : Session × Except SessionError (List CompileResult) :=
  let (tracer, span) := s.tracer.begin .driver "compile" 0
  let (s, results) : Session × Except SessionError (List CompileResult) :=
    match s.expand s.options.paths with
    | .error e => ({ s with tracer }, .error e)
    | .ok names => { s with tracer }.compileNames span.id [] names
  ({ s with tracer := s.tracer.finish span [] }, results)

end Session

end TemplateCompiler
