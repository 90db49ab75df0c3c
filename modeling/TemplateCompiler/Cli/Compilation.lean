import TemplateCompiler.Cache.Record
import TemplateCompiler.Cli.Observation
import TemplateCompiler.IR.Dump
import TemplateCompiler.Report.Rendering
import TemplateCompiler.Session.Compile

/-!
# The commands that compile

Both `compile` and `diag` open the project of their operands and compile it.  The first writes the
generated code, and what there is to report on the standard error; the second only reports, on the
standard output.
-/

namespace TemplateCompiler

namespace Cli

open Job

/-! ## The project -/

/-- The directory from which the configuration is searched. -/
def startDirectory (disk : Disk) (operands : List Text) : Text :=
  match operands with
  | [] => "."
  | path :: _ => match disk.entry path with
    | .ok .directory => path
    | _ => Path.dir path

/-- The configuration with what the flags say instead. -/
def overridden (g : Given) (c : ProjectConfig) : ProjectConfig :=
  { c with
    languageVersion := (g.value? .languageVersion).getD c.languageVersion
    rootNamespace := (g.value? .rootNamespace).getD c.rootNamespace
    designTime := if g.has .designTime then g.isOn .designTime else c.designTime
    keepsRecords := if g.has .records then g.isOn .records else c.keepsRecords }

/-- The configuration of the project that operands belong to. -/
def loadConfig (g : Given) (operands : List Text) : Job ProjectConfig := do
  let disk := (← get).disk
  let path := g.text .config
  let config ← ofExcept .config (
    if path.isEmpty then ProjectConfig.discover disk (startDirectory disk operands)
    else ProjectConfig.load disk path)
  ofExcept .config (overridden g config).checked

def sessionOptions (g : Given) (config : ProjectConfig) : Job SessionOptions := do
  let kind := g.text .fileKind
  let fileKind? ← if kind.isEmpty then pure none
    else some <$> choose .fileKind kind "legacy|component|component-import" (FileKind.ofName? kind)
  let disk := (← get).disk
  return { config, fileKind?, maxDiagnostics := g.integer .maxDiagnostics
           timings := g.isOn .timings
           paths := if g.operands.isEmpty then [config.root] else g.operands.map disk.absolute }

/-- The directory of the records, made if it is not there; nothing if no records are kept. -/
def recordDirectory? (r : Request) (config : ProjectConfig) : Job (Option Text) := do
  if !config.keepsRecords then return none
  let place ← if !config.recordPlace.isEmpty then pure config.recordPlace
    else match r.userCache? with
      | some base => pure (Path.join [base, "quill"])
      | none => throw .noHome
  onDisk .disk fun d => d.makeDirectories place
  return some place

/-! ## Compiling -/

/-- A project that has been compiled, with its configuration, the files that were read on the way,
and a result for each document in the order of their paths. -/
structure Compilation where
  config : ProjectConfig
  files : FileSet
  results : List CompileResult

/-- Take over the trace and the records of a session. -/
def adopt (s : Session) (directory? : Option Text) : Job Unit := modify fun c =>
  { c with
    tracer := s.tracer
    disk := match s.records?, directory? with
      | some records, some directory => records.save c.disk directory
      | _, _ => c.disk }

/-- Whether a choice of a progress view is one. -/
def isProgressChoice (value : Text) : Bool :=
  ([[], ("auto" : Text), "on", "off"]).contains value.toLower.trimBlank

/-- Compile the project of the operands. -/
def compilation (r : Request) (progress : Text) : Job Compilation := do
  let config ← loadConfig r.given r.given.operands
  let options ← sessionOptions r.given config
  let directory? ← recordDirectory? r config
  choose .progress progress "auto|on|off" (if isProgressChoice progress then some () else none)
  let c ← get
  let session ← ofExcept .session
    (Session.startOnDisk options c.disk (directory?.map (RecordCache.ofDisk c.disk)) c.tracer)
  let (session, results) := session.compileAll
  adopt session directory?
  let results ← ofExcept .session results
  return { config, files := session.files, results }

/-! ## Reporting -/

def warningPolicy (g : Given) : Job Report.WarningPolicy :=
  match g.isOn .noWarnings, g.isOn .warningsAsErrors with
  | true, true => throw .warningConflict
  | true, false => pure .drop
  | false, true => pure .raise
  | false, false => pure .keep

def reportOptions (g : Given) : Job Report.Options := do
  let name := (g.text .reportFormat).toLower
  let format ← match Report.Format.ofName? name with
    | some format => pure format
    | none => throw (.unknownFormat name)
  let warnings ← warningPolicy g
  return { format, warnings, notes := g.isOn .notes, fullPaths := g.isOn .fullPaths
           context := g.integer .context, quiet := g.isOn .quiet, color := (← get).color }

/-- The sums of the timings of all documents; nothing if there are none. -/
def timingSummary (results : List CompileResult) : Text :=
  let totals := Timing.Totals.ofReports (results.filterMap CompileResult.timing?)
  Text.when (totals.documents != 0)
    (Text.ofNat totals.documents ++ " documents, " ++ totals.report.summary)

/-- Report the diagnostics of a compilation.  Errors among them are the run's failure. -/
def finishReport (r : Request) (o : Report.Options) (show_ : Text → Job Unit)
    (c : Compilation) : Job Unit := do
  let items := o.gather (c.results.map CompileResult.bag)
  show_ ((Report.render? o c.files c.config.root r.build.version r.arguments items).getD [])
  if r.given.isOn .timings && !o.quiet then printError (timingSummary c.results)
  if Diagnostic.anyError items then throw .reported

/-! ## The commands -/

/-- The intermediate form of a document, under a heading. -/
def intermediateText (r : CompileResult) : Text :=
  let body : Text :=
    if r.isKept then "(from disk cache)\n"
    else match r.document?.bind CodeDocument.intermediate? with
      | some ir => ir.dump
      | none => "(none)\n"
  "== IR " ++ r.path ++ " ==\n" ++ body

/-- The file of the generated code of a document. -/
def outputPath (directory document : Text) : Text := Path.join [directory, document ++ ".g.cs"]

/-- Write the generated code of a document below a directory. -/
def writeOutput (directory : Text) (r : CompileResult) : Job Unit := do
  let path := outputPath directory r.path
  onDisk .disk fun d => d.makeDirectories (Path.dir path)
  onDisk .disk fun d => d.write path r.output

/-- Give out the results of a document; `many` says whether there are others. -/
def emit (g : Given) (many : Bool) (r : CompileResult) : Job Unit := do
  if g.isOn .emitIR then print (intermediateText r)
  if !r.output.isEmpty then
    let directory := g.text .output
    if directory.isEmpty then
      print (Text.when many ("// ---- " ++ r.path ++ " ----\n") ++ r.output)
    else writeOutput directory r

/-- Compile and write the generated code. -/
def compile (r : Request) : Job Unit := do
  let o ← reportOptions r.given
  let c ← onFailure (compilation r (r.given.text .progress)) dumpTrace
  c.results.forM (emit r.given (1 < c.results.length))
  finishReport r o printError c

def diagnose (r : Request) : Job Unit := do
  let o ← reportOptions r.given
  let c ← onFailure (compilation r "off") dumpTrace
  finishReport r o print c

end Cli

end TemplateCompiler
