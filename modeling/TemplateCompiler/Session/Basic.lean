import TemplateCompiler.Cache.Record
import TemplateCompiler.Pipeline.Run
import TemplateCompiler.Project.Config
import TemplateCompiler.TagHelper.Manifest
import TemplateCompiler.Timing.Report

/-!
# Sessions

A session compiles the documents of one project.  What its documents share is part of it: the files
that were read, the engine, the tag helpers of the manifests, the import documents that were asked
for, and the records of earlier compilations if the project keeps any.
-/

namespace TemplateCompiler

/-! ## Errors -/

/-- Why a session cannot be opened, or a document not be compiled. -/
inductive SessionError where
  /-- There is neither a file source nor a root directory. -/
  | noRoot
  | config (cause : ProjectConfig.LoadError)
  | engine (cause : PipelineError)
  /-- A manifest cannot be opened. -/
  | manifestClosed (name : Text) (cause : ReadFailure)
  /-- A manifest can be opened, and then not be read. -/
  | manifestBroken (name : Text) (cause : ReadFailure)
  | manifest (name : Text) (cause : TagHelper.Manifest.ReadError)
  /-- An import document is there, but cannot be read. -/
  | importBroken (importer name : Text) (cause : ReadFailure)
  | document (name : Text) (cause : PipelineError)
  | outsideRoot (path root : Text)
  | cancelled

def SessionError.message : SessionError → Text
  | noRoot => "driver: configuration has no project root"
  | config cause => cause.message
  | engine cause => cause.message
  | manifestClosed name cause => "tag helper manifest " ++ name ++ ": " ++ cause.message
  | manifestBroken name cause => name ++ ": tag helper manifest: " ++ cause.message
  | manifest name cause => name ++ ": " ++ cause.message
  | importBroken importer name cause =>
    importer ++ ": import " ++ name ++ ": " ++ cause.message
  | document name cause => name ++ ": " ++ cause.message
  | outsideRoot path root => path ++ " is outside the project root " ++ root
  | cancelled => PipelineError.cancelled.message

/-! ## Results -/

/-- What became of a document: the generated text if there is one, all that was found about it and
its imports, and how long its phases took. -/
structure CompileResult where
  path : Text
  /-- The number of the source file; zero if it was not read. -/
  file : Nat := 0
  /-- The compiled document, unless its source was not read or its output was kept. -/
  document? : Option CodeDocument := none
  output : Text := []
  bag : DiagnosticBag
  timing? : Option Timing.Report := none
  /-- Whether the output is that of an earlier compilation. -/
  isKept : Bool := false

/-- What a session tells about its progress. -/
inductive SessionEvent where
  | phase (path : Text) (event : PhaseEvent)
  | finished (path : Text)

/-! ## Sessions -/

/-- What is asked of a session: the configuration of the project, the files and directories to
compile, and how much of what is found is kept and reported. -/
structure SessionOptions where
  config : ProjectConfig := {}
  /-- The files and directories to compile. -/
  paths : List Text := []
  /-- The number of diagnostics kept of a document; no limit unless positive. -/
  maxDiagnostics : Int := 0
  /-- A kind that takes the place of the one each path implies. -/
  fileKind? : Option FileKind := none
  /-- Report the timings of a document among its diagnostics. -/
  timings : Bool := false

/-- What is known about an import document, once it was asked for.  A missing one is no error, and
one that cannot be read is an error or a warning about every document that asks for it. -/
inductive ImportEntry where
  | present (file : SourceFile)
  | missing
  | broken (cause : ReadFailure)

/-- A session: everything that compiling the documents of a project needs and leaves behind.  The
engine and the tag helpers stay the same, while files and import documents become known as documents
ask for them. -/
structure Session where
  options : SessionOptions
  source : FileSource
  engine : Engine
  helpers : TagHelperSet
  files : FileSet := .empty
  /-- The import documents that were asked for. -/
  imports : List (Text × ImportEntry) := []
  /-- The import document that the engine provides, once it was asked for. -/
  providedImport? : Option SourceFile := none
  records? : Option RecordCache := none
  tracer : Trace.Tracer := .none
  events : List SessionEvent := []

/-- The digest of all that a configuration says about output.  It is part of the key of records, so
that no record of another configuration is used. -/
def Configuration.digest (c : Configuration) : Digest := .ofFields
  [.ordinal c.version.ordinal.toNat, .bool c.designTime, .text c.rootNamespace,
   .bool c.leadingDirectivesOnly, .int c.code.indentSize,
   .bool c.code.indentWithTabs, .ordinal c.code.lineEnd.ordinal, .bool c.code.designTime,
   .text c.code.rootNamespace, .bool c.code.suppressChecksum, .bool c.code.suppressMetadata,
   .bool c.code.suppressBody]

namespace Session

/-! ## Tag helpers -/

/-- Read the manifests one after another with one pool; the sets are united in order. -/
def readManifests (source : FileSource) (pool : TagHelper.Pool) (helpers : TagHelperSet) :
    List Text → Except SessionError TagHelperSet
  | [] => .ok helpers
  | name :: names =>
    match source.readStream (Path.clean name) with
    | .error failure =>
      .error (if failure.wasOpened then .manifestBroken name failure
        else .manifestClosed name failure)
    | .ok text =>
      match TagHelper.Manifest.readJson text pool with
      | (_, .error cause) => .error (.manifest name cause)
      | (pool, .ok set) => readManifests source pool (helpers.union set) names

/-! ## Opening -/

/-- Open a session: read the manifests, check the configuration and build the engine.  No document
and no import is read yet. -/
def start (options : SessionOptions) (source : FileSource) (records? : Option RecordCache := none)
    (tracer : Trace.Tracer := .none) : Except SessionError Session := do
  let helpers ← readManifests source {} {} options.config.manifests
  let configuration ← options.config.engine.mapError .config
  let engine ← (EngineBuilder.project configuration true (some helpers.items)).build.2.mapError
    .engine
  return { options, source, engine, helpers, records?, tracer }

/-- Open a session on the root directory of a disk. -/
def startOnDisk (options : SessionOptions) (disk : Disk) (records? : Option RecordCache := none)
    (tracer : Trace.Tracer := .none) : Except SessionError Session :=
  if options.config.root.isEmpty then .error .noRoot
  else start options (disk.source options.config.root) records? tracer

/-! ## Import documents -/

/-- What is known about an import document. -/
def knownImport? (s : Session) (name : Text) : Option ImportEntry :=
  (s.imports.find? fun e => e.1 == name).map Prod.snd

/-- Read an import document for the first time.  A file that is not there is remembered as well as
one that cannot be read. -/
def readImport (s : Session) (name : Text) : FileSet × ImportEntry :=
  match s.source.read name with
  | .error failure => (s.files, if failure.isMissing then .missing else .broken failure)
  | .ok content =>
    let (files, id) := s.files.addRelative name name content .none
    match files.get? id with
    | some file => (files, .present file)
    | none => (files, .missing)

/-- Ask for an import document.  It is read once in a session, whatever comes of it. -/
def askImport (s : Session) (name : Text) : Session × ImportEntry :=
  match s.knownImport? name with
  | some entry => (s, entry)
  | none =>
    let (files, entry) := s.readImport name
    ({ s with files, imports := s.imports ++ [(name, entry)] }, entry)

/-- The warning about an import document that is ignored. -/
def ignoredImport (name : Text) (cause : ReadFailure) : Diagnostic :=
  ⟨.warning, .importUnavailable,
    "import " ++ name ++ " could not be read and is ignored: " ++ cause.message, none, []⟩

/-- Ask for the import documents of a document in order.  One that cannot be read is an error, or a
warning where the project says so. -/
def askImports (s : Session) (document : Text) (bag : DiagnosticBag) (found : List SourceFile) :
    List Text → Session × Except SessionError (DiagnosticBag × List SourceFile)
  | [] => (s, .ok (bag, found))
  | name :: names =>
    match s.askImport name with
    | (s, .present file) => s.askImports document bag (found ++ [file]) names
    | (s, .missing) => s.askImports document bag found names
    | (s, .broken cause) =>
      if s.options.config.suppressImportErrors then
        s.askImports document (bag.add (ignoredImport name cause)).1 found names
      else (s, .error (.importBroken document name cause))

end Session

end TemplateCompiler
