import TemplateCompiler.Pipeline.Engine
import TemplateCompiler.Pipeline.Lowering
import TemplateCompiler.Syntax.HelperBinding
import TemplateCompiler.Syntax.Parser
import TemplateCompiler.Trace.Tracer

/-!
# Running the pipeline

A run takes a document through the phases of an engine.  What documents share is part of the world
a run works in: the files, the import document that the engine provides, the tracer and the
journal.  The first error ends a run; the world is then as the phases before it, and the passes
before it in its own phase, have left it.
-/

namespace TemplateCompiler

/-- What a phase event says.  Every phase that is executed has one event when it starts, and another
one when it ends or fails. -/
inductive PhaseStatus where
  | started
  | ended
  | failed
  deriving DecidableEq, Repr

/-- The start or the end of a phase, told by its name. -/
structure PhaseEvent where
  name : Text
  status : PhaseStatus
  deriving DecidableEq, Repr

/-- What a run works in: the document with the files that are read for it, the tracer, and what
passes and phases have reported so far. -/
structure World where
  document : CodeDocument
  files : FileSet := .empty
  /-- The import document that the engine provides, once it was asked for. -/
  providedImport? : Option SourceFile := none
  tracer : Trace.Tracer := .none
  /-- The notes of executed passes. -/
  journal : List Text := []
  events : List PhaseEvent := []

/-- A step of a run.  It works in a world that keeps what was done before an error, as the passes
that have run and the tracer do. -/
abbrev Action := ExceptT PipelineError (StateM World)

namespace Action

def update (f : CodeDocument → CodeDocument) : Action Unit :=
  modify fun w => { w with document := f w.document }

/-- What a slot of the document holds, or the error of a phase that needs it. -/
def require {α : Type} (phase : Phase) (artifact : Artifact) (slot : CodeDocument → Option α) :
    Action α := do
  match slot (← get).document with
  | some a => pure a
  | none => throw (.missingArtifact (some phase) artifact)

/-- Record the execution of a pass that came to an outcome: its span, its note in the journal, and
its failure as an error that names the pass. -/
def record {α β : Type} (p : Pass α) (outcome : Except Text β) : Action β := do
  let w ← get
  let (tracer, span) := w.tracer.begin .pass p.name 0
  let journal := w.journal ++ p.note?.toList
  match outcome with
  | .ok b =>
    set { w with tracer := tracer.finish span [], journal }
    pure b
  | .error cause =>
    set { w with tracer := tracer.finish (span.withExtra "error" cause) [], journal }
    throw (.pass p.name cause)

/-! ## Passes -/

/-- Run passes on a syntax tree.  The document keeps the tree that the first pass was given until
all of them have succeeded. -/
def syntaxPasses : List (Pass SyntaxAction) → Syntax.Tree → Action Syntax.Tree
  | [], tree => pure tree
  | p :: ps, tree => do
    update fun d => { d with tree? := d.tree?.map p.action.leaves }
    let next ← record p (p.action.run tree)
    syntaxPasses ps next

/-- Run passes on the intermediate tree of the document, one after another.  The document has the
tree of each pass before the next one starts, so that a failing pass leaves what those before it
have made. -/
def documentPasses (phase : Phase) : List (Pass DocumentAction) → Action Unit
  | [] => pure ()
  | p :: ps => do
    let d ← require phase .intermediate (·.intermediate?)
    let d ← record p (p.action (← get).document d)
    update fun doc => { doc with intermediate? := some d }
    documentPasses phase ps

/-! ## Phases -/

/-- The import document that the engine provides for a kind; it joins the files when it is first
asked for. -/
def providedImport (f : Features) (kind : FileKind) : Action (List SourceFile) := do
  match f.providedImport?.bind (· kind) with
  | none => pure []
  | some i =>
    let w ← get
    match w.providedImport? with
    | some file => pure [file]
    | none =>
      let (files, id) := w.files.add i.path i.content .inMemory
      match files.get? id with
      | some file =>
        set { w with files, providedImport? := some file }
        pure [file]
      | none => pure []

/-- Parse the source and every import.  Options that the document already has are kept, and options
that contradict each other are an error; an import is parsed as the kind of file that its own path
implies. -/
def parsing (e : Engine) : Action Unit := do
  let source ← require .parsing .source (·.source?)
  let doc := (← get).document
  let fresh : ParserOptions := match e.features.parserOptions? with
    | some make => make e.configuration e.features.directives.entries doc
    | none => e.configuration.parserOptions [] doc
  let options := doc.parserOptions?.getD fresh
  update fun d => { d with parserOptions? := some options }
  match options.conflict? with
  | some c => throw (.parserOptions c)
  | none =>
    let provided ← providedImport e.features doc.fileKind
    let trees := (provided ++ doc.imports).map fun f =>
      Syntax.parse f { options with fileKind := .ofPath f.path }
    update fun d =>
      { d with tree? := some (Syntax.parse source options), importTrees? := some trees }

def syntaxTree (e : Engine) : Action Unit := do
  let tree ← require .syntaxTree .tree (·.tree?)
  let tree ← syntaxPasses e.features.syntaxPasses.ordered tree
  update fun d => { d with tree? := some tree }

/-- Find the tag helpers in scope, among those of the document if it has its own ones and otherwise
among those of the project.  What was found about directives is added to the tree. -/
def helperDiscovery (e : Engine) : Action Unit := do
  let tree ← require .helperDiscovery .tree (·.tree?)
  let imports ← require .helperDiscovery .importTrees (·.importTrees?)
  let doc := (← get).document
  let all := (doc.helpers?.orElse fun _ => e.features.helpers?).getD []
  let discover := e.features.discovery?.getD HelperDiscovery.nothing
  let (scope?, found) := discover all doc.fileKind tree imports
  update fun d =>
    { d with
      tree? := some { tree with diagnostics := tree.diagnostics ++ found }
      scope? := some (scope?.getD {}) }

/-- Bind elements to the tag helpers in scope. -/
def helperBinding : Action Unit := do
  let tree ← require .helperBinding .tree (·.tree?)
  let scope ← require .helperBinding .helperScope (·.scope?)
  update fun d => { d with tree? := some (tree.bindHelpers scope.binder) }

def lowering (e : Engine) : Action Unit := do
  let tree ← require .lowering .tree (·.tree?)
  let imports ← require .lowering .importTrees (·.importTrees?)
  let doc := (← get).document
  let fresh : CodeOptions := match e.features.codeOptions? with
    | some make => make e.configuration
    | none => e.configuration.codeOptions
  let options := doc.codeOptions?.getD fresh
  let d := Lowering.document tree imports
  let header := { d.header with options, sourceDigest := doc.digest }
  update fun doc =>
    { doc with codeOptions? := some options, intermediate? := some { d with header } }

/-- Run the first classifier that accepts the document, in the order of their numbers.  A document
that none of them accepts stays as it is. -/
def documentClassifier (e : Engine) : Action Unit := do
  let d ← require .documentClassifier .intermediate (·.intermediate?)
  let doc := (← get).document
  match e.features.classifiers.ordered.find? fun c => c.action.accepts doc d with
  | none => pure ()
  | some c =>
    let d ← record c (c.action.run e.features.classifierSettings doc d)
    update fun doc => { doc with intermediate? := some d }

def directiveClassifier (e : Engine) : Action Unit := do
  let _ ← require .directiveClassifier .intermediate (·.intermediate?)
  documentPasses .directiveClassifier e.features.directivePasses.ordered

def optimization (e : Engine) : Action Unit := do
  let _ ← require .optimization .intermediate (·.intermediate?)
  documentPasses .optimization e.features.optimizations.ordered

def targetLowering (e : Engine) : Action Unit := do
  let d ← require .targetLowering .intermediate (·.intermediate?)
  let options ← require .targetLowering .codeOptions (·.codeOptions?)
  match e.target.write options d with
  | .error cause => throw (.writer cause)
  | .ok output => update fun doc => { doc with output? := some output }

/-- Execute a phase that is not one of the nine.  Its document is taken over even if it fails, as
with passes that fail after others have run. -/
def custom (e : Engine) (c : CustomPhase) : Action Unit := do
  let (document, cause?) := c.run e.configuration e.features (← get).document
  update fun _ => document
  match cause? with
  | some cause => throw (.custom cause)
  | none => pure ()

end Action

/-- Execute one of the nine phases.  Each is an action of its own, which asks for the artifacts that
it needs and leaves others in the document. -/
def Phase.execute (e : Engine) : Phase → Action Unit
  | parsing => Action.parsing e
  | syntaxTree => Action.syntaxTree e
  | helperDiscovery => Action.helperDiscovery e
  | helperBinding => Action.helperBinding
  | lowering => Action.lowering e
  | documentClassifier => Action.documentClassifier e
  | directiveClassifier => Action.directiveClassifier e
  | optimization => Action.optimization e
  | targetLowering => Action.targetLowering e

def Stage.execute (e : Engine) : Stage → Action Unit
  | phase p => p.execute e
  | custom c => Action.custom e c

/-- The error of executing a phase that belongs to no engine. -/
def Phase.executeAlone (p : Phase) : PipelineError := .notInitialized (some p)

/-! ## Runs -/

namespace World

/-- Note a phase event.  Events are kept in order, and belong to the document that the run is about.
-/
def observe (w : World) (s : Stage) (status : PhaseStatus) : World :=
  { w with events := w.events ++ [⟨s.name, status⟩] }

/-- Execute one phase inside a span of the document.  The start of the phase and its end or failure
are noted, and its span is closed in either case. -/
def step (w : World) (e : Engine) (parent : Trace.OpenSpan) (s : Stage) :
    World × Option PipelineError :=
  let w := w.observe s .started
  let (tracer, span) := w.tracer.begin .phase s.name parent.id
  match (s.execute e).run { w with tracer } with
  | (.ok (), w) =>
    ({ w with tracer := w.tracer.finish span [] }.observe s .ended, none)
  | (.error err, w) =>
    ({ w with tracer := w.tracer.finish (span.withExtra "error" err.message) [] }.observe s .failed,
      some err)

/-- Execute phases one after another.  `cancelAt?` is the number of executed phases after which the
run is cancelled, `executed` how many there were. -/
def steps (w : World) (e : Engine) (parent : Trace.OpenSpan) (cancelAt? : Option Nat)
    (executed : Nat) : List Stage → World × Option PipelineError
  | [] => ({ w with tracer := w.tracer.finish parent [] }, none)
  | s :: ss =>
    if cancelAt?.any fun k => k ≤ executed then
      ({ w with tracer := w.tracer.finish parent "canceled" }, some .cancelled)
    else
      match w.step e parent s with
      | (w, some err) => ({ w with tracer := w.tracer.finish parent "failed" }, some err)
      | (w, none) => w.steps e parent cancelAt? (executed + 1) ss

/-- Take the document through all phases, inside a span with the given parent.  The first error ends
the run, and so does a request to cancel it, which is looked at in front of each phase. -/
def run (w : World) (e : Engine) (parent : Nat := 0) (cancelAt? : Option Nat := none) :
    World × Option PipelineError :=
  let name := (w.document.source?.map SourceFile.path).getD "document"
  let (tracer, span) := w.tracer.begin .document name parent
  { w with tracer }.steps e span cancelAt? 0 e.phases

end World

end TemplateCompiler
