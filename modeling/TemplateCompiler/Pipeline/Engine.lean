import TemplateCompiler.Directive.Registry
import TemplateCompiler.IR.Optimize
import TemplateCompiler.Pipeline.Classifier
import TemplateCompiler.Pipeline.Discovery
import TemplateCompiler.Pipeline.Pass

/-!
# Assembling an engine

An engine is put together once and never changes.  An assembly starts with defaults, is extended
according to the language version, and may then be customized; building it checks that everything
its phases need is there.

Nine phases are known.  An assembly may have further ones and may put them in the place of the
known ones; of such a phase only its name is known, what keeps it out of an engine and what it does
to a document.
-/

namespace TemplateCompiler

/-! ## Configuration -/

/-- What an engine is built for.  It is fixed when the engine is built, and the phases read from it
what the options of a document do not say. -/
structure Configuration where
  version : LanguageVersion := .latest
  designTime : Bool := false
  rootNamespace : Text := []
  code : CodeOptions := {}
  /-- Read only the directives before the first content. -/
  leadingDirectivesOnly : Bool := false

namespace Configuration

/-- Why an engine cannot be built for a configuration. -/
inductive Conflict where
  /-- Leading-directive parsing and design time exclude each other. -/
  | leadingAtDesignTime
  | invalidVersion (ordinal : Nat)
  | code (conflict : CodeOptions.Conflict)
  deriving DecidableEq, Repr

def Conflict.message : Conflict → Text
  | .leadingAtDesignTime => ParserOptions.Conflict.leadingAtDesignTime.message
  | .invalidVersion ordinal =>
    "engine configuration: invalid language version " ++ Text.ofNat ordinal
  | .code conflict => conflict.message

def conflict? (c : Configuration) : Option Conflict :=
  if c.leadingDirectivesOnly && c.designTime then some .leadingAtDesignTime
  else if !c.version.isValid then some (.invalidVersion c.version.ordinal.toNat)
  else c.code.conflict?.map .code

/-- The parser's options for a document under registered directives. -/
def parserOptions (c : Configuration) (directives : List DirectiveDescriptor)
    (doc : CodeDocument) : ParserOptions :=
  { version := c.version, fileKind := doc.fileKind, directives, designTime := c.designTime
    leadingDirectivesOnly := c.leadingDirectivesOnly }

/-- The code writer's options: those given, with the design time and the root namespace of the
configuration. -/
def codeOptions (c : Configuration) : CodeOptions :=
  { c.code with
    designTime := c.code.designTime || c.designTime
    rootNamespace := if c.code.rootNamespace.isEmpty then c.rootNamespace
      else c.code.rootNamespace }

end Configuration

/-! ## Phases -/

/-- A step of the pipeline, one of the nine that every engine can execute.  A phase reads artifacts
of the document, may fail for lack of one, and leaves others. -/
inductive Phase where
  | parsing
  | syntaxTree
  | helperDiscovery
  | helperBinding
  | lowering
  | documentClassifier
  | directiveClassifier
  | optimization
  | targetLowering
  deriving DecidableEq, Repr

namespace Phase

/-- The phases in the order in which they run. -/
def all : List Phase :=
  [parsing, syntaxTree, helperDiscovery, helperBinding, lowering, documentClassifier,
    directiveClassifier, optimization, targetLowering]

def name : Phase → Text
  | parsing => "parsing"
  | syntaxTree => "syntax-tree"
  | helperDiscovery => "tag-helper-discovery"
  | helperBinding => "tag-helper-rewrite"
  | lowering => "ir-lowering"
  | documentClassifier => "document-classifier"
  | directiveClassifier => "directive-classifier"
  | optimization => "optimization"
  | targetLowering => "target-lowering"

def ofName? (name : Text) : Option Phase := all.find? fun p => p.name == name

end Phase

/-- Why a document was not compiled, or an engine not built. -/
inductive PipelineError where
  /-- Something was used before an engine was built, possibly a phase. -/
  | notInitialized (phase? : Option Phase)
  | alreadyInitialized
  | noDocument
  | missingFeature (requester feature : Text)
  /-- An artifact that no phase has produced was asked for, possibly by a phase. -/
  | missingArtifact (phase? : Option Phase) (artifact : Artifact)
  | configuration (conflict : Configuration.Conflict)
  | parserOptions (conflict : ParserOptions.Conflict)
  | pass (name cause : Text)
  /-- The writer of the target has failed. -/
  | writer (cause : Text)
  /-- A phase that is not one of the nine could not be initialized or has failed. -/
  | custom (cause : Text)
  | cancelled
  deriving DecidableEq, Repr

def PipelineError.message : PipelineError → Text
  | notInitialized none => "engine: used before initialization"
  | notInitialized (some p) => "phase " ++ p.name ++ ": engine: used before initialization"
  | alreadyInitialized => "engine: already initialized"
  | noDocument => "engine: nil code document"
  | missingFeature requester feature =>
    requester ++ " requires feature " ++ feature ++ ", which is not registered"
  | missingArtifact none artifact => artifact.name ++ " has not been produced"
  | missingArtifact (some p) artifact =>
    "phase " ++ p.name ++ " requires " ++ artifact.name ++ ", which has not been produced"
  | configuration conflict => "engine: " ++ conflict.message
  | parserOptions conflict => "phase " ++ Phase.parsing.name ++ ": " ++ conflict.message
  | pass name cause => "pass " ++ name ++ ": " ++ cause
  | writer cause => "phase " ++ Phase.targetLowering.name ++ ": " ++ cause
  | custom cause => cause
  | cancelled => "context canceled"

/-! ## Features -/

/-- How the tag helpers in scope are found.  It may find nothing, which means that none are. -/
abbrev HelperDiscovery :=
  List TagHelper → FileKind → Syntax.Tree → List Syntax.Tree →
    Option HelperScope × List Diagnostic

/-- The discovery that follows directives. -/
def HelperDiscovery.standard : HelperDiscovery := fun all kind tree imports =>
  let (scope, found) := Discovery.discover all kind tree imports
  (some scope, found)

/-- The discovery that finds nothing. -/
def HelperDiscovery.nothing : HelperDiscovery := fun _ _ _ _ => (none, [])

/-- An import document that the engine itself provides.  It is read in front of the imports of a
project. -/
structure ProvidedImport where
  path : Text
  content : Text

/-- What an engine has, apart from the sequence of its phases: passes by the phase that runs them,
the directives of the language, the tag helpers of the project, and how options and scopes are
computed for a document. -/
structure Features where
  syntaxPasses : PassRegistry SyntaxAction := {}
  classifiers : PassRegistry ClassifierAction := {}
  directivePasses : PassRegistry DocumentAction := {}
  optimizations : PassRegistry DocumentAction := {}
  directives : DirectiveRegistry := {}
  targetExtensions : List Code.TargetExtension := []
  /-- The tag helpers of the project. -/
  helpers? : Option (List TagHelper) := none
  discovery? : Option HelperDiscovery := none
  parserOptions? :
    Option (Configuration → List DirectiveDescriptor → CodeDocument → ParserOptions) := none
  codeOptions? : Option (Configuration → CodeOptions) := none
  target? : Option (List Code.TargetExtension → Code.Backend) := none
  /-- The import that documents of a kind see in front of their own. -/
  providedImport? : Option (FileKind → Option ProvidedImport) := none
  classifierSettings : ClassifierSettings := {}

/-! ## Custom phases -/

/-- A phase that is not one of the nine. -/
structure CustomPhase where
  name : Text
  /-- Why the phase cannot be initialized, if it cannot. -/
  refusal? : Configuration → Features → Option Text
  /-- The document that the phase leaves, and why it has failed if it has.  A phase that fails may
  have changed the document. -/
  run : Configuration → Features → CodeDocument → CodeDocument × Option Text

/-- What a pipeline consists of: the nine phases of the language, and those that somebody has added
or put in the place of one of them. -/
inductive Stage where
  | phase (p : Phase)
  | custom (c : CustomPhase)

namespace Stage

/-- The nine phases in the order in which they run. -/
def all : List Stage := Phase.all.map .phase

def name : Stage → Text
  | phase p => p.name
  | custom c => c.name

end Stage

/-! ## Assemblies -/

/-- An engine that is being put together.  Phases and features are added one after another, and
building it checks the configuration and gives every phase the chance to refuse. -/
structure Assembly where
  configuration : Configuration
  features : Features := {}
  phases : List Stage := []
  /-- What those who put it together note. -/
  journal : List Text := []

namespace Assembly

def addDefaultPhases (a : Assembly) : Assembly := { a with phases := a.phases ++ Stage.all }

def addPhase (a : Assembly) (s : Stage) : Assembly := { a with phases := a.phases ++ [s] }

/-- Put a phase in the place of the first one of a name; nothing if there is none. -/
def replacePhase? (a : Assembly) (name : Text) (s : Stage) : Option Assembly :=
  (a.phases.findIdx? fun p => p.name == name).map fun i => { a with phases := a.phases.set i s }

/-- A change that is registered as a pass. -/
def pass (name : Text) (order : Int) (f : IR.Document → IR.Document) : Pass DocumentAction :=
  { name, order, action := .ofChange f }

/-- Add directives; a directive takes the place of one with the same keyword. -/
def addDirectives (a : Assembly) (ds : List DirectiveDescriptor) : Assembly :=
  { a with features := { a.features with
      directives := ds.foldl DirectiveRegistry.add a.features.directives } }

def addDirectivePasses (a : Assembly) (ps : List (Pass DocumentAction)) : Assembly :=
  { a with features := { a.features with
      directivePasses := a.features.directivePasses.add ps } }

def addClassifier (a : Assembly) (name : Text) (order : Int) (rule : Classifier.Rule) : Assembly :=
  { a with features := { a.features with
      classifiers := a.features.classifiers.add [{ name, order, action := rule.action }] } }

/-- Add the directives, options, target, discovery and passes that every engine has, whatever its
dialect and the version of its language. -/
def addDefaultFeatures (a : Assembly) : Assembly :=
  let a := (a.addDirectives DirectiveDescriptor.core).addClassifier "default-document-classifier"
    (2 * Pass.defaultOrder) Classifier.general
  { a with features := { a.features with
      parserOptions? := some Configuration.parserOptions
      codeOptions? := some Configuration.codeOptions
      target? := some Code.Backend.outline
      discovery? := some HelperDiscovery.standard
      syntaxPasses := a.features.syntaxPasses.add
        [{ name := "markup-text-merge", order := Pass.defaultOrder, action := .mergeText },
         { name := "directive-token-trim", order := Pass.defaultOrder + 10
           action := .trimTokens }]
      optimizations := a.features.optimizations.add
        [pass "html-content-merge" (Pass.defaultOrder + 60) IR.Document.mergeMarkup,
         pass "tag-helper-fields" Pass.defaultOrder IR.Document.declareHelpers,
         pass "eliminate-method-body" (Pass.defaultOrder + 100) IR.Document.dropBody,
         pass "directive-removal" (Pass.defaultOrder + 50) IR.Document.removeDirectives] } }

/-- Nothing but a configuration. -/
def empty (c : Configuration) : Assembly := { configuration := c }

/-- The phases and features that every engine has. -/
def standard (c : Configuration) : Assembly := (empty c).addDefaultPhases.addDefaultFeatures

/-! ## Dialects -/

/-- Add the directives that all dialects share. -/
def addShared (a : Assembly) : Assembly :=
  (a.addDirectives DirectiveDescriptor.shared).addDirectivePasses
    [pass "inherits-directive" Pass.defaultOrder Dialect.applyInherits,
     pass "functions-directive" Pass.defaultOrder (Dialect.applyMembers [.functions]),
     pass "section-directive" Pass.defaultOrder Dialect.applySections,
     pass "implements-directive" Pass.defaultOrder Dialect.applyImplements]

def viewImport (kind : FileKind) : Option ProvidedImport :=
  if kind == .legacy then some ⟨Dialect.viewImportsPath, Dialect.viewImports⟩ else none

/-- Add views and pages, with or without the import document that all of them see. -/
def addViews (a : Assembly) (withImports : Bool) : Assembly :=
  let a := ((a.addDirectives DirectiveDescriptor.views).addDirectivePasses
    [pass "model-directive" (Pass.defaultOrder + 10) Dialect.applyModel,
     pass "namespace-directive" Pass.defaultOrder Dialect.applyNamespace,
     { name := "page-directive", order := Pass.defaultOrder
       action := fun doc d =>
         .ok (Dialect.applyPage (doc.source?.map SourceFile.id) d) }]).addClassifier
    "mvc-page-classifier" Pass.defaultOrder Classifier.page
  let a := a.addClassifier "mvc-view-classifier" (Pass.defaultOrder + 100) Classifier.view
  if withImports then { a with features := { a.features with providedImport? := some viewImport } }
  else a

def addComponents (a : Assembly) : Assembly :=
  ((a.addDirectives DirectiveDescriptor.components).addClassifier "component-document-classifier"
    (Pass.defaultOrder - 100) Classifier.component).addDirectivePasses
    [pass "functions-directive" Pass.defaultOrder (Dialect.applyMembers [.code]),
     pass "typeparam-directive" Pass.defaultOrder Dialect.applyTypeParameters,
     pass "layout-directive" Pass.defaultOrder Dialect.applyLayout,
     pass "attribute-directive" Pass.defaultOrder Dialect.applyAttributes]

end Assembly

/-! ## Version extensions -/

/-- A change of an assembly for language versions from a minimum on, which may bring further
extensions along. -/
inductive VersionExtension where
  | mk (minimum : LanguageVersion) (configure : Assembly → Assembly)
      (further : List VersionExtension)

namespace VersionExtension

/-- Lists of lists joined position by position. -/
def joinLevels {α : Type} : List (List α) → List (List α) → List (List α)
  | [], ys => ys
  | xs, [] => xs
  | x :: xs, y :: ys => (x ++ y) :: joinLevels xs ys

mutual

/-- The changes that an extension makes for a version: its own, then those of the extensions it
brings along, level by level. -/
def levels (v : LanguageVersion) : VersionExtension → List (List (Assembly → Assembly))
  | mk minimum configure further =>
    if v.atLeast minimum then [configure] :: levelsAll v further else []

def levelsAll (v : LanguageVersion) : List VersionExtension → List (List (Assembly → Assembly))
  | [] => []
  | e :: es => joinLevels (levels v e) (levelsAll v es)

end

/-- The changes that extensions make for a version.  An extension that another one brings along
comes behind all that were there. -/
def changes (v : LanguageVersion) (es : List VersionExtension) : List (Assembly → Assembly) :=
  (levelsAll v es).flatten

end VersionExtension

/-! ## Building -/

/-- An engine, which compiles documents by executing its phases one after another.  It is the same
for all documents of a run, and a run changes nothing of it. -/
structure Engine where
  configuration : Configuration
  features : Features
  phases : List Stage
  target : Code.Backend

/-- An assembly with the extensions that are to be applied to it. -/
structure EngineBuilder where
  assembly : Assembly
  extensions : List VersionExtension := []
  /-- A builder builds one engine. -/
  isBuilt : Bool := false

/-- The feature that a phase needs and that is missing.  A phase is asked when the engine is built,
so that a run never meets a phase that cannot work. -/
def Phase.missingFeature? (f : Features) : Phase → Option Text
  | parsing => if f.parserOptions?.isNone then some "ParserOptionsFeature" else none
  | helperDiscovery => if f.discovery?.isNone then some "TagHelperDiscovery" else none
  | lowering => if f.codeOptions?.isNone then some "CodeGenOptionsFeature" else none
  | documentClassifier =>
    if f.classifiers.items.isEmpty then some "DocumentClassifierPass" else none
  | _ => none

/-- Why a phase cannot be part of an engine, if it cannot. -/
def Stage.error? (c : Configuration) (f : Features) : Stage → Option PipelineError
  | phase p => (p.missingFeature? f).map (.missingFeature p.name)
  | custom p => (p.refusal? c f).map .custom

namespace Assembly

/-- The error of the first phase that cannot be part of an engine. -/
def phaseError? (a : Assembly) : Option PipelineError :=
  a.phases.findSome? (Stage.error? a.configuration a.features)

def engine (a : Assembly) : Except PipelineError Engine :=
  match a.features.target? with
  | none => .error (.missingFeature "engine" "CodeTargetFeature")
  | some target =>
    match a.phaseError? with
    | some e => .error e
    | none =>
      .ok { configuration := a.configuration, features := a.features, phases := a.phases
            target := target a.features.targetExtensions }

end Assembly

namespace EngineBuilder

/-- Build the engine: apply the extensions of the version and then a customization.  The builder
comes back with what was applied to its assembly. -/
def build (b : EngineBuilder) (customize : Assembly → Assembly := id) :
    EngineBuilder × Except PipelineError Engine :=
  if b.isBuilt then (b, .error .alreadyInitialized)
  else match b.assembly.configuration.conflict? with
    | some c => ({ b with isBuilt := true }, .error (.configuration c))
    | none =>
      let changes := VersionExtension.changes b.assembly.configuration.version b.extensions
      let assembly := customize (changes.foldl (fun a f => f a) b.assembly)
      ({ b with assembly, isBuilt := true }, assembly.engine)

/-- The builder of a project's engine: all dialects, components from their version on. -/
def project (c : Configuration) (withImports : Bool) (helpers? : Option (List TagHelper)) :
    EngineBuilder :=
  let a := ((Assembly.standard c).addShared).addViews withImports
  { assembly := { a with features := { a.features with helpers? } }
    extensions := [.mk .v3_0 Assembly.addComponents []] }

end EngineBuilder

end TemplateCompiler
