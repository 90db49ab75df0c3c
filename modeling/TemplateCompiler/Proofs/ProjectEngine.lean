import TemplateCompiler.Proofs.PipelineRun

/-!
# What the engine of a project computes

The builder of a project's engine fixes the phases and the passes; a project can only register
further directives.  None of these passes fails, so a document either has options that the parser
refuses, or it comes out of the phases with an output.  That output is written here as one
expression: the trees are read and prepared, tag helpers are bound, the trees are lowered, one of
four rules classifies the document, and the remaining passes change it in a fixed order.
-/

namespace TemplateCompiler

open IR

/-! ## Passes in order -/

namespace ProjectEngine

/-- The rules that are asked whether they classify a document. -/
def rules (components : Bool) : List Classifier.Rule :=
  if components then
    [Classifier.component, Classifier.page, Classifier.view, Classifier.general]
  else [Classifier.page, Classifier.view, Classifier.general]

/-- What directives change in a document with its file, in order. -/
def directiveChanges (components : Bool) : List (Option Nat → Document → Document) :=
  [fun _ => Dialect.applyInherits, fun _ => Dialect.applyMembers [.functions],
    fun _ => Dialect.applySections, fun _ => Dialect.applyImplements,
    fun _ => Dialect.applyNamespace, Dialect.applyPage]
  ++ (if components then
    [fun _ => Dialect.applyMembers [.code], fun _ => Dialect.applyTypeParameters,
      fun _ => Dialect.applyLayout, fun _ => Dialect.applyAttributes] else [])
  ++ [fun _ => Dialect.applyModel]

/-- What optimizing changes in a document, in order. -/
def optimizations : List (Option Nat → Document → Document) :=
  [fun _ => Document.declareHelpers, fun _ => Document.removeDirectives,
    fun _ => Document.mergeMarkup, fun _ => Document.dropBody]

def action (f : Option Nat → Document → Document) : DocumentAction :=
  fun doc d => .ok (f (doc.source?.map SourceFile.id) d)

theorem ofChange_eq (f : Document → Document) :
    DocumentAction.ofChange f = action fun _ => f := rfl

def applied (fs : List (Option Nat → Document → Document)) (file? : Option Nat)
    (d : Document) : Document :=
  fs.foldl (fun d f => f file? d) d

/-- What each of some changes keeps, all of them keep. -/
theorem applied_keeps {P : Document → Prop} {file? : Option Nat}
    {fs : List (Option Nat → Document → Document)}
    (keep : ∀ f ∈ fs, ∀ d, P d → P (f file? d)) : ∀ d, P d → P (applied fs file? d) := by
  induction fs with
  | nil =>
    intro d holds
    exact holds
  | cons f fs ih =>
    intro d holds
    apply ih (fun g member => keep g (List.mem_cons_of_mem f member))
    exact keep f List.mem_cons_self d holds

/-- Without components there are fewer changes, and no others. -/
theorem mem_directiveChanges {components : Bool} {f : Option Nat → Document → Document}
    (member : f ∈ directiveChanges components) : f ∈ directiveChanges true := by
  cases components with
  | true => exact member
  | false =>
    simp only [directiveChanges, Bool.false_eq_true, if_false, List.append_nil] at member
    simp only [directiveChanges, if_true]
    rcases List.mem_append.mp member with front | last
    · exact List.mem_append_left _ (List.mem_append_left _ front)
    · exact List.mem_append_right _ last

end ProjectEngine

/-- An engine has the phases and the passes that a project's builder gives it. -/
structure Engine.IsProject (e : Engine) (components withImports : Bool) : Prop where
  phases : e.phases = Stage.all
  target : e.target = Code.Backend.outline []
  parserOptions : e.features.parserOptions? = some Configuration.parserOptions
  codeOptions : e.features.codeOptions? = some Configuration.codeOptions
  discovery : e.features.discovery? = some HelperDiscovery.standard
  settings : e.features.classifierSettings = {}
  provided : e.features.providedImport? =
    if withImports then some Assembly.viewImport else none
  syntaxPasses : e.features.syntaxPasses.ordered.map Pass.action = [.mergeText, .trimTokens]
  classifiers : e.features.classifiers.ordered.map Pass.action =
    (ProjectEngine.rules components).map Classifier.Rule.action
  directivePasses : e.features.directivePasses.ordered.map Pass.action =
    (ProjectEngine.directiveChanges components).map ProjectEngine.action
  optimizations : e.features.optimizations.ordered.map Pass.action =
    ProjectEngine.optimizations.map ProjectEngine.action

namespace ProjectEngine

/-- The assembly that a project's builder makes an engine of. -/
def assembly (components : Bool) (c : Configuration) (withImports : Bool)
    (helpers? : Option (List TagHelper)) (custom : List DirectiveDescriptor) : Assembly :=
  let a := (EngineBuilder.project c withImports helpers?).assembly
  (if components then a.addComponents else a).addDirectives custom

section Assembly

variable {components withImports : Bool} {c : Configuration} {helpers? : Option (List TagHelper)}
  {custom : List DirectiveDescriptor}

/-- A builder changes its assembly by the components only, and only if the version has them. -/
theorem changes_project :
    VersionExtension.changes c.version (EngineBuilder.project c withImports helpers?).extensions =
      if c.version.atLeast .v3_0 then [Assembly.addComponents] else [] := by
  cases since : c.version.atLeast .v3_0 <;>
    simp [EngineBuilder.project, VersionExtension.changes, VersionExtension.levelsAll,
      VersionExtension.levels, VersionExtension.joinLevels, since]

theorem engine_of_build {e : Engine}
    (built : ((EngineBuilder.project c withImports helpers?).build
      (·.addDirectives custom)).2 = .ok e) :
    c.conflict? = none ∧
      (assembly (c.version.atLeast .v3_0) c withImports helpers? custom).engine = .ok e := by
  have configuration :
      (EngineBuilder.project c withImports helpers?).assembly.configuration = c := by
    cases withImports <;> rfl
  unfold EngineBuilder.build at built
  rw [configuration, changes_project] at built
  cases conflict : c.conflict? with
  | some refused =>
    rw [conflict] at built
    cases built
  | none =>
    rw [conflict] at built
    refine ⟨rfl, ?_⟩
    unfold assembly
    cases since : c.version.atLeast .v3_0 with
    | true =>
      rw [since] at built
      exact built
    | false =>
      rw [since] at built
      exact built

/-- The engine of an assembly has what the assembly has. -/
theorem engine_eq {a : Assembly} {e : Engine} (built : a.engine = .ok e) :
    ∃ target, a.features.target? = some target ∧
      e = ⟨a.configuration, a.features, a.phases, target a.features.targetExtensions⟩ := by
  unfold Assembly.engine at built
  split at built
  · cases built
  · next target same =>
    split at built
    · cases built
    · cases built
      exact ⟨target, same, rfl⟩

/-! The registries of the assembly, sorted by the orders of their passes. -/

theorem syntaxPasses_assembly :
    (assembly components c withImports helpers? custom).features.syntaxPasses.ordered.map
      Pass.action = [.mergeText, .trimTokens] := by
  have items : (assembly components c withImports helpers? custom).features.syntaxPasses =
      (Assembly.standard c).features.syntaxPasses := by
    cases components <;> cases withImports <;> rfl
  rw [items]
  simp [Assembly.standard, Assembly.addDefaultFeatures, Assembly.addDefaultPhases,
    Assembly.addDirectives, Assembly.addClassifier, Assembly.empty, PassRegistry.add,
    PassRegistry.ordered, Pass.defaultOrder, List.mergeSort]

theorem classifiers_assembly :
    (assembly components c withImports helpers? custom).features.classifiers.ordered.map
      Pass.action = (rules components).map Classifier.Rule.action := by
  cases components <;> cases withImports <;>
    simp [assembly, EngineBuilder.project, Assembly.standard, Assembly.addDefaultFeatures,
      Assembly.addDefaultPhases, Assembly.addShared, Assembly.addViews, Assembly.addComponents,
      Assembly.addDirectives, Assembly.addDirectivePasses, Assembly.addClassifier, Assembly.empty,
      PassRegistry.add, PassRegistry.ordered, Pass.defaultOrder, List.mergeSort, rules]

theorem directivePasses_assembly :
    (assembly components c withImports helpers? custom).features.directivePasses.ordered.map
      Pass.action = (directiveChanges components).map action := by
  cases components <;> cases withImports <;>
    simp [assembly, EngineBuilder.project, Assembly.standard, Assembly.addDefaultFeatures,
      Assembly.addDefaultPhases, Assembly.addShared, Assembly.addViews, Assembly.addComponents,
      Assembly.addDirectives, Assembly.addDirectivePasses, Assembly.addClassifier, Assembly.empty,
      Assembly.pass, PassRegistry.add, PassRegistry.ordered, Pass.defaultOrder, List.mergeSort,
      directiveChanges, ofChange_eq] <;>
    rfl

theorem optimizations_assembly :
    (assembly components c withImports helpers? custom).features.optimizations.ordered.map
      Pass.action = optimizations.map action := by
  have items : (assembly components c withImports helpers? custom).features.optimizations =
      (Assembly.standard c).features.optimizations := by
    cases components <;> cases withImports <;> rfl
  rw [items]
  simp [Assembly.standard, Assembly.addDefaultFeatures, Assembly.addDefaultPhases,
    Assembly.addDirectives, Assembly.addClassifier, Assembly.empty, Assembly.pass,
    PassRegistry.add, PassRegistry.ordered, Pass.defaultOrder, List.mergeSort, optimizations,
    ofChange_eq]

/-- What a builder of a project builds is a project's engine, whatever directives are registered
beside those of the dialects. -/
theorem isProject_of_build {e : Engine}
    (built : ((EngineBuilder.project c withImports helpers?).build
      (·.addDirectives custom)).2 = .ok e) :
    e.IsProject (c.version.atLeast .v3_0) withImports := by
  rcases engine_eq (engine_of_build built).2 with ⟨target, targets, rfl⟩
  generalize c.version.atLeast .v3_0 = components at targets ⊢
  have outline : target = Code.Backend.outline := by
    cases components <;> cases withImports <;> cases targets <;> rfl
  exact {
    phases := by cases components <;> cases withImports <;> rfl
    target := by rw [outline]; cases components <;> cases withImports <;> rfl
    parserOptions := by cases components <;> cases withImports <;> rfl
    codeOptions := by cases components <;> cases withImports <;> rfl
    discovery := by cases components <;> cases withImports <;> rfl
    settings := by cases components <;> cases withImports <;> rfl
    provided := by cases components <;> cases withImports <;> rfl
    syntaxPasses := syntaxPasses_assembly
    classifiers := classifiers_assembly
    directivePasses := directivePasses_assembly
    optimizations := optimizations_assembly }

theorem configuration_of_build {e : Engine}
    (built : ((EngineBuilder.project c withImports helpers?).build
      (·.addDirectives custom)).2 = .ok e) : e.configuration = c := by
  rcases engine_eq (engine_of_build built).2 with ⟨target, -, rfl⟩
  generalize c.version.atLeast .v3_0 = components
  cases components <;> cases withImports <;> rfl

theorem helpers?_of_build {e : Engine}
    (built : ((EngineBuilder.project c withImports helpers?).build
      (·.addDirectives custom)).2 = .ok e) : e.features.helpers? = helpers? := by
  rcases engine_eq (engine_of_build built).2 with ⟨target, -, rfl⟩
  generalize c.version.atLeast .v3_0 = components
  cases components <;> cases withImports <;> rfl

end Assembly

/-! ## Classifying -/

/-- Whether a lowered document is a page: a directive of its own at the top level says so, or one in
a block there. -/
def isPage (doc : CodeDocument) (d : Document) : Bool :=
  d.children.any fun n =>
    n.isDirective && n.preorder.any (Dialect.isPageOf (doc.source?.map SourceFile.id))

def ruleOf (components : Bool) (doc : CodeDocument) (d : Document) : Classifier.Rule :=
  if components && doc.fileKind.isComponent then Classifier.component
  else if doc.fileKind == .legacy then
    if isPage doc d then Classifier.page else Classifier.view
  else Classifier.general

end ProjectEngine

def Classifier.Rule.classified (r : Classifier.Rule) (doc : CodeDocument) (d : Document) :
    Document :=
  { d with
    header := { d.header with kind := r.kind }
    children := [(r.shape doc (.initial d)).toNode] }

namespace ProjectEngine

/-- The shape of a document depends on its path and its kind. -/
theorem shape_congr (components : Bool) {doc other : CodeDocument}
    (kind : doc.fileKind = other.fileKind) (path : doc.projectPath = other.projectPath)
    (d : Document) (o : Classifier.Outline) :
    (ruleOf components other d).shape doc o = (ruleOf components other d).shape other o := by
  unfold ruleOf
  split
  · unfold Classifier.component
    dsimp only
    rw [path, kind]
  split
  · split
    · change Classifier.viewShape _ doc o = Classifier.viewShape _ other o
      unfold Classifier.viewShape
      rw [path]
    · change Classifier.viewShape _ doc o = Classifier.viewShape _ other o
      unfold Classifier.viewShape
      rw [path]
  · rfl

/-- How a document is classified depends on its source and its kind. -/
theorem classified_congr (components : Bool) {doc other : CodeDocument}
    (source : doc.source? = other.source?) (kind : doc.fileKind = other.fileKind) (d : Document) :
    (ruleOf components doc d).classified doc d =
      (ruleOf components other d).classified other d := by
  have page : isPage doc d = isPage other d := by
    unfold isPage
    rw [source]
  have path : doc.projectPath = other.projectPath := by
    unfold CodeDocument.projectPath
    rw [source]
  have rule : ruleOf components doc d = ruleOf components other d := by
    unfold ruleOf
    rw [kind, page]
  rw [rule]
  unfold Classifier.Rule.classified
  rw [shape_congr components kind path]

/-- A lowered document after the passes that follow: it is classified, directives are applied, and
the result is optimized. -/
def shaped (components : Bool) (doc : CodeDocument) (d : Document) : Document :=
  applied optimizations (doc.source?.map SourceFile.id)
    (applied (directiveChanges components) (doc.source?.map SourceFile.id)
      ((ruleOf components doc d).classified doc d))

theorem shaped_congr (components : Bool) (doc other : CodeDocument)
    (source : doc.source? = other.source?) (kind : doc.fileKind = other.fileKind) (d : Document) :
    shaped components doc d = shaped components other d := by
  unfold shaped
  rw [classified_congr components source kind, source]

end ProjectEngine

theorem Classifier.Rule.run_action (r : Classifier.Rule) (doc : CodeDocument) (d : Document) :
    r.action.run {} doc d = .ok (r.classified doc d) := rfl

namespace ProjectEngine

theorem find?_rules (components : Bool) (doc : CodeDocument) {d : Document}
    (fresh : d.header.kind = []) :
    (rules components).find? (fun r => r.action.accepts doc d) =
      some (ruleOf components doc d) := by
  have accepts : ∀ r : Classifier.Rule, r.action.accepts doc d = r.accepts doc d := by
    intro r
    change (d.header.kind.isEmpty && r.accepts doc d) = r.accepts doc d
    rw [fresh]
    rfl
  have component : Classifier.component.accepts doc d = doc.fileKind.isComponent := rfl
  have page : Classifier.page.accepts doc d = (doc.fileKind == .legacy && isPage doc d) := rfl
  have view : Classifier.view.accepts doc d = (doc.fileKind == .legacy) := rfl
  have general : Classifier.general.accepts doc d = true := rfl
  simp only [accepts]
  unfold ruleOf rules
  cases components <;> cases isComponent : doc.fileKind.isComponent <;>
    cases isLegacy : doc.fileKind == .legacy <;> cases paged : isPage doc d <;>
    simp [component, page, view, general, isComponent, isLegacy, paged]

/-- The pass that classifies a document has the action of its rule. -/
theorem classifier_found {e : Engine} {components withImports : Bool}
    (project : e.IsProject components withImports) (doc : CodeDocument) {d : Document}
    (fresh : d.header.kind = []) :
    ∃ p, e.features.classifiers.ordered.find? (fun c => c.action.accepts doc d) = some p
      ∧ p.action = (ruleOf components doc d).action := by
  have found := find?_rules components doc fresh
  have mapped := congrArg (fun actions => actions.find? fun a => a.accepts doc d)
    project.classifiers
  rw [List.find?_map, List.find?_map] at mapped
  change Option.map _ (e.features.classifiers.ordered.find? fun c => c.action.accepts doc d) =
    Option.map _ ((rules components).find? fun r => r.action.accepts doc d) at mapped
  rw [found] at mapped
  exact Option.map_eq_some_iff.mp mapped

/-! ## Running passes -/

theorem treeAfter_eq {ps : List (Pass SyntaxAction)}
    (actions : ps.map Pass.action = [.mergeText, .trimTokens]) (tree : Syntax.Tree) :
    Workpiece.treeAfter ps tree = .ok tree.mergeText.1.trimTokens.1 := by
  rcases List.map_eq_cons_iff.mp actions with ⟨p, rest, rfl, first, others⟩
  rcases List.map_eq_cons_iff.mp others with ⟨q, none, rfl, second, ended⟩
  cases List.map_eq_nil_iff.mp ended
  rw [Workpiece.treeAfter, first]
  change Workpiece.treeAfter [q] tree.mergeText.1 = _
  rw [Workpiece.treeAfter, second]
  rfl

theorem documentAfter_eq {phase : Phase} {fs : List (Option Nat → Document → Document)} :
    ∀ {ps : List (Pass DocumentAction)}, ps.map Pass.action = fs.map action →
      ∀ {doc : CodeDocument} {d : Document}, doc.intermediate? = some d →
        Workpiece.documentAfter phase ps doc = .ok { doc with
          intermediate? := some (applied fs (doc.source?.map SourceFile.id) d) } := by
  induction fs with
  | nil =>
    intro ps actions doc d lowered
    cases List.map_eq_nil_iff.mp actions
    rw [Workpiece.documentAfter]
    change _ = Except.ok { doc with intermediate? := some d }
    rw [← lowered]
  | cons f fs ih =>
    intro ps actions doc d lowered
    rcases List.map_eq_cons_iff.mp actions with ⟨p, rest, rfl, first, others⟩
    rw [Workpiece.documentAfter, lowered, first]
    exact ih others rfl

end ProjectEngine

/-! ## One expression for a run -/

namespace Workpiece

/-- The tree of a source after the passes on syntax trees. -/
def preparedTree (source : SourceFile) (options : ParserOptions) : Syntax.Tree :=
  (Syntax.parse source options).mergeText.1.trimTokens.1

def importTrees (options : ParserOptions) (files : List SourceFile) : List Syntax.Tree :=
  files.map fun f => Syntax.parse f { options with fileKind := .ofPath f.path }

variable (e : Engine) (doc : CodeDocument) (source : SourceFile) (provided : List SourceFile)

/-- The tag helpers in scope of a document, and the findings. -/
def scopeOf : HelperScope × List Diagnostic :=
  Discovery.discover ((doc.helpers?.orElse fun _ => e.features.helpers?).getD []) doc.fileKind
    (preparedTree source (parserOptions e doc))
    (importTrees (parserOptions e doc) (provided ++ doc.imports))

/-- The tree that is lowered: parsed, changed by the passes on syntax trees, and bound to the tag
helpers in scope. -/
def boundTree : Syntax.Tree :=
  let tree := preparedTree source (parserOptions e doc)
  { tree with diagnostics := tree.diagnostics ++ (scopeOf e doc source provided).2 }.bindHelpers
    (scopeOf e doc source provided).1.binder

/-- The document before it is classified. -/
def unclassified : Document :=
  let d := Lowering.document (boundTree e doc source provided)
    (importTrees (parserOptions e doc) (provided ++ doc.imports))
  { d with header := { d.header with options := codeOptions e doc, sourceDigest := doc.digest } }

def finished (components : Bool) : Document :=
  ProjectEngine.shaped components doc (unclassified e doc source provided)

/-- The document with everything that the phases up to lowering produce. -/
def unclassifiedDocument : CodeDocument :=
  { doc with
    parserOptions? := some (parserOptions e doc)
    codeOptions? := some (codeOptions e doc)
    tree? := some (boundTree e doc source provided)
    importTrees? := some (importTrees (parserOptions e doc) (provided ++ doc.imports))
    scope? := some (scopeOf e doc source provided).1
    intermediate? := some (unclassified e doc source provided) }

/-- The document with everything that the phases produce. -/
def compiledDocument (components : Bool) : CodeDocument :=
  { unclassifiedDocument e doc source provided with
    intermediate? := some (finished e doc source provided components)
    output? := some ((Code.Target.outline []).write (codeOptions e doc)
      (finished e doc source provided components)) }

/-- Without tag helpers in scope, nothing is bound. -/
theorem body_boundTree (unscoped : (scopeOf e doc source provided).1.helpers = []) :
    (boundTree e doc source provided).body = (preparedTree source (parserOptions e doc)).body := by
  unfold boundTree Syntax.Tree.bindHelpers HelperScope.binder
  rw [unscoped]
  rfl

theorem slot_of_some {α : Type} {w : Workpiece} {phase : Phase} {artifact : Artifact}
    {read : CodeDocument → Option α} {a : α} (filled : read w.document = some a) :
    w.slot phase artifact read = .ok a := by
  unfold slot
  rw [filled]

theorem slot_bind {α β : Type} {w : Workpiece} {phase : Phase} {artifact : Artifact}
    {read : CodeDocument → Option α} {a : α} (filled : read w.document = some a)
    (f : α → Except PipelineError β) : (w.slot phase artifact read >>= f) = f a := by
  rw [slot_of_some filled]
  rfl

theorem through_cons {e : Engine} {s : Stage} {ss : List Stage} {w next : Workpiece}
    (effect : s.effect e w = .ok next) : through e (s :: ss) w = through e ss next := by
  rw [through, effect]
  rfl

theorem through_phase {e : Engine} {p : Phase} {ss : List Stage} {w next : Workpiece}
    (effect : p.effect e w = .ok next) : through e (.phase p :: ss) w = through e ss next :=
  through_cons effect

end Workpiece

namespace ProjectEngine

open Workpiece

variable {e : Engine} {components withImports : Bool}

/-! Each phase of a project's engine, with what it needs in place. -/

theorem effect_parsing {w : Workpiece} {source : SourceFile}
    (given : w.document.source? = some source)
    (honored : (parserOptions e w.document).conflict? = none) :
    Phase.parsing.effect e w = .ok { (w.provide e.features w.document.fileKind).2 with
      document := parsedDocument e w.document source
        (w.provide e.features w.document.fileKind).1 } := by
  have same := document_provide w e.features w.document.fileKind
  rw [Phase.effect, slot_bind given, honored]
  dsimp only
  rw [same]

theorem effect_syntaxTree (project : e.IsProject components withImports) {w : Workpiece}
    {tree : Syntax.Tree} (parsed : w.document.tree? = some tree) :
    Phase.syntaxTree.effect e w = .ok { w with document := { w.document with
      tree? := some tree.mergeText.1.trimTokens.1 } } := by
  rw [Phase.effect, slot_bind parsed, treeAfter_eq project.syntaxPasses]
  rfl

theorem effect_helperDiscovery (project : e.IsProject components withImports) {w : Workpiece}
    {tree : Syntax.Tree} {imports : List Syntax.Tree} (parsed : w.document.tree? = some tree)
    (parsedImports : w.document.importTrees? = some imports) :
    Phase.helperDiscovery.effect e w =
      let found := Discovery.discover
        ((w.document.helpers?.orElse fun _ => e.features.helpers?).getD []) w.document.fileKind
        tree imports
      .ok { w with document := { w.document with
        tree? := some { tree with diagnostics := tree.diagnostics ++ found.2 }
        scope? := some found.1 } } := by
  rw [Phase.effect, slot_bind parsed, slot_bind parsedImports]
  unfold discovered
  rw [project.discovery]
  rfl

theorem effect_helperBinding {w : Workpiece} {tree : Syntax.Tree} {scope : HelperScope}
    (parsed : w.document.tree? = some tree) (known : w.document.scope? = some scope) :
    Phase.helperBinding.effect e w = .ok { w with document := { w.document with
      tree? := some (tree.bindHelpers scope.binder) } } := by
  rw [Phase.effect, slot_bind parsed, slot_bind known]

theorem effect_lowering {w : Workpiece} {tree : Syntax.Tree} {imports : List Syntax.Tree}
    (parsed : w.document.tree? = some tree)
    (parsedImports : w.document.importTrees? = some imports) :
    Phase.lowering.effect e w =
      .ok { w with document := loweredDocument e w.document tree imports } := by
  rw [Phase.effect, slot_bind parsed, slot_bind parsedImports]

theorem effect_documentClassifier (project : e.IsProject components withImports) {w : Workpiece}
    {d : Document} (lowered : w.document.intermediate? = some d) (fresh : d.header.kind = []) :
    Phase.documentClassifier.effect e w = .ok { w with document := { w.document with
      intermediate? := some ((ruleOf components w.document d).classified w.document d) } } := by
  rcases classifier_found project w.document fresh with ⟨p, found, rule⟩
  rw [Phase.effect, slot_bind lowered, found]
  dsimp only
  rw [rule, project.settings, Classifier.Rule.run_action]
  rfl

theorem effect_directiveClassifier (project : e.IsProject components withImports) {w : Workpiece}
    {d : Document} (lowered : w.document.intermediate? = some d) :
    Phase.directiveClassifier.effect e w = .ok { w with document := { w.document with
      intermediate? := some (applied (directiveChanges components)
        (w.document.source?.map SourceFile.id) d) } } := by
  rw [Phase.effect, slot_bind lowered, documentAfter_eq project.directivePasses lowered]
  rfl

theorem effect_optimization (project : e.IsProject components withImports) {w : Workpiece}
    {d : Document} (lowered : w.document.intermediate? = some d) :
    Phase.optimization.effect e w = .ok { w with document := { w.document with
      intermediate? := some (applied optimizations
        (w.document.source?.map SourceFile.id) d) } } := by
  rw [Phase.effect, slot_bind lowered, documentAfter_eq project.optimizations lowered]
  rfl

theorem effect_targetLowering (project : e.IsProject components withImports) {w : Workpiece}
    {d : Document} {options : CodeOptions} (lowered : w.document.intermediate? = some d)
    (known : w.document.codeOptions? = some options) :
    Phase.targetLowering.effect e w = .ok { w with document := { w.document with
      output? := some ((Code.Target.outline []).write options d) } } := by
  rw [Phase.effect, slot_bind lowered, slot_bind known, project.target]
  rfl

/-- The phases up to lowering. -/
theorem through_lowered (project : e.IsProject components withImports) {w : Workpiece}
    {source : SourceFile} (given : w.document.source? = some source)
    (honored : (parserOptions e w.document).conflict? = none) (ss : List Stage) :
    through e (.phase .parsing :: .phase .syntaxTree :: .phase .helperDiscovery
        :: .phase .helperBinding :: .phase .lowering :: ss) w =
      through e ss { (w.provide e.features w.document.fileKind).2 with
        document := unclassifiedDocument e w.document source
          (w.provide e.features w.document.fileKind).1 } := by
  rw [through_phase (effect_parsing given honored),
    through_phase (effect_syntaxTree project rfl),
    through_phase (effect_helperDiscovery project rfl rfl),
    through_phase (effect_helperBinding rfl rfl),
    through_phase (effect_lowering rfl rfl)]
  rfl

/-- The phases behind lowering. -/
theorem through_written (project : e.IsProject components withImports) {w : Workpiece}
    {d : Document} {options : CodeOptions} (lowered : w.document.intermediate? = some d)
    (fresh : d.header.kind = []) (known : w.document.codeOptions? = some options) :
    through e [.phase .documentClassifier, .phase .directiveClassifier, .phase .optimization,
        .phase .targetLowering] w =
      .ok { w with document := { w.document with
        intermediate? := some (shaped components w.document d)
        output? := some ((Code.Target.outline []).write options
          (shaped components w.document d)) } } := by
  rw [through_phase (effect_documentClassifier project lowered fresh),
    through_phase (effect_directiveClassifier project rfl),
    through_phase (effect_optimization project rfl)]
  refine (through_phase (effect_targetLowering project rfl ?_)).trans rfl
  exact known

/-- A document whose options the parser honors comes out of all phases with its output. -/
theorem through_of_honored (project : e.IsProject components withImports) {w : Workpiece}
    {source : SourceFile} (given : w.document.source? = some source)
    (honored : (parserOptions e w.document).conflict? = none) :
    through e Stage.all w = .ok { (w.provide e.features w.document.fileKind).2 with
      document := compiledDocument e w.document source
        (w.provide e.features w.document.fileKind).1 components } := by
  have same := fun provided => shaped_congr components
    (unclassifiedDocument e w.document source provided) w.document rfl rfl
  refine (through_lowered project given honored _).trans ?_
  refine (through_written project rfl rfl rfl).trans ?_
  dsimp only
  rw [same]
  rfl

/-- Only documents with a source and with options that the parser honors are parsed. -/
theorem of_parsing_ok {w next : Workpiece} (effect : Phase.parsing.effect e w = .ok next) :
    ∃ source, w.document.source? = some source
      ∧ (parserOptions e w.document).conflict? = none := by
  rw [Phase.effect] at effect
  cases given : w.document.source? with
  | none =>
    have missing : w.slot .parsing .source (·.source?) =
        .error (.missingArtifact (some .parsing) .source) := by
      unfold slot
      dsimp only
      rw [given]
    rw [missing] at effect
    cases effect
  | some source =>
    rw [slot_bind given] at effect
    refine ⟨source, rfl, ?_⟩
    cases honored : (parserOptions e w.document).conflict? with
    | none => rfl
    | some c =>
      rw [honored] at effect
      cases effect

/-- Only such documents come out of all phases. -/
theorem of_through_ok {w after : Workpiece} (done : through e Stage.all w = .ok after) :
    ∃ source, w.document.source? = some source
      ∧ (parserOptions e w.document).conflict? = none := by
  cases effect : Phase.parsing.effect e w with
  | error err =>
    have ends : through e Stage.all w = .error err := by
      rw [Stage.all, Phase.all, List.map_cons, through, Stage.effect, effect]
      rfl
    rw [ends] at done
    cases done
  | ok next => exact of_parsing_ok effect

/-- A run of such a document completes. -/
theorem run_of_honored (project : e.IsProject components withImports) {w : World}
    {source : SourceFile} (given : w.document.source? = some source)
    (honored : (parserOptions e w.document).conflict? = none) (parent : Nat) :
    ∃ after, w.run e parent = (after, none)
      ∧ after.workpiece = { (w.workpiece.provide e.features w.document.fileKind).2 with
          document := compiledDocument e w.document source
            (w.workpiece.provide e.features w.document.fileKind).1 components } := by
  have done := through_of_honored project (w := w.workpiece) given honored
  rw [← project.phases] at done
  exact World.steps_of_through_ok e.phases 0 done

/-- A run that completes is one of such a document. -/
theorem workpiece_of_run (project : e.IsProject components withImports) {w after : World}
    {parent : Nat} {cancelAt? : Option Nat} (ran : w.run e parent cancelAt? = (after, none)) :
    ∃ source, w.document.source? = some source
      ∧ after.workpiece = { (w.workpiece.provide e.features w.document.fileKind).2 with
          document := compiledDocument e w.document source
            (w.workpiece.provide e.features w.document.fileKind).1 components } := by
  have done := World.through_of_run ran
  rw [project.phases] at done
  rcases of_through_ok done with ⟨source, given, honored⟩
  rw [through_of_honored project given honored] at done
  exact ⟨source, given, (Except.ok.inj done).symm⟩

/-- A run of a document whose options the parser does not honor ends with the first phase. -/
theorem run_of_refused (project : e.IsProject components withImports) {w : World}
    {source : SourceFile} (given : w.document.source? = some source)
    {conflict : ParserOptions.Conflict}
    (refused : (parserOptions e w.document).conflict? = some conflict) (parent : Nat) :
    ∃ after, w.run e parent = (after, some (.parserOptions conflict)) ∧ after.files = w.files
      ∧ after.providedImport? = w.providedImport? := by
  have effect : Phase.parsing.effect e w.workpiece = .error (.parserOptions conflict) := by
    have read : w.workpiece.document.source? = some source := given
    have options : (parserOptions e w.workpiece.document).conflict? = some conflict := refused
    rw [Phase.effect, slot_bind read, options]
  rw [World.run, project.phases, Stage.all, Phase.all, List.map_cons]
  dsimp only
  generalize w.tracer.begin .document _ parent = begun
  obtain ⟨after, stepped, files, provided⟩ :=
    World.step_of_effect_error (s := .phase .parsing) (w := { w with tracer := begun.1 }) effect
      begun.2
  refine ⟨{ after with tracer := after.tracer.finish begun.2 "failed" }, ?_, files, provided⟩
  rw [World.steps, stepped]
  rfl

end ProjectEngine

/-! ## What directives do

They report findings, change the header of a document and the shape of its class, name its namespace
and declare an alias in it, move members into the class and turn directives into sections.  A
property that each of these keeps is kept by all passes for directives, in whatever order they run.
-/

namespace Dialect

/-- Whatever directives do to a document keeps a property.  The fields are the changes that the
passes of the directives are made of, so that each pass keeps the property. -/
structure Kept (P : Document → Prop) : Prop where
  report {d : Document} (found : List Diagnostic) : P d → P (d.report found)
  header {d : Document} (header : DocumentHeader) : P d → P { d with header }
  classShape {d : Document} (f : ClassShape → ClassShape) : P d → P (d.changeClassShape f)
  namespaceName {d : Document} (name : Text) :
    P d → P (d.changeNamespace fun _ members => (name, members))
  modelAlias {d : Document} : P d → P (addModelAlias d)
  members (definitions : List DirectiveDescriptor) {d : Document} :
    P d → P (applyMembers definitions d)
  sections {d : Document} : P d → P (applySections d)

namespace Kept

variable {P : Document → Prop} (kept : Kept P) {d : Document} (holds : P d)

include kept holds

theorem inherits : P (applyInherits d) := by
  unfold applyInherits
  split
  · exact holds
  · exact kept.classShape _ holds

theorem layout : P (applyLayout d) := by
  unfold applyLayout
  split
  · exact holds
  · exact kept.classShape _ holds

theorem namespaceOf : P (applyNamespace d) := by
  unfold applyNamespace
  split
  · exact holds
  · exact kept.namespaceName _ holds

theorem page (file? : Option Nat) : P (applyPage file? d) := by
  unfold applyPage
  split
  · exact holds
  split
  · exact holds
  · next page _ =>
    have checked : P (if (beforePage d file?).any isContent then
        d.report [.error .pageMisplaced (spanOf page)
          "the @page directive must precede all other elements defined in a template"]
        else d) := by
      split
      · exact kept.report _ holds
      · exact holds
    dsimp only
    split
    · exact checked
    · exact kept.classShape _ checked

theorem model : P (applyModel d) := by
  unfold applyModel
  split
  · exact holds
  · dsimp only
    apply kept.classShape
    split
    · exact kept.modelAlias (kept.header _ holds)
    · exact kept.header _ holds

omit holds in
theorem directiveChanges {components : Bool} (file? : Option Nat) :
    ∀ f ∈ ProjectEngine.directiveChanges components, ∀ d, P d → P (f file? d) := by
  intro f member d holds
  have known := ProjectEngine.mem_directiveChanges member
  simp only [ProjectEngine.directiveChanges, if_true, List.cons_append, List.nil_append,
    List.mem_cons, List.not_mem_nil, or_false] at known
  rcases known with rfl | rfl | rfl | rfl | rfl | rfl | rfl | rfl | rfl | rfl | rfl
  · exact kept.inherits holds
  · exact kept.members _ holds
  · exact kept.sections holds
  · exact kept.classShape _ holds
  · exact kept.namespaceOf holds
  · exact kept.page holds file?
  · exact kept.members _ holds
  · exact kept.classShape _ holds
  · exact kept.layout holds
  · exact kept.classShape _ holds
  · exact kept.model holds

end Kept

end Dialect

end TemplateCompiler
