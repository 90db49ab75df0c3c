import Mathlib.Data.List.Find
import Mathlib.Tactic.Choose
import TemplateCompiler.Proofs.ProjectEngine

/-!
# Engines whose passes are functions

A pass may fail, and may read any slot of the document it works on.  The passes that engines come
with do neither: each is a function of the tree it changes and of what the document was given, its
source, its imports, its kind and its tag helpers.  An engine with such passes is *regular*.

In a regular engine a phase that has what it reads completes, and what it then does to the document
is written down here, one equation for each phase.  The default features are regular, and every
dialect keeps an assembly regular.  The order of the phases plays no role, nor does their number.
-/

namespace TemplateCompiler

open IR

/-- A document as it was given, without any slot that a phase fills. -/
def CodeDocument.given (d : CodeDocument) : CodeDocument :=
  { source? := d.source?, imports := d.imports, fileKind := d.fileKind, helpers? := d.helpers? }

/-! ## Passes -/

/-- A pass on syntax trees never fails, and the tree that it makes depends on the tree that it is
given alone. -/
def SyntaxAction.IsRegular (a : SyntaxAction) : Prop :=
  ∃ change : Syntax.Tree → Syntax.Tree, ∀ tree, a.run tree = .ok (change tree)

/-- A pass never fails, and reads nothing of its document that a phase has produced. -/
def DocumentAction.IsRegular (a : DocumentAction) : Prop :=
  ∃ change : CodeDocument → Document → Document, ∀ doc d, a doc d = .ok (change doc.given d)

/-- A classifier never fails, and reads nothing of its document that a phase has produced. -/
structure ClassifierAction.IsRegular (a : ClassifierAction) : Prop where
  accepts : ∀ doc d, a.accepts doc d = a.accepts doc.given d
  run : ∀ settings, DocumentAction.IsRegular (a.run settings)

theorem DocumentAction.isRegular_ofChange (f : Document → Document) :
    (DocumentAction.ofChange f).IsRegular :=
  ⟨fun _ => f, fun _ _ => rfl⟩

/-- A rule whose questions and shape are about what the document was given. -/
theorem Classifier.Rule.isRegular_action {r : Classifier.Rule}
    (accepts : ∀ doc d, r.accepts doc d = r.accepts doc.given d)
    (shape : ∀ doc o, r.shape doc o = r.shape doc.given o) : r.action.IsRegular where
  accepts doc d := by
    change (d.header.kind.isEmpty && r.accepts doc d) =
      (d.header.kind.isEmpty && r.accepts doc.given d)
    rw [accepts]
  run settings := by
    refine ⟨fun doc d => { d with
      header := { d.header with kind := r.kind }
      children := [((r.shape doc (.initial d)).adjusted settings).toNode] }, ?_⟩
    intro doc d
    dsimp only
    rw [← shape]
    rfl

namespace PassRegistry

variable {α : Type} {P : α → Prop}

def Every (P : α → Prop) (r : PassRegistry α) : Prop := ∀ p ∈ r.items, P p.action

theorem Every.add {r : PassRegistry α} (every : r.Every P) {passes : List (Pass α)}
    (added : ∀ p ∈ passes, P p.action) : (r.add passes).Every P := by
  intro p member
  rcases List.mem_append.mp member with old | new
  · exact every p old
  · exact added p new

theorem Every.ordered {r : PassRegistry α} (every : r.Every P) : ∀ p ∈ r.ordered, P p.action :=
  fun p member => every p (List.mem_mergeSort.mp member)

end PassRegistry

/-! ## Engines -/

def Code.Backend.IsTotal (b : Code.Backend) : Prop := ∀ o d, ∃ output, b.write o d = .ok output

theorem Code.Backend.isTotal_outline (extensions : List Code.TargetExtension) :
    (outline extensions).IsTotal :=
  fun o d => ⟨(Code.Target.outline extensions).write o d, rfl⟩

/-- What an engine has makes every pass a function, and the options follow from the
configuration. -/
structure Features.IsRegular (f : Features) : Prop where
  parserOptions : f.parserOptions? = some Configuration.parserOptions
  codeOptions : f.codeOptions? = some Configuration.codeOptions
  syntaxPasses : f.syntaxPasses.Every SyntaxAction.IsRegular
  classifiers : f.classifiers.Every ClassifierAction.IsRegular
  directivePasses : f.directivePasses.Every DocumentAction.IsRegular
  optimizations : f.optimizations.Every DocumentAction.IsRegular

namespace Assembly

/-- A pass that is registered as a change. -/
theorem isRegular_pass (name : Text) (order : Int) (f : Document → Document) :
    (pass name order f).action.IsRegular :=
  DocumentAction.isRegular_ofChange f

variable {a : Assembly}

theorem isRegular_addDirectives (regular : a.features.IsRegular) (ds : List DirectiveDescriptor) :
    (a.addDirectives ds).features.IsRegular :=
  { regular with }

theorem isRegular_addDirectivePasses (regular : a.features.IsRegular)
    {ps : List (Pass DocumentAction)} (added : ∀ p ∈ ps, p.action.IsRegular) :
    (a.addDirectivePasses ps).features.IsRegular :=
  { regular with directivePasses := regular.directivePasses.add added }

theorem isRegular_addClassifier (regular : a.features.IsRegular) (name : Text) (order : Int)
    (rule : Classifier.Rule) (added : rule.action.IsRegular) :
    (a.addClassifier name order rule).features.IsRegular := by
  refine { regular with classifiers := regular.classifiers.add ?_ }
  intro p member
  rw [List.mem_singleton.mp member]
  exact added

/-- The default features make an assembly without passes regular. -/
theorem isRegular_addDefaultFeatures (c : Configuration) :
    ((empty c).addDefaultFeatures).features.IsRegular where
  parserOptions := rfl
  codeOptions := rfl
  syntaxPasses p member := by
    rcases List.mem_cons.mp member with rfl | member
    · exact ⟨_, fun _ => rfl⟩
    rcases List.mem_cons.mp member with rfl | member
    · exact ⟨_, fun _ => rfl⟩
    cases member
  classifiers p member := by
    rw [List.mem_singleton.mp member]
    exact Classifier.Rule.isRegular_action (fun _ _ => rfl) (fun _ _ => rfl)
  directivePasses p member := by cases member
  optimizations p member := by
    have changes : ∃ name order f, p = pass name order f := by
      rcases List.mem_cons.mp member with rfl | member
      · exact ⟨_, _, _, rfl⟩
      rcases List.mem_cons.mp member with rfl | member
      · exact ⟨_, _, _, rfl⟩
      rcases List.mem_cons.mp member with rfl | member
      · exact ⟨_, _, _, rfl⟩
      rw [List.mem_singleton.mp member]
      exact ⟨_, _, _, rfl⟩
    rcases changes with ⟨name, order, f, rfl⟩
    exact isRegular_pass name order f

theorem isRegular_standard (c : Configuration) : (standard c).features.IsRegular :=
  { isRegular_addDefaultFeatures c with }

theorem isRegular_addShared (regular : a.features.IsRegular) :
    a.addShared.features.IsRegular := by
  refine isRegular_addDirectivePasses (isRegular_addDirectives regular _) ?_
  simp only [List.forall_mem_cons, List.not_mem_nil, false_implies, implies_true, and_true]
  exact ⟨isRegular_pass _ _ _, isRegular_pass _ _ _, isRegular_pass _ _ _, isRegular_pass _ _ _⟩

theorem isRegular_addViews (regular : a.features.IsRegular) (withImports : Bool) :
    (a.addViews withImports).features.IsRegular := by
  have passes : (((a.addDirectives DirectiveDescriptor.views).addDirectivePasses
      [pass "model-directive" (Pass.defaultOrder + 10) Dialect.applyModel,
       pass "namespace-directive" Pass.defaultOrder Dialect.applyNamespace,
       { name := "page-directive", order := Pass.defaultOrder
         action := fun doc d =>
          .ok (Dialect.applyPage (doc.source?.map SourceFile.id) d) }])).features.IsRegular := by
    refine isRegular_addDirectivePasses (isRegular_addDirectives regular _) ?_
    simp only [List.forall_mem_cons, List.not_mem_nil, false_implies, implies_true, and_true]
    refine ⟨isRegular_pass _ _ _, isRegular_pass _ _ _, ?_⟩
    exact ⟨fun doc => Dialect.applyPage (doc.source?.map SourceFile.id), fun _ _ => rfl⟩
  have paged := isRegular_addClassifier passes "mvc-page-classifier" Pass.defaultOrder
    Classifier.page (Classifier.Rule.isRegular_action (fun _ _ => rfl) (fun _ _ => rfl))
  have classified := isRegular_addClassifier paged "mvc-view-classifier"
    (Pass.defaultOrder + 100) Classifier.view
    (Classifier.Rule.isRegular_action (fun _ _ => rfl) (fun _ _ => rfl))
  cases withImports with
  | false => exact classified
  | true => exact { classified with }

theorem isRegular_addComponents (regular : a.features.IsRegular) :
    a.addComponents.features.IsRegular := by
  refine isRegular_addDirectivePasses (isRegular_addClassifier
    (isRegular_addDirectives regular _) _ _ Classifier.component
    (Classifier.Rule.isRegular_action (fun _ _ => rfl) (fun _ _ => rfl))) ?_
  simp only [List.forall_mem_cons, List.not_mem_nil, false_implies, implies_true, and_true]
  exact ⟨isRegular_pass _ _ _, isRegular_pass _ _ _, isRegular_pass _ _ _, isRegular_pass _ _ _⟩

end Assembly

/-! ## What passes leave -/

namespace Workpiece

/-- Regular passes take a tree to a tree. -/
theorem treeAfter_of_regular (ps : List (Pass SyntaxAction)) :
    (∀ p ∈ ps, p.action.IsRegular) →
      ∃ change : Syntax.Tree → Syntax.Tree, ∀ tree, treeAfter ps tree = .ok (change tree) := by
  induction ps with
  | nil => exact fun _ => ⟨id, fun _ => rfl⟩
  | cons p ps ih =>
    intro regular
    rcases regular p List.mem_cons_self with ⟨first, runs⟩
    rcases ih fun q member => regular q (List.mem_cons_of_mem p member) with ⟨rest, follows⟩
    refine ⟨rest ∘ first, fun tree => ?_⟩
    rw [treeAfter, runs]
    exact follows (first tree)

/-- Regular passes change the intermediate tree of a document and nothing else. -/
theorem documentAfter_of_regular (phase : Phase) (ps : List (Pass DocumentAction)) :
    (∀ p ∈ ps, p.action.IsRegular) →
      ∃ change : CodeDocument → Document → Document, ∀ {doc : CodeDocument} {d : Document},
        doc.intermediate? = some d → documentAfter phase ps doc =
          .ok { doc with intermediate? := some (change doc.given d) } := by
  induction ps with
  | nil =>
    intro regular
    refine ⟨fun _ d => d, fun lowered => ?_⟩
    rw [← lowered]
    rfl
  | cons p ps ih =>
    intro regular
    rcases regular p List.mem_cons_self with ⟨first, runs⟩
    rcases ih fun q member => regular q (List.mem_cons_of_mem p member) with ⟨rest, follows⟩
    refine ⟨fun doc d => rest doc (first doc d), fun lowered => ?_⟩
    rw [documentAfter, lowered]
    dsimp only
    rw [runs]
    exact follows rfl

end Workpiece

/-! ## What phases do -/

namespace Workpiece

variable {e : Engine} {w : Workpiece}

/-- Discovery, with the trees in place. -/
theorem effect_discovery {tree : Syntax.Tree} {imports : List Syntax.Tree}
    (parsed : w.document.tree? = some tree)
    (parsedImports : w.document.importTrees? = some imports) :
    Phase.helperDiscovery.effect e w =
      let found := discovered e w.document tree imports
      .ok { w with document := { w.document with
        tree? := some { tree with diagnostics := tree.diagnostics ++ found.2 }
        scope? := some (found.1.getD {}) } } := by
  rw [Phase.effect, slot_bind parsed, slot_bind parsedImports]

/-- Writing the code, with the intermediate tree and the options in place. -/
theorem effect_writing {d : Document} {options : CodeOptions} {output : Code.Output}
    (lowered : w.document.intermediate? = some d)
    (known : w.document.codeOptions? = some options)
    (written : e.target.write options d = .ok output) :
    Phase.targetLowering.effect e w =
      .ok { w with document := { w.document with output? := some output } } := by
  rw [Phase.effect, slot_bind lowered, slot_bind known, written]

end Workpiece

/-- A phase that works on the intermediate tree. -/
def Phase.isShaping : Phase → Bool
  | documentClassifier | directiveClassifier | optimization => true
  | _ => false

namespace Features.IsRegular

open Workpiece

variable {e : Engine} (regular : e.features.IsRegular)

include regular

theorem parserOptions_eq (doc : CodeDocument) :
    Workpiece.parserOptions e doc = doc.parserOptions?.getD
      (e.configuration.parserOptions e.features.directives.entries doc.given) := by
  unfold Workpiece.parserOptions
  rw [regular.parserOptions]
  rfl

theorem parserOptions_congr {doc other : CodeDocument} (given : doc.given = other.given)
    (known : doc.parserOptions? = other.parserOptions?) :
    Workpiece.parserOptions e doc = Workpiece.parserOptions e other := by
  rw [regular.parserOptions_eq, regular.parserOptions_eq, given, known]

/-- The passes on the syntax tree put another tree in its place. -/
theorem effect_syntaxTree : ∃ change : Syntax.Tree → Syntax.Tree,
    ∀ {w : Workpiece} {tree : Syntax.Tree}, w.document.tree? = some tree →
      Phase.syntaxTree.effect e w =
        .ok { w with document := { w.document with tree? := some (change tree) } } := by
  rcases treeAfter_of_regular e.features.syntaxPasses.ordered regular.syntaxPasses.ordered with
    ⟨change, runs⟩
  refine ⟨change, fun {w tree} parsed => ?_⟩
  rw [Phase.effect, slot_bind parsed, runs]
  rfl

/-- The classifier that accepts a document puts another intermediate tree in its place.  Which one
accepts it is decided by what the document was given before the run. -/
theorem effect_documentClassifier : ∃ change : CodeDocument → Document → Document,
    ∀ {w : Workpiece} {d : Document}, w.document.intermediate? = some d →
      Phase.documentClassifier.effect e w = .ok { w with document := { w.document with
        intermediate? := some (change w.document.given d) } } := by
  have functions : ∀ c : Pass ClassifierAction,
      ∃ change : CodeDocument → Document → Document, c ∈ e.features.classifiers.ordered →
        ∀ doc d, c.action.run e.features.classifierSettings doc d = .ok (change doc.given d) := by
    intro c
    by_cases member : c ∈ e.features.classifiers.ordered
    · rcases (regular.classifiers.ordered c member).run _ with ⟨change, runs⟩
      exact ⟨change, fun _ => runs⟩
    · exact ⟨fun _ d => d, fun absurd => (member absurd).elim⟩
  choose change runs using functions
  refine ⟨fun doc d => (e.features.classifiers.ordered.find? fun c =>
    c.action.accepts doc d).elim d (change · doc d), fun {w d} lowered => ?_⟩
  have accepted : e.features.classifiers.ordered.find?
        (fun c => c.action.accepts w.document d) =
      e.features.classifiers.ordered.find? fun c => c.action.accepts w.document.given d := by
    have pointwise := fun c member =>
      (regular.classifiers.ordered c member).accepts w.document d
    exact List.find?_congr pointwise
  rw [Phase.effect, slot_bind lowered, accepted]
  dsimp only
  cases found : e.features.classifiers.ordered.find? fun c =>
      c.action.accepts w.document.given d with
  | none =>
    dsimp only
    rw [Option.elim_none, ← lowered]
  | some c =>
    dsimp only
    rw [runs c (List.mem_of_find?_eq_some found)]
    rfl

/-- Every phase on the intermediate tree puts another one in its place, which follows from the old
one and from what the document was given. -/
theorem effect_shaping {p : Phase} (shaping : p.isShaping = true) :
    ∃ change : CodeDocument → Document → Document,
      ∀ {w : Workpiece} {d : Document}, w.document.intermediate? = some d →
        p.effect e w = .ok { w with document := { w.document with
          intermediate? := some (change w.document.given d) } } := by
  cases p with
  | documentClassifier => exact effect_documentClassifier regular
  | directiveClassifier =>
    rcases documentAfter_of_regular .directiveClassifier
        e.features.directivePasses.ordered regular.directivePasses.ordered with ⟨change, runs⟩
    refine ⟨change, fun lowered => ?_⟩
    rw [Phase.effect, slot_bind lowered, runs lowered]
    rfl
  | optimization =>
    rcases documentAfter_of_regular .optimization
        e.features.optimizations.ordered regular.optimizations.ordered with ⟨change, runs⟩
    refine ⟨change, fun lowered => ?_⟩
    rw [Phase.effect, slot_bind lowered, runs lowered]
    rfl
  | parsing | syntaxTree | helperDiscovery | helperBinding | lowering | targetLowering =>
    cases shaping

end Features.IsRegular

end TemplateCompiler
