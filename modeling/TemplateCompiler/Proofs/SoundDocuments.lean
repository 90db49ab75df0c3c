import TemplateCompiler.Proofs.CasedDocument
import TemplateCompiler.Proofs.NestedDeclarations
import TemplateCompiler.Proofs.SourceMap

/-!
# Compiled documents are sound

A document that comes out of all phases passes the checks of finished documents: no child is
missing, every span is ordered and lies inside a file of the set, and at most one namespace, one
class and one method are primary.

Spans are followed from the files, of which the one with the imports of every document may be added
on the way, through parsing, binding and lowering.  From there on the document keeps its declarations
nested, which says at once what happens to spans, to children and to declarations.
-/

namespace TemplateCompiler

open IR IR.Node

namespace IR

namespace Node

variable {files : FileSet} {kinds : List Declaration} {ns : List Node}

theorem Nested.prepend {front : List Node} (nested : Nested files kinds ns)
    (before : AllFit files front) : Nested files kinds (front ++ ns) := by
  simpa using nested.surround before EveryIn.nil

theorem Nested.append {back : List Node} (nested : Nested files kinds ns)
    (behind : AllFit files back) : Nested files kinds (ns ++ back) := by
  simpa using nested.surround EveryIn.nil behind

/-- A directive is no declaration and is in none that is not around it. -/
theorem Nested.fit_of_isDirective {n : Node} (nested : Nested files kinds ns)
    (directive : n.isDirective = true) : n ∈ preorderAll ns → n.Every (Fit files) := by
  induction nested with
  | flat fit => exact Every.of_mem_preorderAll fit n
  | around _ declares before _ behind ih =>
    intro member
    simp only [preorderAll_append, preorderAll, preorder, List.mem_append, List.mem_cons] at member
    rcases member with front | (rfl | inside) | back
    · exact Every.of_mem_preorderAll before n front
    · rw [isDirective_of_declares declares] at directive
      cases directive
    · exact ih inside
    · exact Every.of_mem_preorderAll behind n back

end Node

namespace Document

variable {files : FileSet} {d : Document}

theorem Nested.report (nested : d.Nested files) (found : List Diagnostic) :
    (d.report found).Nested files := ⟨nested.span, nested.children⟩

theorem Nested.rewrite {R : List Node → List Node → Prop} (nested : d.Nested files)
    (rewriting : Rewriting files R) {children : List Node} (changed : R d.children children) :
    Nested files { d with children } := ⟨nested.span, nested.children.rewrite rewriting changed⟩

theorem Nested.changeFirst {p : Node → Bool} {f : Node → Node} {kind : Declaration}
    (nested : d.Nested files)
    (only : ∀ {head : Head} {children : List Node}, p (.node head children) = true →
      head.content.declaration? = some kind)
    (changed : ∀ {head : Head} {children : List Node} {kinds : List Declaration},
      head.Enclosed files → head.content.declaration? = some kind →
        Node.Nested files kinds children →
          Node.Nested files (kind :: kinds) [f (.node head children)]) :
    (d.changeFirst p f).Nested files := by
  refine ⟨nested.span, ?_⟩
  unfold Document.changeFirst
  cases found : changeFirstIn? p f d.children with
  | none => exact nested.children
  | some ms => exact nested.children.changeFirstIn? only changed found

theorem Nested.changeClass {f : ClassShape → List Node → ClassShape × List Node}
    (nested : d.Nested files)
    (members : ∀ shape {ns : List Node} {kinds : List Declaration}, Node.Nested files kinds ns →
      Node.Nested files kinds (f shape ns).2) : (d.changeClass f).Nested files := by
  apply nested.changeFirst declares_of_isPrimaryClass
  rintro ⟨content, span?, diagnostics, label?⟩ children kinds enclosed declares inside
  cases content with
  | classDecl shape => exact .single enclosed rfl (members shape inside)
  | _ => cases declares

theorem Nested.changeClassShape (nested : d.Nested files) (f : ClassShape → ClassShape) :
    (d.changeClassShape f).Nested files := nested.changeClass fun _ _ _ inside => inside

theorem Nested.changeNamespace {f : Text → List Node → Text × List Node} (nested : d.Nested files)
    (members : ∀ name {ns : List Node} {kinds : List Declaration}, Node.Nested files kinds ns →
      Node.Nested files kinds (f name ns).2) : (d.changeNamespace f).Nested files := by
  apply nested.changeFirst declares_of_isPrimaryNamespace
  rintro ⟨content, span?, diagnostics, label?⟩ children kinds enclosed declares inside
  cases content with
  | namespaceDecl name isPrimary => exact .single enclosed rfl (members name inside)
  | _ => cases declares

/-! ## Optimizing -/

theorem Nested.declareHelpers (nested : d.Nested files) : d.declareHelpers.Nested files := by
  apply nested.changeClass
  intro shape ns kinds inside
  apply inside.prepend
  exact helperFields_every fun _ _ => synthetic_fit rfl EveryIn.nil

theorem Nested.removeDirectives (nested : d.Nested files) : d.removeDirectives.Nested files :=
  (nested.report _).rewrite rewriting_dropDirectives rfl

theorem Nested.mergeMarkup (nested : d.Nested files) : d.mergeMarkup.Nested files :=
  nested.rewrite rewriting_mergeLevels (.inr ⟨heightAll d.children, rfl⟩)

theorem withoutBody_nested {head : Head} (enclosed : head.Enclosed files) (shape : MethodShape)
    (kinds : List Declaration) :
    Node.Nested files (.methodOf :: kinds) [withoutBody head shape] := by
  unfold withoutBody
  refine .single enclosed rfl (.flat ?_)
  split
  · exact EveryIn.nil
  · exact .single (synthetic_fit rfl (.single (codeToken_fit _)))

theorem Nested.dropBody (nested : d.Nested files) : d.dropBody.Nested files := by
  unfold Document.dropBody
  split
  · exact nested
  split
  · split
    · exact nested
    · apply (nested.report _).changeFirst declares_of_isPrimaryMethod
      rintro ⟨content, span?, diagnostics, label?⟩ children kinds enclosed declares _
      cases content with
      | methodDecl shape => exact withoutBody_nested enclosed shape kinds
      | _ => cases declares
  · exact nested

end Document

end IR

/-! ## Directives -/

namespace Dialect

variable {files : FileSet} {d : Document}

theorem rewriting_withoutBlocks {p : Node → Bool}
    (directives : ∀ n, p n = true → n.isDirective = true) :
    Rewriting files fun ns ms => ms = withoutBlocksIn p false ns where
  fit := by
    rintro ns _ rfl fit
    exact withoutBlocksIn_every (fun _ _ => fit_ofHead _) false fit
  split := by
    rintro kind head front children back _ declares rfl
    have other : p (.node head children) = false := by
      rw [Bool.eq_false_iff]
      intro found
      have directive := directives _ found
      rw [isDirective_of_declares declares] at directive
      cases directive
    refine ⟨_, _, _, ?_, rfl, rfl, rfl⟩
    rw [withoutBlocksIn_append, withoutBlocksIn, withoutBlocks, other]
    rfl

theorem rewriting_defineSections :
    Rewriting files fun ns ms => ∃ names, ms = (defineSectionsIn names ns).1 where
  fit := by
    rintro ns _ ⟨names, rfl⟩ fit
    exact defineSectionsIn_every (fun _ _ => fit_ofHead _) (fun _ _ _ => fit_ofHead _) defines_fit
      names fit
  split := by
    rintro kind head front children back _ declares ⟨names, rfl⟩
    have other : isSection (.node head children) = false := by
      rw [Bool.eq_false_iff]
      intro found
      have directive := isDirective_of_isDirectiveOf found
      rw [isDirective_of_declares declares] at directive
      cases directive
    refine ⟨_, _, _, ?_, ⟨names, rfl⟩, ⟨(defineSectionsIn names front).2.1, rfl⟩,
      ⟨(defineSectionsIn (defineSectionsIn names front).2.1 children).2.1, rfl⟩⟩
    simp [defineSectionsIn_append, defineSectionsIn, defineSections, other]

theorem applyMembers_nested (definitions : List DirectiveDescriptor) (nested : d.Nested files) :
    (applyMembers definitions d).Nested files := by
  have directives : ∀ n, isMember definitions n = true → n.isDirective = true :=
    isDirective_of_isMember
  have blocks : AllFit files ((d.nodes.filter (isMember definitions)).flatMap Node.block) := by
    apply EveryIn.flatMap
    intro n among
    rcases List.mem_filter.mp among with ⟨member, chosen⟩
    have fit := nested.children.fit_of_isDirective (directives n chosen) member
    exact EveryIn.filter fit.inside _
  have taken := nested.rewrite (rewriting_withoutBlocks directives) rfl
  unfold applyMembers
  dsimp only
  split
  · exact nested
  · apply taken.changeClass
    intro shape ns kinds inside
    exact inside.append (withoutBlocksIn_every (fun _ _ => fit_ofHead _) false blocks)

theorem applySections_nested (nested : d.Nested files) : (applySections d).Nested files :=
  (nested.report _).rewrite rewriting_defineSections ⟨[], rfl⟩

theorem addModelAlias_nested (nested : d.Nested files) : (addModelAlias d).Nested files := by
  apply nested.changeNamespace
  intro name ns kinds inside
  dsimp only
  split
  · exact inside
  · have added : AllFit files [modelAlias] := .single (synthetic_fit rfl EveryIn.nil)
    exact inside.prepend added

theorem kept_nested : Kept (Document.Nested files) where
  report found nested := nested.report found
  header _ nested := ⟨nested.span, nested.children⟩
  classShape f nested := nested.changeClassShape f
  namespaceName _ nested := nested.changeNamespace fun _ _ _ inside => inside
  modelAlias := addModelAlias_nested
  members definitions := applyMembers_nested definitions
  sections := applySections_nested

end Dialect

/-! ## Classifying -/

namespace Classifier

variable {files : FileSet}

/-- What the declarations of an outline hold is fit. -/
structure Outline.Fit (files : FileSet) (o : Outline) : Prop where
  imports : AllFit files o.imports
  body : AllFit files o.body

theorem Outline.Fit.nested {o : Outline} (fit : o.Fit files) :
    Node.Nested files [.namespaceOf, .classOf, .methodOf] [o.toNode] := by
  have unplaced (content : Content) : Head.Enclosed files { content } := by
    intro span located
    cases located
  have method : Node.Nested files [.methodOf] [.synthetic (.methodDecl o.methodShape) o.body] :=
    .single (unplaced _) rfl (.flat fit.body)
  have inClass : Node.Nested files [.classOf, .methodOf] [.synthetic (.classDecl o.classShape)
      [.synthetic (.methodDecl o.methodShape) o.body]] := .single (unplaced _) rfl method
  exact .single (unplaced _) rfl (inClass.prepend fit.imports)

theorem component_fit (doc : CodeDocument) {o : Outline} (fit : o.Fit files) :
    (component.shape doc o).Fit files := by
  constructor
  · exact EveryIn.append fit.imports (.map fun _ _ => synthetic_fit rfl EveryIn.nil)
  · dsimp only [component]
    split
    · exact EveryIn.filter fit.body _
    · exact fit.body

theorem classified_nested (components : Bool) (doc : CodeDocument) {d : Document}
    (span : d.span? = none) (fit : AllFit files d.children) :
    ((ProjectEngine.ruleOf components doc d).classified doc d).Nested files := by
  have initial : (Outline.initial d).Fit files := ⟨EveryIn.filter fit _, EveryIn.filter fit _⟩
  refine ⟨span, Outline.Fit.nested ?_⟩
  unfold ProjectEngine.ruleOf
  split
  · exact component_fit doc initial
  split
  · split
    · exact ⟨initial.imports, initial.body⟩
    · exact ⟨initial.imports, initial.body⟩
  · exact initial

end Classifier

/-! ## All phases -/

namespace ProjectEngine

variable {files : FileSet}

theorem optimizations_nested (file? : Option Nat) :
    ∀ f ∈ optimizations, ∀ d : Document, d.Nested files → (f file? d).Nested files := by
  intro f member d nested
  simp only [optimizations, List.mem_cons, List.not_mem_nil, or_false] at member
  rcases member with rfl | rfl | rfl | rfl
  · exact nested.declareHelpers
  · exact nested.removeDirectives
  · exact nested.mergeMarkup
  · exact nested.dropBody

theorem shaped_nested (components : Bool) (doc : CodeDocument) {d : Document}
    (span : d.span? = none) (fit : AllFit files d.children) :
    (shaped components doc d).Nested files := by
  apply applied_keeps (optimizations_nested _)
  apply applied_keeps (Dialect.kept_nested.directiveChanges _)
  exact Classifier.classified_nested components doc span fit

end ProjectEngine

namespace Workpiece

variable {e : Engine} {doc : CodeDocument} {source : SourceFile} {provided : List SourceFile}
  {files : FileSet}

theorem boundTree_enclosed (registered : files.get? source.id = some source) :
    Syntax.Node.AllEnclosed files (boundTree e doc source provided).body := by
  have prepared : Syntax.Node.AllEnclosed files
      (preparedTree source (parserOptions e doc)).body :=
    Syntax.Node.trimAll_enclosed (Syntax.Node.mergeAll_enclosed
      (Syntax.parse_enclosed registered _))
  unfold boundTree Syntax.Tree.bindHelpers
  dsimp only
  split
  · exact prepared
  · exact Syntax.HelperRules.bindNodes_enclosed _ _ prepared

theorem finished_nested (given : files.get? source.id = some source)
    (imported : ∀ f ∈ provided ++ doc.imports, files.get? f.id = some f) (components : Bool) :
    (finished e doc source provided components).Nested files := by
  apply ProjectEngine.shaped_nested
  · rfl
  · apply Lowering.document_fit (boundTree_enclosed given)
    intro t member
    rcases List.mem_map.mp member with ⟨f, among, rfl⟩
    exact Syntax.parse_enclosed (imported f among) _

end Workpiece

namespace World

/-- A run that succeeds leaves a document without defects, whatever the files, the tag helpers and
the configuration are. -/
theorem run_leaves_no_defects {c : Configuration} {withImports : Bool}
    {helpers? : Option (List TagHelper)} {custom : List DirectiveDescriptor} {e : Engine}
    (built : ((EngineBuilder.project c withImports helpers?).build
      (·.addDirectives custom)).2 = .ok e)
    {w after : World} (registered : w.workpiece.Registered) {parent : Nat}
    {cancelAt? : Option Nat} (ran : w.run e parent cancelAt? = (after, none)) :
    ∃ d, after.document.intermediate? = some d ∧ d.defects after.files = [] := by
  have project := ProjectEngine.isProject_of_build built
  rcases ProjectEngine.workpiece_of_run project ran with ⟨source, given, same⟩
  have document : after.document = _ := congrArg Workpiece.document same
  have files : after.files = _ := congrArg Workpiece.files same
  have listed := Workpiece.provide_registered registered e.features w.document.fileKind
  have nested := Workpiece.finished_nested (e := e)
    (listed source (List.mem_append_left _ (Option.mem_toList.mpr given)))
    (fun f member => listed f (List.mem_append_right _ member)) (c.version.atLeast .v3_0)
  rw [document, files]
  exact ⟨_, rfl, nested.defects⟩

theorem run_leaves_no_defects_page :
    let imports := SourceFile.ofContent 0 "/a/_ViewImports.quill" "@using A.B\n@inherits C" .none
    let source := SourceFile.ofContent 1 "/a/page.quill"
      "@page\n<p a='@(x)' b=\"@y z\">@section S \x7b @w </p>@functions \x7b int i; \x7d@(v" .none
    let w : World :=
      { document := CodeDocument.ofSource source [imports]
        files := ((FileSet.empty.add imports.path imports.content .none).1.add source.path
          source.content .none).1 }
    ∃ e after, ((EngineBuilder.project {} true none).build (·.addDirectives [])).2 = .ok e
      ∧ w.workpiece.Registered ∧ w.run e = (after, none)
      ∧ ∃ d, after.document.intermediate? = some d ∧ d.defects after.files = [] := by
  intro imports source w
  have built : ∃ e, ((EngineBuilder.project {} true none).build (·.addDirectives [])).2 = .ok e :=
    ⟨_, rfl⟩
  rcases built with ⟨e, built⟩
  have project := ProjectEngine.isProject_of_build built
  have registered : w.workpiece.Registered := by
    intro f member
    rcases List.mem_cons.mp member with rfl | imported
    · rfl
    · cases List.mem_singleton.mp imported
      rfl
  have honored : (Workpiece.parserOptions e w.document).conflict? = none := by
    unfold Workpiece.parserOptions
    rw [project.parserOptions, ProjectEngine.configuration_of_build built]
    rfl
  rcases ProjectEngine.run_of_honored project (w := w) rfl honored 0 with ⟨after, ran, -⟩
  exact ⟨e, after, built, registered, ran, run_leaves_no_defects built registered ran⟩

end World

end TemplateCompiler
