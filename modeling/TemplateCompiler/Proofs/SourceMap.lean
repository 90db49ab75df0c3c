import TemplateCompiler.Proofs.CodeLayout
import TemplateCompiler.Proofs.ProjectEngine
import TemplateCompiler.Proofs.TracedPasses

/-!
# The source map of compiled documents

The output of a document says where pieces of it came from.  In a document without tag helpers the
pieces of expressions and imports repeat the template: this is followed from the files through
parsing, lowering and all passes to the text that is written.
-/

namespace TemplateCompiler

/-- Adding a file leaves the others where they are. -/
theorem FileSet.get?_add_of_some {s : FileSet} {id : Nat} {file : SourceFile}
    (registered : s.get? id = some file) (path content : Text) (flags : FileFlags) :
    (s.add path content flags).1.get? id = some file := by
  have inside := (Array.getElem?_eq_some_iff.mp registered).1
  exact (Array.getElem?_push_lt inside).trans (Array.getElem?_eq_getElem inside ▸ registered)

namespace Workpiece

def sources (w : Workpiece) : List SourceFile :=
  w.document.source?.toList ++ w.document.imports ++ w.providedImport?.toList

/-- The files of a document are in the set under their numbers. -/
def Registered (w : Workpiece) : Prop := ∀ f ∈ w.sources, w.files.get? f.id = some f

/-- What is provided is in the set, and everything else stays there. -/
theorem provide_registered {w : Workpiece} (registered : w.Registered) (f : Features)
    (kind : FileKind) :
    ∀ file ∈ w.document.source?.toList ++ ((w.provide f kind).1 ++ w.document.imports),
      (w.provide f kind).2.files.get? file.id = some file := by
  rcases w with ⟨document, files, provided?⟩
  have own : ∀ file ∈ document.source?.toList ++ document.imports,
      files.get? file.id = some file :=
    fun file member => registered file (List.mem_append_left _ member)
  unfold provide
  cases f.providedImport?.bind (· kind) with
  | none => exact own
  | some i =>
    cases provided? with
    | some known =>
      intro file member
      have listed : file ∈ document.source?.toList ++ document.imports ++ [known] := by
        simp only [List.mem_append, List.mem_singleton] at member ⊢
        rcases member with source | same | imported
        · exact .inl (.inl source)
        · exact .inr same
        · exact .inl (.inr imported)
      exact registered file listed
    | none =>
      intro file member
      simp only [List.mem_append, List.mem_singleton] at member
      rcases member with source | same | imported
      · exact FileSet.get?_add_of_some (own file (List.mem_append_left _ source)) _ _ _
      · rw [same]
        exact FileSet.get?_add files i.path i.content .inMemory
      · exact FileSet.get?_add_of_some (own file (List.mem_append_right _ imported)) _ _ _

end Workpiece

namespace ProjectEngine

open IR

variable {files : FileSet} {components : Bool}

theorem directiveChanges_traced (file? : Option Nat) :
    ∀ f ∈ directiveChanges components, Dialect.KeepsTrace files (f file?) := by
  have kept : Dialect.Kept (Document.Traced files) := {
    report := fun found traced => traced.report found
    header := fun _ traced => traced
    classShape := fun f traced => traced.changeClassShape f
    namespaceName := fun _ traced => traced.changeNamespace fun _ _ members => members
    modelAlias := Dialect.addModelAlias_traced _
    members := Dialect.applyMembers_traced
    sections := Dialect.applySections_traced
  }
  exact kept.directiveChanges file?

theorem optimizations_traced (file? : Option Nat) :
    ∀ f ∈ optimizations, Dialect.KeepsTrace files (f file?) := by
  intro f member
  simp only [optimizations, List.mem_cons, List.not_mem_nil, or_false] at member
  rcases member with rfl | rfl | rfl | rfl
  · exact fun _ traced => traced.declareHelpers
  · exact fun _ traced => traced.removeDirectives
  · exact fun _ traced => traced.mergeMarkup
  · exact fun _ traced => traced.dropBody

theorem classified_traced (doc : CodeDocument) {d : Document} (traced : d.Traced files) :
    ((ruleOf components doc d).classified doc d).Traced files := by
  refine Classifier.Rule.action_traced ?_ traced (Classifier.Rule.run_action _ doc d)
  intro doc o outline
  unfold ruleOf
  split
  · exact Classifier.component_traced doc o outline
  split
  · split
    · exact ⟨outline.imports, outline.body⟩
    · exact ⟨outline.imports, outline.body⟩
  · exact outline

theorem shaped_traced (doc : CodeDocument) {d : Document} (traced : d.Traced files) :
    (shaped components doc d).Traced files :=
  applied_keeps (optimizations_traced _) _
    (applied_keeps (directiveChanges_traced _) _ (classified_traced doc traced))

end ProjectEngine

namespace Workpiece

variable {e : Engine} {doc : CodeDocument} {source : SourceFile} {provided : List SourceFile}
  {files : FileSet}

theorem preparedTree_traced (registered : files.get? source.id = some source)
    (options : ParserOptions) :
    Syntax.Node.AllTraced files (preparedTree source options).body :=
  Syntax.Node.trimAll_traced
    (Syntax.Node.mergeAll_traced (Syntax.parse_traced registered options))

theorem importTrees_traced {sources : List SourceFile}
    (registered : ∀ f ∈ sources, files.get? f.id = some f) (options : ParserOptions) :
    ∀ t ∈ importTrees options sources, Syntax.Node.AllTraced files t.body := by
  intro t member
  rcases List.mem_map.mp member with ⟨f, among, rfl⟩
  exact Syntax.parse_traced (registered f among) _

theorem finished_traced (given : files.get? source.id = some source)
    (imported : ∀ f ∈ provided ++ doc.imports, files.get? f.id = some f)
    (unscoped : (scopeOf e doc source provided).1.helpers = []) (components : Bool) :
    (finished e doc source provided components).Traced files := by
  refine ProjectEngine.shaped_traced doc ?_
  refine Lowering.document_traced ?_ (importTrees_traced imported _)
  rw [body_boundTree e doc source provided unscoped]
  exact preparedTree_traced given _

end Workpiece

namespace Code

/-- The generated text of a mapping says what stands at its place in the template: an import names
the namespace, and an expression is written with its sign, and in parentheses or not. -/
def Mapping.Repeats (files : FileSet) (text : Text) (m : Mapping) (n : IR.Node) : Prop :=
  match n.content? with
  | some (.usingDecl _) => files.Holds m.source fun content =>
      m.generated text = "using " ++ content.slice m.source.start m.source.stop ++ ";"
  | some .expression => files.Holds m.source fun content =>
      let original := content.slice m.source.start m.source.stop
      original = "@" ++ m.generated text ∨ original = "@(" ++ m.generated text ++ ")"
        ∨ (original = "@(" ++ m.generated text ∧ m.source.stop = content.length)
  | _ => True

theorem Mapping.repeats_of_traced {files : FileSet} {text : Text} {m : Mapping} {k : Mark}
    (places : m.Places text k.place) (fits : Outline.Fits k) (traced : k.node.Traced files) :
    m.Repeats files text k.node := by
  have generated : m.generated text = k.text := places.generated
  have source : m.source = k.span := places.source
  rcases k with ⟨n, span, written⟩
  cases n with
  | absent => trivial
  | node head children =>
    rcases head with ⟨content, span?, diagnostics, label?⟩
    cases content with
    | usingDecl name =>
      rcases fits with ⟨known, wording⟩
      rcases traced span known with ⟨file, registered, stands⟩
      change m.source = span at source
      change m.generated text = written at generated
      change written = "using " ++ name ++ ";" at wording
      refine ⟨file, source ▸ registered, ?_⟩
      dsimp only
      rw [source, stands, generated, wording]
    | expression =>
      rcases fits with ⟨known, wording⟩
      rcases traced with ⟨code, rfl, stands⟩
      rcases stands span known with ⟨file, registered, explicit, original⟩
      change m.source = span at source
      have code_eq : m.generated text = code := by
        rw [generated]
        exact wording.trans (List.append_nil code)
      refine ⟨file, source ▸ registered, ?_⟩
      dsimp only
      rw [source, code_eq]
      cases explicit with
      | false => exact .inl original
      | true => exact .inr original
    | _ => trivial

end Code

namespace World

open Code

/-- The mappings of a document without tag helpers are in order, do not touch each other and are
inside the output; each comes from a node of the document, and where that is an expression or an
import, its text repeats the template. -/
theorem mappings_repeat_source {c : Configuration} {withImports : Bool}
    {helpers? : Option (List TagHelper)} {custom : List DirectiveDescriptor} {e : Engine}
    (built : ((EngineBuilder.project c withImports helpers?).build
      (·.addDirectives custom)).2 = .ok e)
    {w after : World} (registered : w.workpiece.Registered) {parent : Nat}
    {cancelAt? : Option Nat} (ran : w.run e parent cancelAt? = (after, none))
    (unscoped : after.document.scope?.map HelperScope.helpers = some []) :
    ∃ output d, after.document.output? = some output ∧ after.document.intermediate? = some d
      ∧ output.mappings.Pairwise (fun a b => a.offset + a.length < b.offset)
      ∧ (∀ m ∈ output.mappings, m.offset + m.length ≤ output.text.length)
      ∧ List.Forall₂ (fun m k => k.node ∈ d.nodes ∧ m.source = k.span
          ∧ m.generated output.text = k.text ∧ m.Repeats after.files output.text k.node)
        output.mappings (Outline.marksAll d.children) := by
  have project := ProjectEngine.isProject_of_build built
  have done := through_of_run ran
  rw [project.phases] at done
  rcases ProjectEngine.of_through_ok done with ⟨source, given, honored⟩
  rw [ProjectEngine.through_of_honored project given honored] at done
  have whole := Except.ok.inj done
  have document : after.document = _ := (congrArg Workpiece.document whole).symm
  have files : after.files = _ := (congrArg Workpiece.files whole).symm
  rw [document] at unscoped ⊢
  rw [files]
  have listed := Workpiece.provide_registered registered e.features w.document.fileKind
  have traced := Workpiece.finished_traced
    (listed source (List.mem_append_left _ (Option.mem_toList.mpr given)))
    (fun f member => listed f (List.mem_append_right _ member)) (Option.some.inj unscoped)
    (c.version.atLeast .v3_0)
  refine ⟨_, _, rfl, rfl, Target.write_pairwise _ _, ?_, ?_⟩
  · intro m member
    exact Nat.le_of_lt (Target.write_inside _ _ m member)
  · have among := Outline.marksAll_among
      (Workpiece.finished e w.document source
        (w.workpiece.provide e.features w.document.fileKind).1 (c.version.atLeast .v3_0)).children
    have placed := Target.write_places (Workpiece.codeOptions e w.document)
      (Workpiece.finished e w.document source
        (w.workpiece.provide e.features w.document.fileKind).1 (c.version.atLeast .v3_0))
    have both := (List.forall₂_and_left _ _).mpr ⟨among, placed.flip⟩
    refine both.flip.imp ?_
    intro m k both
    rcases both with ⟨here, places⟩
    have repeats := Mapping.repeats_of_traced places here.fits
      (IR.Node.Every.of_mem_preorderAll traced k.node here.member).self
    exact ⟨here.member, places.source, places.generated, repeats⟩

theorem mappings_repeat_source_component :
    let files := (FileSet.empty.add "/a/page.quillc"
      "@using A.B\n<p a='@(x)' b=\"@y\">@section S \x7b @z.w \x7d</p>@(v" .none).1
    let source := SourceFile.ofContent 0 "/a/page.quillc"
      "@using A.B\n<p a='@(x)' b=\"@y\">@section S \x7b @z.w \x7d</p>@(v" .none
    let w : World := { document := { CodeDocument.ofSource source [] with fileKind := .component }
                       files }
    ∃ e after, ((EngineBuilder.project {} true none).build (·.addDirectives [])).2 = .ok e
      ∧ w.workpiece.Registered ∧ w.run e = (after, none)
      ∧ after.document.scope?.map HelperScope.helpers = some []
      ∧ ∃ output d, after.document.output? = some output ∧ after.document.intermediate? = some d
        ∧ output.mappings.Pairwise (fun a b => a.offset + a.length < b.offset)
        ∧ (∀ m ∈ output.mappings, m.offset + m.length ≤ output.text.length)
        ∧ List.Forall₂ (fun m k => k.node ∈ d.nodes ∧ m.source = k.span
            ∧ m.generated output.text = k.text ∧ m.Repeats after.files output.text k.node)
          output.mappings (Outline.marksAll d.children) := by
  intro files source w
  have built : ∃ e, ((EngineBuilder.project {} true none).build (·.addDirectives [])).2 = .ok e :=
    ⟨_, rfl⟩
  rcases built with ⟨e, built⟩
  have project := ProjectEngine.isProject_of_build built
  have registered : w.workpiece.Registered := by
    intro f member
    cases List.mem_singleton.mp member
    rfl
  have honored : (Workpiece.parserOptions e w.document).conflict? = none := by
    unfold Workpiece.parserOptions
    rw [project.parserOptions, ProjectEngine.configuration_of_build built]
    rfl
  rcases ProjectEngine.run_of_honored project (w := w) rfl honored 0 with ⟨after, ran, same⟩
  have unscoped : after.document.scope?.map HelperScope.helpers = some [] := by
    rw [show after.document = _ from congrArg Workpiece.document same]
    change some (Workpiece.scopeOf e w.document source _).1.helpers = _
    unfold Workpiece.scopeOf
    rw [ProjectEngine.helpers?_of_build built]
    rfl
  exact ⟨e, after, built, registered, ran, unscoped,
    mappings_repeat_source built registered ran unscoped⟩

end World

end TemplateCompiler
