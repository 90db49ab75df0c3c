import TemplateCompiler.Pipeline.Classifier
import TemplateCompiler.Proofs.FirstNode

/-!
# Passes keep the trace

Passes move nodes between parents, drop them, join markup and change declarations.  None of them
looks into an expression: its only child is a token of code, which is no directive, no section and
no declaration.  So a pass that rebuilds the children of every node gives an expression back as it
was, and a traced document stays traced.
-/

namespace TemplateCompiler

namespace IR

variable {files : FileSet}

/-! ## Rebuilding nodes -/

/-- A traced node with other children is traced, provided that an expression keeps its code. -/
theorem Node.Traced.withChildren {head : Head} {children others : List Node}
    (traced : (Node.node head children).Traced files)
    (kept : ∀ code, head.content = .expression → children = [.codeToken code] →
      others = children) : (Node.node head others).Traced files := by
  rcases head with ⟨content, span?, diagnostics, label?⟩
  cases content with
  | expression =>
    rcases traced with ⟨code, same, written⟩
    rw [kept code rfl same]
    exact ⟨code, same, written⟩
  | _ => exact traced

/-- There is nothing to find in an expression. -/
theorem Node.First.ne_codeToken {p : Node → Bool} {n : Node} {fill : Node → List Node}
    (first : First p n fill) {code : Text} (unfit : p (.codeToken code) = false) :
    fill n ≠ [.codeToken code] := by
  intro same
  cases first with
  | here fits rest =>
    rw [(List.cons.inj same).1, unfit] at fits
    cases fits
  | behind t none first => exact first.ne_nil (List.cons.inj same).2
  | inside head first outer rest =>
    exact first.ne_nil (Node.node.inj (List.cons.inj same).1).2

namespace Document

/-- A document is traced if everything in it is: expressions and imports say what the template has
at their places. -/
def Traced (files : FileSet) (d : Document) : Prop := Node.AllTraced files d.children

theorem Traced.report {d : Document} (traced : d.Traced files) (found : List Diagnostic) :
    (d.report found).Traced files := traced

theorem Traced.changeFirst {d : Document} (traced : d.Traced files) {p : Node → Bool}
    {f : Node → Node} (unchanged : ∀ code, p (.codeToken code) = false)
    (changed : ∀ n, p n = true → n.Every (Node.Traced files) →
      (f n).Every (Node.Traced files)) : (d.changeFirst p f).Traced files := by
  rcases d.changeFirst_cases p f with ⟨-, same⟩ | ⟨n, fill, first, before, after⟩
  · rw [same]
    exact traced
  · have every : Node.EveryIn (Node.Traced files) (fill n) := before ▸ traced
    rw [after]
    refine first.every ?_ every (changed n first.fits (first.every_self every))
    intro head inner within self
    apply self.withChildren
    intro code _ same
    exact absurd same (within.ne_codeToken (unchanged code))

theorem Traced.changeClass {d : Document} (traced : d.Traced files)
    {f : ClassShape → List Node → ClassShape × List Node}
    (members : ∀ shape ns, Node.AllTraced files ns → Node.AllTraced files (f shape ns).2) :
    (d.changeClass f).Traced files := by
  refine traced.changeFirst (fun _ => rfl) ?_
  intro n _ every
  cases n with
  | absent => exact every
  | node head children =>
    rcases head with ⟨content, span?, diagnostics, label?⟩
    cases content with
    | classDecl shape => exact Node.every_of_children rfl (members shape children every.inside)
    | _ => exact every

theorem Traced.changeClassShape {d : Document} (traced : d.Traced files)
    (f : ClassShape → ClassShape) : (d.changeClassShape f).Traced files :=
  traced.changeClass fun _ _ members => members

theorem Traced.changeNamespace {d : Document} (traced : d.Traced files)
    {f : Text → List Node → Text × List Node}
    (members : ∀ name ns, Node.AllTraced files ns → Node.AllTraced files (f name ns).2) :
    (d.changeNamespace f).Traced files := by
  refine traced.changeFirst (fun _ => rfl) ?_
  intro n _ every
  cases n with
  | absent => exact every
  | node head children =>
    rcases head with ⟨content, span?, diagnostics, label?⟩
    cases content with
    | namespaceDecl name isPrimary =>
      exact Node.every_of_children rfl (members name children every.inside)
    | _ => exact every

theorem Traced.changeMethod {d : Document} (traced : d.Traced files)
    {f : Head → MethodShape → List Node → Node}
    (changed : ∀ head shape body, (f head shape body).Every (Node.Traced files)) :
    (d.changeMethod f).Traced files := by
  refine traced.changeFirst (fun _ => rfl) ?_
  intro n _ every
  cases n with
  | absent => exact every
  | node head children =>
    rcases head with ⟨content, span?, diagnostics, label?⟩
    cases content with
    | methodDecl shape => exact changed _ _ _
    | _ => exact every

end Document

/-! ## Optimizing -/

namespace Node

theorem mergeLevels_codeToken (levels : Nat) (code : Text) :
    mergeLevels levels (codeToken code) = codeToken code := by
  cases levels <;> rfl

theorem rebuilds_mergeLevels (levels : Nat) :
    Rebuilds (Traced files) (mergeLevels (levels + 1)) := by
  intro head children traced
  apply traced.withChildren
  rintro code - rfl
  exact congrArg (fun n => [n]) (mergeLevels_codeToken levels code)

theorem rebuilds_dropDirectives : Rebuilds (Traced files) dropDirectives := by
  intro head children traced
  apply traced.withChildren
  rintro code - rfl
  rfl

end Node

namespace Document

theorem Traced.mergeMarkup {d : Document} (traced : d.Traced files) :
    d.mergeMarkup.Traced files := by
  have root : d.toNode.Every (Node.Traced files) := Node.every_of_children rfl traced
  have joins : Node.Joins (Node.Traced files) := fun _ _ _ => trivial
  exact (Node.mergeLevels_every Node.rebuilds_mergeLevels joins d.toNode.height root).inside

theorem Traced.removeDirectives {d : Document} (traced : d.Traced files) :
    d.removeDirectives.Traced files :=
  Node.dropDirectivesAll_every Node.rebuilds_dropDirectives traced

theorem Traced.dropBody {d : Document} (traced : d.Traced files) : d.dropBody.Traced files := by
  unfold Document.dropBody
  split
  · exact traced
  split
  · split
    · exact traced
    · refine (traced.report _).changeMethod fun head shape _ => ?_
      unfold withoutBody
      refine Node.every_of_children rfl ?_
      split
      · exact Node.AllTraced.nil
      · exact .single (Node.every_of_children rfl (.single (Node.every_codeToken _)))
  · exact traced

theorem Traced.declareHelpers {d : Document} (traced : d.Traced files) :
    d.declareHelpers.Traced files :=
  traced.changeClass fun _ _ members =>
    (Node.helperFields_every fun _ _ => Node.every_of_children rfl .nil).append members

end Document

end IR

/-! ## Directives -/

namespace Dialect

open IR

variable {files : FileSet}

theorem isDirectiveOf_expression {head : Head} {children : List Node}
    (isExpression : head.content = .expression) (e : DirectiveDescriptor) :
    (Node.node head children).isDirectiveOf e = false := by
  rcases head with ⟨content, span?, diagnostics, label?⟩
  cases isExpression
  rfl

theorem rebuilds_withoutBlocks {p : Node → Bool}
    (kept : ∀ head children, head.content = .expression → p (.node head children) = false) :
    Node.Rebuilds (Node.Traced files) (withoutBlocks p) := by
  intro head children traced
  apply traced.withChildren
  rintro code isExpression rfl
  rw [kept head _ isExpression]
  rfl

theorem applyMembers_traced (definitions : List DirectiveDescriptor) {d : Document}
    (traced : d.Traced files) : (applyMembers definitions d).Traced files := by
  have rebuilds : Node.Rebuilds (Node.Traced files) (withoutBlocks fun n =>
      definitions.any fun e => n.isDirectiveOf e) := by
    apply rebuilds_withoutBlocks
    intro head children isExpression
    rw [List.any_eq_false]
    intro e _
    rw [isDirectiveOf_expression isExpression e]
    exact Bool.false_ne_true
  unfold applyMembers
  dsimp only
  split
  · exact traced
  · refine Document.Traced.changeClass ?_ ?_
    · exact withoutBlocksIn_every rebuilds _ traced
    · intro shape members inside
      exact inside.append (withoutBlocksIn_every rebuilds _ (blocks_every traced _))

theorem rebuilds_withoutSections : Node.Rebuilds (Node.Traced files) withoutSections := by
  intro head children traced
  apply traced.withChildren
  rintro code - rfl
  rfl

theorem keptAround_traced : KeptAround (Node.Traced files) := by
  intro names head children traced
  apply traced.withChildren
  rintro code - rfl
  rfl

theorem applySections_traced {d : Document} (traced : d.Traced files) :
    (applySections d).Traced files :=
  defineSectionsIn_every rebuilds_withoutSections keptAround_traced (fun _ _ => trivial) [] traced

/-- A pass that keeps documents traced: whatever it moves or makes anew still says what the template
has at its place. -/
def KeepsTrace (files : FileSet) (f : Document → Document) : Prop :=
  ∀ d, d.Traced files → (f d).Traced files

theorem addModelAlias_traced : KeepsTrace files addModelAlias := by
  intro d traced
  refine Document.Traced.changeNamespace traced ?_
  intro name members inside
  dsimp only
  split
  · exact inside
  · exact .cons (Node.every_of_children rfl .nil) inside

end Dialect

/-! ## Classifying -/

namespace Classifier

open IR

variable {files : FileSet}

/-- What the declarations of an outline hold is traced. -/
structure Outline.Traced (files : FileSet) (o : Outline) : Prop where
  imports : Node.AllTraced files o.imports
  body : Node.AllTraced files o.body

theorem Outline.Traced.initial {d : Document} (traced : d.Traced files) :
    (Outline.initial d).Traced files :=
  ⟨traced.filter _, traced.filter _⟩

theorem Outline.Traced.toNode {o : Outline} (traced : o.Traced files) :
    o.toNode.Every (Node.Traced files) := by
  refine Node.every_of_children rfl (traced.imports.append (.single ?_))
  exact Node.every_of_children rfl (.single (Node.every_of_children rfl traced.body))

/-- A classifier that keeps what it moves traced keeps the document traced. -/
theorem Rule.action_traced {r : Rule}
    (shaped : ∀ doc o, Outline.Traced files o → (r.shape doc o).Traced files)
    {settings : ClassifierSettings} {doc : CodeDocument} {d after : Document}
    (traced : d.Traced files) (ran : r.action.run settings doc d = .ok after) :
    after.Traced files := by
  cases ran
  have outline := shaped doc _ (Outline.Traced.initial traced)
  refine .single (Outline.Traced.toNode ?_)
  exact ⟨outline.imports, outline.body⟩

theorem withComponentImports_traced {imports : List Node}
    (traced : Node.AllTraced files imports) :
    Node.AllTraced files (Dialect.withComponentImports imports) := by
  refine Node.AllTraced.append traced ?_
  intro n member
  rcases List.mem_map.mp member with ⟨name, -, rfl⟩
  refine .intro _ ?_ Node.AllTraced.nil
  intro span located
  cases located

theorem component_traced (doc : CodeDocument) (o : Outline) (traced : o.Traced files) :
    (component.shape doc o).Traced files := by
  refine ⟨withComponentImports_traced traced.imports, ?_⟩
  unfold component
  dsimp only
  split
  · exact traced.body.filter _
  · exact traced.body

end Classifier

end TemplateCompiler
