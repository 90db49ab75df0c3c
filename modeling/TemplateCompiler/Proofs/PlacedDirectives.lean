import TemplateCompiler.Proofs.FirstNode
import TemplateCompiler.Proofs.ProjectEngine
import TemplateCompiler.Proofs.SurvivingReports

/-!
# Directives have places

A finding about a node is reported at the span of the node, and at the span of no position where the
node has none.  Lowering gives every directive a span, and no pass takes it away: passes move
directives, cut their blocks off and drop them, but the only nodes that they make up are
declarations and sections.
-/

namespace TemplateCompiler

namespace IR

def Head.Placed (head : Head) : Prop :=
  ∀ name descriptor?, head.content = .directive name descriptor? → head.span?.isSome = true

theorem Head.placed_of_silent {head : Head} (silent : head.Silent) : head.Placed := by
  intro name descriptor? same
  have plain := silent.plain
  rw [same] at plain
  cases plain

namespace Node

/-- All directives among some nodes and inside them have spans. -/
def AllPlaced (ns : List Node) : Prop := EveryIn (Headed Head.Placed) ns

mutual

theorem every_placed_of_silent :
    ∀ {n : Node}, n.Every (Headed Head.Silent) → n.Every (Headed Head.Placed)
  | .absent, _ => .intro _ trivial fun _ none => absurd none List.not_mem_nil
  | .node _ _, silent =>
    .intro _ (Head.placed_of_silent silent.self) (allPlaced_of_silent silent.inside)

theorem allPlaced_of_silent : ∀ {ns : List Node}, AllSilent ns → AllPlaced ns
  | [], _ => EveryIn.nil
  | _ :: _, silent =>
    EveryIn.cons (every_placed_of_silent silent.head) (allPlaced_of_silent silent.tail)

end

theorem placed_of_not_directive {head : Head} {children : List Node}
    (other : (Node.node head children).isDirective = false) :
    (Node.node head children).Headed Head.Placed := by
  intro name descriptor? same
  rcases head with ⟨content, span?, diagnostics, label?⟩
  cases same
  cases other

/-- A node that is no directive has its place if its children have theirs. -/
theorem every_placed {head : Head} {children : List Node}
    (other : (Node.node head children).isDirective = false) (inside : AllPlaced children) :
    (Node.node head children).Every (Headed Head.Placed) :=
  .intro _ (placed_of_not_directive other) inside

theorem isSome_span?_of_placed {n : Node} (placed : n.Headed Head.Placed)
    (directive : n.isDirective = true) : n.span?.isSome = true := by
  rcases n with _ | ⟨⟨content, span?, diagnostics, label?⟩, children⟩
  · cases directive
  · cases content with
    | directive name descriptor? => exact placed name descriptor? rfl
    | _ => cases directive

end Node

open Node

namespace Document

def Placed (d : Document) : Prop := AllPlaced d.children

variable {d : Document}

theorem Placed.changeFirst (placed : d.Placed) {p : Node → Bool} {f : Node → Node}
    (changed : ∀ n, n.Every (Headed Head.Placed) → (f n).Every (Headed Head.Placed)) :
    (d.changeFirst p f).Placed := by
  rcases d.changeFirst_cases p f with ⟨-, same⟩ | ⟨n, fill, first, before, after⟩
  · rw [same]
    exact placed
  · have every : EveryIn (Headed Head.Placed) (fill n) := before ▸ placed
    rw [after]
    exact first.every (fun _ _ _ => headed_ofHead _ _) every (changed n (first.every_self every))

theorem Placed.changeClass (placed : d.Placed)
    {f : ClassShape → List Node → ClassShape × List Node}
    (members : ∀ shape members, AllPlaced members → AllPlaced (f shape members).2) :
    (d.changeClass f).Placed := by
  refine placed.changeFirst fun n every => ?_
  rcases n with _ | ⟨⟨content, span?, diagnostics, label?⟩, children⟩
  · exact every
  · cases content with
    | classDecl shape => exact every_placed rfl (members shape children every.inside)
    | _ => exact every

theorem Placed.changeClassShape (placed : d.Placed) (f : ClassShape → ClassShape) :
    (d.changeClassShape f).Placed := placed.changeClass fun _ _ inside => inside

theorem Placed.changeNamespace (placed : d.Placed) {f : Text → List Node → Text × List Node}
    (members : ∀ name members, AllPlaced members → AllPlaced (f name members).2) :
    (d.changeNamespace f).Placed := by
  refine placed.changeFirst fun n every => ?_
  rcases n with _ | ⟨⟨content, span?, diagnostics, label?⟩, children⟩
  · exact every
  · cases content with
    | namespaceDecl name isPrimary => exact every_placed rfl (members name children every.inside)
    | _ => exact every

end Document

end IR

open IR IR.Node

/-! ## Lowering -/

namespace Lowering

mutual

theorem node_placed (features : LanguageFeatures) :
    ∀ (seen : List Text) (n : Syntax.Node), AllPlaced (node features seen n).1
  | _, .text _ text => allPlaced_of_silent (markup_silent text)
  | _, .transition _ => allPlaced_of_silent (markup_silent "@")
  | _, .markupComment _ text => allPlaced_of_silent (markup_silent ("<!--" ++ text ++ "-->"))
  | _, .comment .. => EveryIn.nil
  | _, .expression span code _ =>
    allPlaced_of_silent (EveryIn.single (expression_silent span code))
  | _, .codeBlock _ code _ =>
    .single (every_placed rfl (allPlaced_of_silent (.single (every_silent_codeToken code))))
  | seen, .directive span head body => by
    have tokens : AllPlaced (tokens head) := allPlaced_of_silent (tokens_silent head)
    have directive : ∀ block, AllPlaced block → AllPlaced [directive span head block] :=
      fun block inside => .single (.intro _ (fun _ _ _ => rfl) (tokens.append inside))
    have block := nodes_placed features seen body
    unfold node
    split
    · exact .single (every_placed rfl tokens)
    split
    · exact allPlaced_of_silent (importNamespace_silent seen head)
    split
    · exact directive _ block
    · exact directive _ (.single (every_placed rfl (allPlaced_of_silent (.single
        (every_silent_codeToken _)))))
    · exact directive _ .nil
  | seen, .element span tag endTag? body => by
    refine EveryIn.append (EveryIn.append ?_ (nodes_placed features _ body)) ?_
    · exact allPlaced_of_silent (tag_silent features tag)
    · split
      · exact allPlaced_of_silent (markup_silent _)
      · exact EveryIn.nil
  | seen, .helper span head body => by
    refine .single (every_placed rfl (EveryIn.append ?_ ?_))
    · exact .flatMap fun a _ => allPlaced_of_silent (helperAttribute_silent a)
    · split
      · exact .single (every_placed rfl (nodes_placed features _ body))
      · exact EveryIn.nil

theorem nodes_placed (features : LanguageFeatures) :
    ∀ (seen : List Text) (ns : List Syntax.Node), AllPlaced (nodes features seen ns).1
  | _, [] => EveryIn.nil
  | seen, n :: ns => (node_placed features seen n).append (nodes_placed features _ ns)

end

theorem document_placed (tree : Syntax.Tree) (imports : List Syntax.Tree) :
    (document tree imports).Placed :=
  (nodes_placed _ _ _).append (nodes_placed _ _ _)

end Lowering

/-! ## Classifying -/

namespace Classifier

section Every

variable {Q : Node → Prop}

/-- What all nodes that an outline holds have. -/
structure Outline.Every (Q : Node → Prop) (o : Outline) : Prop where
  imports : EveryIn Q o.imports
  body : EveryIn Q o.body

/-- What nodes have that are no directives.  A property of this kind is kept by whatever classifying
adds to a document. -/
def OfOthers (Q : Node → Prop) : Prop :=
  ∀ {head : Head} {children : List Node}, (Node.node head children).isDirective = false →
    Q (.node head children)

theorem Outline.every_toNode (ofOthers : OfOthers Q) {o : Outline} (every : o.Every Q) :
    EveryIn Q [o.toNode] :=
  .single (.intro _ (ofOthers rfl) (every.imports.append
    (.single (.intro _ (ofOthers rfl) (EveryIn.single (.intro _ (ofOthers rfl) every.body))))))

theorem component_every (ofOthers : OfOthers Q) (doc : CodeDocument) {o : Outline}
    (every : o.Every Q) : (component.shape doc o).Every Q := by
  refine ⟨every.imports.append (.map fun _ _ => .intro _ (ofOthers rfl) EveryIn.nil), ?_⟩
  dsimp only [component]
  split
  · exact every.body.filter _
  · exact every.body

/-- Classifying makes no directives. -/
theorem classified_every (ofOthers : OfOthers Q) (components : Bool) (doc : CodeDocument)
    {d : Document} (every : EveryIn Q d.children) :
    EveryIn Q ((ProjectEngine.ruleOf components doc d).classified doc d).children := by
  have initial : (Outline.initial d).Every Q := ⟨every.filter _, every.filter _⟩
  refine Outline.every_toNode ofOthers ?_
  unfold ProjectEngine.ruleOf
  split
  · exact component_every ofOthers doc initial
  split
  · split
    · exact ⟨initial.imports, initial.body⟩
    · exact ⟨initial.imports, initial.body⟩
  · exact initial

end Every

theorem classified_placed (components : Bool) (doc : CodeDocument) {d : Document}
    (placed : d.Placed) :
    ((ProjectEngine.ruleOf components doc d).classified doc d).Placed :=
  classified_every placed_of_not_directive components doc placed

end Classifier

/-! ## Directives -/

namespace Dialect

/-- A section is no directive. -/
theorem defines_placed : Defines (Headed Head.Placed) := by
  intro n _ children name descriptor? same
  cases same

variable {d : Document}

theorem applyMembers_placed (definitions : List DirectiveDescriptor) (placed : d.Placed) :
    (applyMembers definitions d).Placed := by
  unfold applyMembers
  dsimp only
  split
  · exact placed
  · have taken : Document.Placed { d with children := withoutBlocksIn (fun n =>
        definitions.any fun e => n.isDirectiveOf e) false d.children } :=
      withoutBlocksIn_every (fun _ _ => headed_ofHead _ _) _ placed
    have blocks : AllPlaced ((d.nodes.filter fun n => definitions.any fun e =>
        n.isDirectiveOf e).flatMap Node.block) := blocks_every placed _
    exact taken.changeClass fun _ _ inside =>
      inside.append (withoutBlocksIn_every (fun _ _ => headed_ofHead _ _) _ blocks)

theorem applySections_placed (placed : d.Placed) : (applySections d).Placed :=
  defineSectionsIn_every (fun _ _ => headed_ofHead _ _) (fun _ _ _ => headed_ofHead _ _)
    defines_placed [] placed

theorem addModelAlias_placed (placed : d.Placed) : (addModelAlias d).Placed := by
  refine placed.changeNamespace fun _ _ inside => ?_
  dsimp only
  split
  · exact inside
  · exact .cons (every_placed rfl .nil) inside

theorem kept_placed : Kept Document.Placed where
  report _ placed := placed
  header _ placed := placed
  classShape f placed := placed.changeClassShape f
  namespaceName _ placed := placed.changeNamespace fun _ _ inside => inside
  modelAlias := addModelAlias_placed
  members definitions := applyMembers_placed definitions
  sections := applySections_placed

end Dialect

end TemplateCompiler
