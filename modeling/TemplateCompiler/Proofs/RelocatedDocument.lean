import TemplateCompiler.IR.Walk
import TemplateCompiler.Proofs.RelocatedLowering

/-!
# Walking and changing relocated documents

What a walk through a document finds relocates with the document: the nodes and their tokens, the
primary declarations, the findings.  The texts and the kinds of nodes stay as they are.  A change of
one node relocates if the change of the node does.
-/

namespace TemplateCompiler

namespace IR

variable (r : Relocation)

namespace Node

/-! ## Tests -/

section Tests

variable (n : Node)

@[simp]
theorem isToken_relocate : (n.relocate r).isToken = n.isToken := by
  rcases n with _ | ⟨⟨content, span?, diagnostics, label?⟩, children⟩
  · rfl
  · cases content <;> rfl

@[simp]
theorem isDirective_relocate : (n.relocate r).isDirective = n.isDirective := by
  rcases n with _ | ⟨⟨content, span?, diagnostics, label?⟩, children⟩
  · rfl
  · cases content <;> rfl

@[simp]
theorem isDirectiveOf_relocate (d : DirectiveDescriptor) :
    (n.relocate r).isDirectiveOf d = n.isDirectiveOf d := by
  rcases n with _ | ⟨⟨content, span?, diagnostics, label?⟩, children⟩
  · rfl
  · cases content with
    | directive name descriptor? => cases descriptor? <;> rfl
    | _ => rfl

@[simp]
theorem isPrimaryClass_relocate : (n.relocate r).isPrimaryClass = n.isPrimaryClass := by
  rcases n with _ | ⟨⟨content, span?, diagnostics, label?⟩, children⟩
  · rfl
  · cases content <;> rfl

@[simp]
theorem isPrimaryNamespace_relocate :
    (n.relocate r).isPrimaryNamespace = n.isPrimaryNamespace := by
  rcases n with _ | ⟨⟨content, span?, diagnostics, label?⟩, children⟩
  · rfl
  · cases content <;> rfl

@[simp]
theorem isPrimaryMethod_relocate : (n.relocate r).isPrimaryMethod = n.isPrimaryMethod := by
  rcases n with _ | ⟨⟨content, span?, diagnostics, label?⟩, children⟩
  · rfl
  · cases content <;> rfl

@[simp]
theorem tokenText_relocate : (n.relocate r).tokenText = n.tokenText := by
  rcases n with _ | ⟨⟨content, span?, diagnostics, label?⟩, children⟩
  · rfl
  · cases content <;> rfl

@[simp]
theorem children_relocate : (n.relocate r).children = n.children.map (relocate r) := by
  cases n with
  | absent => rfl
  | node head children => rw [relocate_node, Node.children, Node.children]

@[simp]
theorem span?_relocate : (n.relocate r).span? = n.span?.map r.span := by
  cases n <;> rfl

@[simp]
theorem diagnostics_relocate : (n.relocate r).diagnostics = n.diagnostics.map r.finding := by
  cases n <;> rfl

end Tests

/-! ## Walks -/

mutual

@[simp]
theorem preorder_relocate (n : Node) :
    (n.relocate r).preorder = n.preorder.map (relocate r) := by
  cases n with
  | absent => rfl
  | node head children =>
    rw [relocate_node, preorder, preorder, preorderAll_relocate children, List.map_cons,
      relocate_node]

@[simp]
theorem preorderAll_relocate (ns : List Node) :
    preorderAll (ns.map (relocate r)) = (preorderAll ns).map (relocate r) := by
  cases ns with
  | nil => rfl
  | cons n ns =>
    rw [List.map_cons, preorderAll, preorderAll, preorder_relocate n, preorderAll_relocate ns,
      List.map_append]

end

section Found

variable (n : Node)

@[simp]
theorem text_relocate : (n.relocate r).text = n.text := by
  rw [text, text, preorder_relocate, List.flatMap_map]
  simp only [tokenText_relocate]

theorem allDiagnostics_relocate :
    (n.relocate r).allDiagnostics = n.allDiagnostics.map r.finding := by
  rw [allDiagnostics, allDiagnostics, preorder_relocate, List.flatMap_map, List.map_flatMap]
  simp only [diagnostics_relocate]

def relocateToken (t : Text × Option Span) : Text × Option Span := (t.1, t.2.map r.span)

@[simp]
theorem tokens_relocate : (n.relocate r).tokens = n.tokens.map (relocateToken r) := by
  rw [tokens, tokens, children_relocate, List.filterMap_map, List.map_filterMap]
  refine List.filterMap_congr fun c _ => ?_
  rcases c with _ | ⟨⟨content, span?, diagnostics, label?⟩, children⟩
  · rfl
  · cases content <;> rfl

@[simp]
theorem firstToken?_relocate :
    (n.relocate r).firstToken? = n.firstToken?.map (relocateToken r) := by
  rw [firstToken?, firstToken?, tokens_relocate, List.head?_map]

@[simp]
theorem block_relocate : (n.relocate r).block = n.block.map (relocate r) := by
  rw [block, block, children_relocate, List.filter_map]
  simp only [Function.comp_def, isToken_relocate]

end Found

/-- The texts of tokens do not depend on places. -/
theorem map_fst_relocateToken (ts : List (Text × Option Span)) :
    (ts.map (relocateToken r)).map Prod.fst = ts.map Prod.fst := by
  rw [List.map_map]
  rfl

/-! ## Changing one node -/

section Changing

variable {r} {p : Node → Bool} {f g : Node → Node}

mutual

theorem changeFirst?_relocate (test : ∀ n : Node, p (n.relocate r) = p n)
    (change : ∀ n : Node, g (n.relocate r) = (f n).relocate r) (n : Node) :
    changeFirst? p g (n.relocate r) = (changeFirst? p f n).map (relocate r) := by
  have same := test n
  have changed := change n
  cases n with
  | absent =>
    rw [relocate_absent] at same changed
    rw [relocate_absent, changeFirst?, changeFirst?, changed, apply_ite (Option.map _)]
    rfl
  | node head children =>
    have inside := changeFirstIn?_relocate test change children
    rw [relocate_node] at same changed
    rw [relocate_node, changeFirst?, changeFirst?, same, changed, inside,
      apply_ite (Option.map _), Option.map_map, Option.map_map, Option.map_some]
    simp only [Function.comp_def, relocate_node]

theorem changeFirstIn?_relocate (test : ∀ n : Node, p (n.relocate r) = p n)
    (change : ∀ n : Node, g (n.relocate r) = (f n).relocate r) (ns : List Node) :
    changeFirstIn? p g (ns.map (relocate r)) =
      (changeFirstIn? p f ns).map (List.map (relocate r)) := by
  cases ns with
  | nil => rfl
  | cons n ns =>
    rw [List.map_cons, changeFirstIn?, changeFirstIn?, changeFirst?_relocate test change n,
      changeFirstIn?_relocate test change ns]
    cases changeFirst? p f n with
    | some m => rfl
    | none => cases changeFirstIn? p f ns <;> rfl

end

mutual

/-- The first node that satisfies a test has the same place in a relocated tree. -/
theorem place?_relocate {q : Node → Bool} (test : ∀ n : Node, q (n.relocate r) = p n) (n : Node) :
    place? q (n.relocate r) = place? p n := by
  have here := test n
  cases n with
  | absent =>
    rw [relocate_absent] at here
    rw [relocate_absent, place?, place?, here]
  | node head children =>
    rw [relocate_node] at here
    rw [relocate_node, place?, place?, here, placeIn?_relocate test 0 children]

theorem placeIn?_relocate {q : Node → Bool} (test : ∀ n : Node, q (n.relocate r) = p n)
    (position : Nat) (ns : List Node) :
    placeIn? q position (ns.map (relocate r)) = placeIn? p position ns := by
  cases ns with
  | nil => rfl
  | cons n ns =>
    rw [List.map_cons, placeIn?, placeIn?, place?_relocate test n, placeIn?_relocate test _ ns]

end

end Changing

end Node

/-! ## Documents -/

namespace Document

variable (d : Document)

@[simp]
theorem header_relocate : (d.relocate r).header = d.header := rfl

@[simp]
theorem children_relocate : (d.relocate r).children = d.children.map (Node.relocate r) := rfl

@[simp]
theorem nodes_relocate : (d.relocate r).nodes = d.nodes.map (Node.relocate r) :=
  Node.preorderAll_relocate r d.children

theorem toNode_relocate : (d.relocate r).toNode = d.toNode.relocate r := by
  rw [toNode, toNode, Node.relocate_node]
  rfl

theorem allDiagnostics_relocate :
    (d.relocate r).allDiagnostics = d.allDiagnostics.map r.finding := by
  rw [allDiagnostics, allDiagnostics, toNode_relocate, Node.allDiagnostics_relocate]

theorem report_relocate (found : List Diagnostic) :
    (d.relocate r).report (found.map r.finding) = (d.report found).relocate r := by
  simp only [relocate, report, List.map_append]

@[simp]
theorem directivesOf_relocate (e : DirectiveDescriptor) :
    (d.relocate r).directivesOf e = (d.directivesOf e).map (Node.relocate r) := by
  rw [directivesOf, directivesOf, nodes_relocate, List.filter_map]
  simp only [Function.comp_def, Node.isDirectiveOf_relocate]

@[simp]
theorem firstTokensOf_relocate (e : DirectiveDescriptor) :
    (d.relocate r).firstTokensOf e = (d.firstTokensOf e).map (Node.relocateToken r) := by
  rw [firstTokensOf, firstTokensOf, directivesOf_relocate, List.filterMap_map, List.map_filterMap]
  simp only [Function.comp_def, Node.firstToken?_relocate]

@[simp]
theorem primaryClass?_relocate :
    (d.relocate r).primaryClass? =
      d.primaryClass?.map fun c => (c.1.relocate r, c.2.map (Node.relocate r)) := by
  rw [primaryClass?, primaryClass?, nodes_relocate, List.findSome?_map, List.map_findSome?]
  congr 1
  funext n
  rcases n with _ | ⟨⟨content, span?, diagnostics, label?⟩, children⟩
  · rfl
  · cases content with
    | classDecl shape =>
      rw [Function.comp_apply, Node.relocate_node]
      change (if shape.isPrimary then _ else _) = Option.map _ (if shape.isPrimary then _ else _)
      split <;> rfl
    | _ => rfl

@[simp]
theorem primaryMethod?_relocate :
    (d.relocate r).primaryMethod? =
      d.primaryMethod?.map fun m => (m.1, m.2.map (Node.relocate r)) := by
  rw [primaryMethod?, primaryMethod?, nodes_relocate, List.findSome?_map, List.map_findSome?]
  congr 1
  funext n
  rcases n with _ | ⟨⟨content, span?, diagnostics, label?⟩, children⟩
  · rfl
  · cases content with
    | methodDecl shape =>
      rw [Function.comp_apply, Node.relocate_node]
      change (if shape.isPrimary then _ else _) = Option.map _ (if shape.isPrimary then _ else _)
      split <;> rfl
    | _ => rfl

variable {r}

theorem changeFirst_relocate {p : Node → Bool} {f g : Node → Node}
    (test : ∀ n : Node, p (n.relocate r) = p n)
    (change : ∀ n : Node, g (n.relocate r) = (f n).relocate r) :
    (d.relocate r).changeFirst p g = (d.changeFirst p f).relocate r := by
  rw [changeFirst, changeFirst, children_relocate, Node.changeFirstIn?_relocate test change]
  cases Node.changeFirstIn? p f d.children <;> rfl

theorem changeClass_relocate {f g : ClassShape → List Node → ClassShape × List Node}
    (change : ∀ c members, g (c.relocate r) (members.map (Node.relocate r)) =
      ((f c members).1.relocate r, (f c members).2.map (Node.relocate r))) :
    (d.relocate r).changeClass g = (d.changeClass f).relocate r := by
  refine changeFirst_relocate d (Node.isPrimaryClass_relocate r) fun n => ?_
  rcases n with _ | ⟨⟨content, span?, diagnostics, label?⟩, children⟩
  · rfl
  · rw [Node.relocate_node]
    cases content with
    | classDecl shape =>
      simp only [Head.relocate, Content.relocate, change, Node.relocate_node]
    | _ => exact (Node.relocate_node r _ _).symm

theorem changeClassShape_relocate {f g : ClassShape → ClassShape}
    (change : ∀ c, g (c.relocate r) = (f c).relocate r) :
    (d.relocate r).changeClassShape g = (d.changeClassShape f).relocate r :=
  changeClass_relocate d fun c members => congrArg (·, members.map (Node.relocate r)) (change c)

theorem changeNamespace_relocate {f g : Text → List Node → Text × List Node}
    (change : ∀ name members, g name (members.map (Node.relocate r)) =
      ((f name members).1, (f name members).2.map (Node.relocate r))) :
    (d.relocate r).changeNamespace g = (d.changeNamespace f).relocate r := by
  refine changeFirst_relocate d (Node.isPrimaryNamespace_relocate r) fun n => ?_
  rcases n with _ | ⟨⟨content, span?, diagnostics, label?⟩, children⟩
  · rfl
  · rw [Node.relocate_node]
    cases content with
    | namespaceDecl name isPrimary =>
      simp only [Head.relocate, Content.relocate, change, Node.relocate_node]
    | _ => exact (Node.relocate_node r _ _).symm

theorem changeMethod_relocate {f g : Head → MethodShape → List Node → Node}
    (change : ∀ head m body, g (head.relocate r) m (body.map (Node.relocate r)) =
      (f head m body).relocate r) :
    (d.relocate r).changeMethod g = (d.changeMethod f).relocate r := by
  refine changeFirst_relocate d (Node.isPrimaryMethod_relocate r) fun n => ?_
  rcases n with _ | ⟨⟨content, span?, diagnostics, label?⟩, children⟩
  · rfl
  · rw [Node.relocate_node]
    cases content with
    | methodDecl shape => exact change _ shape children
    | _ => exact (Node.relocate_node r _ _).symm

end Document

end IR

end TemplateCompiler
