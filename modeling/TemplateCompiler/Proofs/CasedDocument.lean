import TemplateCompiler.Pipeline.Classifier
import TemplateCompiler.Proofs.BindingReports
import TemplateCompiler.Proofs.RebuiltNodes

/-!
# Documents in their declarations

A classified document is one namespace with one class and one method, and the content of the
template is the body of the method.  What stands around the body is silent, so the passes that
follow change the body as if it were alone, and the declarations as if they were empty.  The
findings that they add to the document are not about directives.
-/

namespace TemplateCompiler

namespace IR

open Node Diagnostic

/-- What stands around the body of a classified document: a namespace, a class in it and a method in
that, each with what is beside it. -/
structure Casing where
  namespaceName : Text
  imports : List Node
  classShape : ClassShape
  front : List Node
  methodShape : MethodShape
  back : List Node
  primary : classShape.isPrimary = true
  imports_silent : AllSilent imports
  front_silent : AllSilent front
  back_silent : AllSilent back

namespace Casing

/-- The members of the class of a casing: the method around a body, with what stands beside it.
Directives change the class and what is beside the method, and leave the body where it is. -/
def members (c : Casing) (body : List Node) : List Node :=
  c.front ++ .synthetic (.methodDecl c.methodShape) body :: c.back

def content (c : Casing) (body : List Node) : List Node :=
  c.imports ++ [.synthetic (.classDecl c.classShape) (c.members body)]

def children (c : Casing) (body : List Node) : List Node :=
  [.synthetic (.namespaceDecl c.namespaceName true) (c.content body)]

theorem not_primaryClass {n : Node} (silent : n.Headed Head.Silent) :
    n.isPrimaryClass = false := by
  cases n with
  | absent => rfl
  | node head children =>
    rcases head with ⟨content, span?, diagnostics, label?⟩
    have plain := silent.plain
    cases content <;> first | rfl | cases plain

/-- The first primary class is the one of the casing. -/
theorem changeFirstIn?_class (c : Casing) (body : List Node) (f : Node → Node) :
    changeFirstIn? isPrimaryClass f (c.children body) =
      some [.synthetic (.namespaceDecl c.namespaceName true)
        (c.imports ++ [f (.synthetic (.classDecl c.classShape) (c.members body))])] := by
  have here : changeFirst? isPrimaryClass f (.synthetic (.classDecl c.classShape)
      (c.members body)) = some (f (.synthetic (.classDecl c.classShape) (c.members body))) :=
    if_pos c.primary
  have inside : changeFirstIn? isPrimaryClass f (c.content body) =
      some (c.imports ++ [f (.synthetic (.classDecl c.classShape) (c.members body))]) := by
    unfold content
    rw [changeFirstIn?_of_every f (fun _ => not_primaryClass) c.imports_silent, changeFirstIn?,
      here]
    rfl
  have around : changeFirst? isPrimaryClass f (.synthetic (.namespaceDecl c.namespaceName true)
      (c.content body)) = (changeFirstIn? isPrimaryClass f (c.content body)).map
        (.synthetic (.namespaceDecl c.namespaceName true)) := rfl
  unfold children
  rw [changeFirstIn?, around, inside]
  rfl

end Casing

namespace Document

/-- A document has a body in its declarations, and the given findings with others that are not
about directives. -/
structure Cased (d : Document) (body : List Node) (found : List Diagnostic) : Prop where
  declared : ∃ c : Casing, d.children = c.children body
  reported : ∃ more, d.diagnostics = found ++ more ∧ AllForeign more

variable {d : Document} {body : List Node} {found : List Diagnostic}

theorem Cased.report (cased : d.Cased body found) {more : List Diagnostic}
    (foreign : AllForeign more) : (d.report more).Cased body found := by
  rcases cased.reported with ⟨others, same, before⟩
  refine ⟨cased.declared, others ++ more, ?_, before.append foreign⟩
  change d.diagnostics ++ more = _
  rw [same, List.append_assoc]

theorem Cased.withHeader (cased : d.Cased body found) (header : DocumentHeader) :
    Cased { d with header } body found := ⟨cased.declared, cased.reported⟩

/-- A change of the class that adds silent members. -/
theorem Cased.changeClass (cased : d.Cased body found)
    {f : ClassShape → List Node → ClassShape × List Node}
    (primary : ∀ shape members, (f shape members).1.isPrimary = shape.isPrimary)
    (adds : ∀ shape members, ∃ front back, AllSilent front ∧ AllSilent back ∧
      (f shape members).2 = front ++ members ++ back) : (d.changeClass f).Cased body found := by
  refine ⟨?_, cased.reported⟩
  rcases cased.declared with ⟨c, same⟩
  rcases adds c.classShape (c.members body) with ⟨front, back, front_silent, back_silent, added⟩
  refine ⟨{ c with
    classShape := (f c.classShape (c.members body)).1
    front := front ++ c.front
    back := c.back ++ back
    primary := (primary _ _).trans c.primary
    front_silent := front_silent.append c.front_silent
    back_silent := c.back_silent.append back_silent }, ?_⟩
  unfold Document.changeClass Document.changeFirst
  rw [same, Casing.changeFirstIn?_class]
  simp [Casing.children, Casing.content, Casing.members, Node.synthetic] at added ⊢
  exact added

theorem Cased.changeClassShape (cased : d.Cased body found) {f : ClassShape → ClassShape}
    (primary : ∀ shape, (f shape).isPrimary = shape.isPrimary) :
    (d.changeClassShape f).Cased body found :=
  cased.changeClass (fun shape _ => primary shape)
    fun _ members => ⟨[], [], EveryIn.nil, EveryIn.nil, (List.append_nil members).symm⟩

/-- A change of the namespace that adds silent imports. -/
theorem Cased.changeNamespace (cased : d.Cased body found)
    {f : Text → List Node → Text × List Node}
    (adds : ∀ name members, ∃ front, AllSilent front ∧ (f name members).2 = front ++ members) :
    (d.changeNamespace f).Cased body found := by
  refine ⟨?_, cased.reported⟩
  rcases cased.declared with ⟨c, same⟩
  rcases adds c.namespaceName (c.content body) with ⟨front, silent, added⟩
  refine ⟨{ c with
    namespaceName := (f c.namespaceName (c.content body)).1
    imports := front ++ c.imports
    imports_silent := silent.append c.imports_silent }, ?_⟩
  have first : ∀ f : Node → Node, changeFirstIn? isPrimaryNamespace f (c.children body) =
      some [f (.synthetic (.namespaceDecl c.namespaceName true) (c.content body))] := fun _ => rfl
  unfold Document.changeNamespace Document.changeFirst
  rw [same, first]
  simp [Casing.children, Casing.content, Casing.members, Node.synthetic] at added ⊢
  exact added

/-- A classified document has a primary class. -/
theorem Cased.primaryClass? (cased : d.Cased body found) : ∃ found, d.primaryClass? = some found := by
  rcases cased.declared with ⟨c, same⟩
  cases none : d.primaryClass? with
  | some found => exact ⟨found, rfl⟩
  | none =>
    unfold Document.primaryClass? at none
    rw [List.findSome?_eq_none_iff] at none
    have member : Node.synthetic (.classDecl c.classShape) (c.members body) ∈ d.nodes := by
      unfold Document.nodes
      rw [same]
      simp [Casing.children, Casing.content, preorderAll, Node.synthetic, preorder,
        preorderAll_append]
    have missing := none _ member
    simp [Node.synthetic, c.primary] at missing

/-- The findings about a classified document are its own and those in the body. -/
theorem Cased.allDiagnostics_eq (cased : d.Cased body found) :
    d.allDiagnostics = d.diagnostics ++ diagnosticsAll body := by
  rcases cased.declared with ⟨c, same⟩
  have whole : d.allDiagnostics = d.diagnostics ++ diagnosticsAll d.children := rfl
  rw [whole, same]
  simp [Casing.children, Casing.content, Casing.members, Node.synthetic, diagnosticsAll_cons,
    diagnosticsAll_append, diagnosticsAll_of_silent c.imports_silent,
    diagnosticsAll_of_silent c.front_silent, diagnosticsAll_of_silent c.back_silent]

end Document

end IR

open IR IR.Node Diagnostic

namespace Dialect

/-! ## Tame bodies -/

/-- Whether a node is a directive with members for the class. -/
def isMember (definitions : List DirectiveDescriptor) (n : Node) : Bool :=
  definitions.any fun e => n.isDirectiveOf e

/-- Nothing was found about a well-formed directive, and the members in a directive are silent. -/
structure Tame (definitions : List DirectiveDescriptor) (n : Node) : Prop where
  muted : n.isDirective = true → n.diagnostics = []
  members : isMember definitions n = true → AllSilent n.children

section Tame

variable {definitions : List DirectiveDescriptor}

theorem isDirective_of_isMember (n : Node) (member : isMember definitions n = true) :
    n.isDirective = true := by
  rcases List.any_eq_true.mp member with ⟨e, -, same⟩
  exact isDirective_of_isDirectiveOf same

theorem isMember_congr (head : Head) (children others : List Node) :
    isMember definitions (.node head children) = isMember definitions (.node head others) := by
  unfold isMember
  congr 1
  funext e
  rcases head with ⟨content, span?, diagnostics, label?⟩
  cases content with
  | directive name descriptor? => cases descriptor? <;> rfl
  | _ => rfl

theorem isDirective_congr (head : Head) (children others : List Node) :
    (Node.node head children).isDirective = (Node.node head others).isDirective := by
  rcases head with ⟨content, span?, diagnostics, label?⟩
  cases content <;> rfl

/-- A tame node with other children, which are silent if those before them were. -/
theorem Tame.withChildren {head : Head} {children others : List Node}
    (tame : Tame definitions (.node head children))
    (kept : AllSilent children → AllSilent others) : Tame definitions (.node head others) := by
  constructor
  · intro directive
    rw [isDirective_congr head others children] at directive
    exact tame.muted directive
  · intro member
    rw [isMember_congr head others children] at member
    exact kept (tame.members member)

theorem tame_of_silent {ns : List Node} (silent : AllSilent ns) :
    EveryIn (Tame definitions) ns := by
  intro n member
  have each : ∀ {m : Node}, m.Every (Headed Head.Silent) → m.Every (Tame definitions) := by
    intro m every
    induction every with
    | intro m self inside ih =>
      have none := isDirective_of_silent self
      refine .intro m ⟨?_, fun _ => inside⟩ ih
      intro directive
      rw [none] at directive
      cases directive
  exact each (silent n member)

theorem tame_withoutBlocks {p : Node → Bool} (directives : ∀ n, p n = true → n.isDirective = true) :
    Rebuilds (Tame definitions) (withoutBlocks p) := fun _ _ tame =>
  tame.withChildren (withoutBlocksIn_silent directives _)

theorem tame_withoutSections : Rebuilds (Tame definitions) withoutSections := by
  intro head children tame
  apply tame.withChildren
  intro silent
  rw [withoutSectionsIn_of_silent silent]
  exact silent

theorem tame_keptAround : KeptAround (Tame definitions) := by
  intro names head children tame
  apply tame.withChildren
  intro silent
  rw [defineSectionsIn_of_silent names silent]
  exact silent

theorem defines_tame : Defines (Tame definitions) := by
  intro n _ children
  constructor
  · intro directive
    cases directive
  · intro member
    cases isDirective_of_isMember _ member

theorem defineSectionsIn_tame (names : List Text) {ns : List Node}
    (tame : EveryIn (Tame definitions) ns) :
    EveryIn (Tame definitions) (defineSectionsIn names ns).1 :=
  defineSectionsIn_every tame_withoutSections tame_keptAround defines_tame names tame

end Tame

/-! ## Passes on a cased document -/

section Passes

variable {d : Document} {body : List Node} {found : List Diagnostic}

theorem applyInherits_cased (cased : d.Cased body found) :
    (applyInherits d).Cased body found := by
  unfold applyInherits
  split
  · exact cased
  · exact cased.changeClassShape fun _ => rfl

theorem applyLayout_cased (cased : d.Cased body found) : (applyLayout d).Cased body found := by
  unfold applyLayout
  split
  · exact cased
  · exact cased.changeClassShape fun _ => rfl

theorem applyNamespace_cased (cased : d.Cased body found) :
    (applyNamespace d).Cased body found := by
  unfold applyNamespace
  split
  · exact cased
  · exact cased.changeNamespace fun _ _ => ⟨[], EveryIn.nil, rfl⟩

theorem applyPage_cased (file? : Option Nat) (cased : d.Cased body found) :
    (applyPage file? d).Cased body found := by
  unfold applyPage
  split
  · exact cased
  split
  · exact cased
  · next page _ =>
    have checked : Document.Cased (if (beforePage d file?).any isContent then
        d.report [.error .pageMisplaced (spanOf page)
          "the @page directive must precede all other elements defined in a template"]
        else d) body found := by
      split
      · exact cased.report (.error (by decide) _ _)
      · exact cased
    dsimp only
    split
    · exact checked
    · exact checked.changeClassShape fun _ => rfl

theorem applyModel_cased (cased : d.Cased body found) : (applyModel d).Cased body found := by
  unfold applyModel
  split
  · exact cased
  · dsimp only
    refine Document.Cased.changeClassShape ?_ ?_
    · split
      · refine (cased.withHeader _).changeNamespace fun name members => ?_
        dsimp only
        split
        · exact ⟨[], EveryIn.nil, rfl⟩
        · exact ⟨[modelAlias], EveryIn.single (every_silent rfl .nil), rfl⟩
      · exact cased.withHeader _
    · intro shape
      split <;> rfl

theorem declareHelpers_cased (cased : d.Cased body found) :
    d.declareHelpers.Cased body found :=
  cased.changeClass (fun _ _ => rfl)
    fun _ _ => ⟨_, [], helperFields_every fun _ _ => every_silent rfl .nil, EveryIn.nil,
      (List.append_nil _).symm⟩

/-- Taking blocks out of directives concerns the body only. -/
theorem withoutBlocksIn_children {p : Node → Bool}
    (directives : ∀ n, p n = true → n.isDirective = true) (c : Casing) (body : List Node) :
    withoutBlocksIn p false (c.children body) = c.children (withoutBlocksIn p false body) := by
  have declaration : ∀ content children, (Node.synthetic content children).isDirective = false →
      withoutBlocks p (.synthetic content children) =
        .synthetic content (withoutBlocksIn p false children) := by
    intro content children plain
    have unblocked : p (.synthetic content children) = false := by
      cases member : p (.synthetic content children) with
      | false => rfl
      | true => exact absurd (directives _ member) (by rw [plain]; exact Bool.false_ne_true)
    unfold Node.synthetic at unblocked ⊢
    rw [withoutBlocks, unblocked]
  have inNamespace := fun children =>
    declaration (.namespaceDecl c.namespaceName true) children rfl
  have inClass := fun children => declaration (.classDecl c.classShape) children rfl
  have inMethod := fun children => declaration (.methodDecl c.methodShape) children rfl
  simp [Casing.children, Casing.content, Casing.members, withoutBlocksIn, withoutBlocksIn_append,
    inNamespace, inClass, inMethod, withoutBlocksIn_of_silent directives c.imports_silent,
    withoutBlocksIn_of_silent directives c.front_silent,
    withoutBlocksIn_of_silent directives c.back_silent]

/-- A directive of a cased document is in the body. -/
theorem mem_body_of_isDirective (c : Casing) {n : Node}
    (member : n ∈ preorderAll (c.children body)) (directive : n.isDirective = true) :
    n ∈ preorderAll body := by
  have loud : ∀ {ns : List Node}, AllSilent ns → n ∈ preorderAll ns → n ∈ preorderAll body := by
    intro ns silent among
    have none := isDirective_of_silent (Every.of_mem_preorderAll silent n among).self
    rw [directive] at none
    cases none
  simp only [Casing.children, Casing.content, Casing.members, Node.synthetic, preorderAll,
    preorder, preorderAll_append, List.mem_append, List.mem_cons, List.append_nil] at member
  rcases member with rfl | imports | rfl | front | (rfl | inside) | back
  · cases directive
  · exact loud c.imports_silent imports
  · cases directive
  · exact loud c.front_silent front
  · cases directive
  · exact inside
  · exact loud c.back_silent back

/-- Moving members leaves the body without them. -/
theorem applyMembers_cased {definitions : List DirectiveDescriptor}
    (moved : List DirectiveDescriptor) (subset : ∀ e ∈ moved, e ∈ definitions)
    (cased : d.Cased body found)
    (tame : EveryIn (Tame definitions) body) :
    (applyMembers moved d).Cased (withoutBlocksIn (isMember moved) false body) found := by
  have blocks : AllSilent ((d.nodes.filter (isMember moved)).flatMap Node.block) := by
    refine EveryIn.flatMap fun n among => ?_
    rcases List.mem_filter.mp among with ⟨member, isMember'⟩
    rcases cased.declared with ⟨c, same⟩
    unfold Document.nodes at member
    rw [same] at member
    have inBody := mem_body_of_isDirective c member (isDirective_of_isMember n isMember')
    have known : isMember definitions n = true := by
      rcases List.any_eq_true.mp isMember' with ⟨e, among, fits⟩
      exact List.any_eq_true.mpr ⟨e, subset e among, fits⟩
    have silent := (Every.of_mem_preorderAll tame n inBody).self.members known
    exact EveryIn.filter silent _
  have taken : Document.Cased { d with children := withoutBlocksIn (isMember moved) false d.children }
      (withoutBlocksIn (isMember moved) false body) found := by
    rcases cased.declared with ⟨c, same⟩
    refine ⟨⟨c, ?_⟩, cased.reported⟩
    rw [← withoutBlocksIn_children isDirective_of_isMember c body, ← same]
  rcases cased.primaryClass? with ⟨declared, same⟩
  unfold applyMembers
  dsimp only
  rw [same]
  refine taken.changeClass (fun _ _ => rfl) fun shape members => ?_
  exact ⟨[], _, EveryIn.nil, withoutBlocksIn_silent isDirective_of_isMember false blocks, rfl⟩

/-- Defining sections concerns the body only. -/
theorem defineSectionsIn_children (names : List Text) (c : Casing) (body : List Node) :
    (defineSectionsIn names (c.children body)).1 =
      c.children (defineSectionsIn names body).1 := by
  have declaration : ∀ content children, isSection (Node.synthetic content children) = false →
      ∀ names, defineSections names (.synthetic content children) =
        ([.synthetic content (defineSectionsIn names children).1],
          (defineSectionsIn names children).2) := by
    intro content children plain names
    unfold Node.synthetic at plain ⊢
    rw [defineSections]
    dsimp only
    rw [plain, if_neg Bool.false_ne_true]
  have inNamespace := fun children =>
    declaration (.namespaceDecl c.namespaceName true) children rfl
  have inClass := fun children => declaration (.classDecl c.classShape) children rfl
  have inMethod := fun children => declaration (.methodDecl c.methodShape) children rfl
  simp [Casing.children, Casing.content, Casing.members, defineSectionsIn, defineSectionsIn_append,
    inNamespace, inClass, inMethod, defineSectionsIn_of_silent _ c.imports_silent,
    defineSectionsIn_of_silent _ c.front_silent, defineSectionsIn_of_silent _ c.back_silent]

mutual

theorem duplicate_foreign :
    ∀ (names : List Text) (n : Node), AllForeign (defineSections names n).2.2
  | _, .absent => .nil
  | names, .node head children => by
    unfold defineSections
    dsimp only
    split
    · split
      · exact .error (by decide) _ _
      · exact .nil
    · exact duplicates_foreign names children

theorem duplicates_foreign :
    ∀ (names : List Text) (ns : List Node), AllForeign (defineSectionsIn names ns).2.2
  | _, [] => .nil
  | names, n :: ns => (duplicate_foreign names n).append (duplicates_foreign _ ns)

end

theorem applySections_cased (cased : d.Cased body found) :
    (applySections d).Cased (defineSectionsIn [] body).1 found := by
  have foreign : AllForeign ((outerSectionsIn d.children).flatMap nestedFindings
      ++ (defineSectionsIn [] d.children).2.2) := by
    refine AllForeign.append (.flatMap fun n _ => .map fun m _ => ?_) (duplicates_foreign _ _)
    change DiagnosticCode.nestedSection ∉ DiagnosticCode.ofDirective
    decide
  have reported := cased.report foreign
  rcases cased.declared with ⟨c, same⟩
  refine ⟨⟨c, ?_⟩, reported.reported⟩
  rw [← defineSectionsIn_children, ← same]
  rfl

mutual

/-- Directives are removed with and without their blocks. -/
theorem dropDirectives_withoutBlocks {p : Node → Bool}
    (directives : ∀ n, p n = true → n.isDirective = true) :
    ∀ {n : Node}, n.isDirective = false → dropDirectives (withoutBlocks p n) = dropDirectives n
  | .absent, _ => rfl
  | .node head children, plain => by
    have unblocked : p (.node head children) = false := by
      cases member : p (.node head children) with
      | false => rfl
      | true => exact absurd (directives _ member) (by rw [plain]; exact Bool.false_ne_true)
    rw [withoutBlocks, unblocked, dropDirectives, dropDirectives,
      dropDirectivesAll_withoutBlocksIn directives]

theorem dropDirectivesAll_withoutBlocksIn {p : Node → Bool}
    (directives : ∀ n, p n = true → n.isDirective = true) :
    ∀ (ns : List Node), dropDirectivesAll (withoutBlocksIn p false ns) = dropDirectivesAll ns
  | [] => rfl
  | n :: ns => by
    have same : (withoutBlocks p n).isDirective = n.isDirective := by
      cases n with
      | absent => rfl
      | node head children => exact isDirective_congr head _ _
    have rest := dropDirectivesAll_withoutBlocksIn directives ns
    rw [withoutBlocksIn, Bool.false_and, if_neg Bool.false_ne_true, dropDirectivesAll,
      dropDirectivesAll, same, rest]
    cases directive : n.isDirective with
    | true => rfl
    | false => rw [dropDirectives_withoutBlocks directives directive]

end

/-- Removing directives concerns the body only. -/
theorem dropDirectivesAll_children (c : Casing) (body : List Node) :
    dropDirectivesAll (c.children body) = c.children (dropDirectivesAll body) := by
  simp [Casing.children, Casing.content, Casing.members, Node.synthetic, dropDirectivesAll,
    dropDirectives, dropDirectivesAll_append, Node.isDirective,
    dropDirectivesAll_of_silent c.imports_silent, dropDirectivesAll_of_silent c.front_silent,
    dropDirectivesAll_of_silent c.back_silent]

theorem removeDirectives_cased {definitions : List DirectiveDescriptor}
    (cased : d.Cased body found) (tame : EveryIn (Tame definitions) body) :
    d.removeDirectives.Cased (dropDirectivesAll body) found := by
  rcases cased.declared with ⟨c, same⟩
  have none : (d.nodes.filter Node.isDirective).flatMap Node.diagnostics = [] := by
    rw [List.flatMap_eq_nil_iff]
    intro n among
    rcases List.mem_filter.mp among with ⟨member, directive⟩
    unfold Document.nodes at member
    rw [same] at member
    have inBody := mem_body_of_isDirective c member directive
    exact (Every.of_mem_preorderAll tame n inBody).self.muted directive
  have reported : (d.report []).Cased body found := cased.report .nil
  unfold Document.removeDirectives
  rw [none]
  refine ⟨⟨c, ?_⟩, reported.reported⟩
  rw [← dropDirectivesAll_children, ← same]

end Passes

end Dialect

end TemplateCompiler
