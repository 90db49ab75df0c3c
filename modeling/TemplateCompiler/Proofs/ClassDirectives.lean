import TemplateCompiler.Proofs.RecutPasses

/-!
# Directives that describe the primary class

Five directives say something about the primary class: its base type, its interfaces, its type
parameters, its layout and its attributes.  All of them work alike.  The tokens of the directives
with one definition are collected, and a rule makes them part of the shape of the class.  The
directives stay where they are.

A rule holds in a document if the class is as the directives say.  Applying it makes it hold, and
changes nothing where it holds.  None of the five spoils what one before it has done, so that all of
them hold after all were applied.
-/

namespace TemplateCompiler

namespace IR.Node

/-! ## Another node in the place of the first -/

def tokenOf? : Node → Option (Text × Option Span)
  | node { content := .directiveToken text _, span?, .. } _ => some (text, span?)
  | _ => none

theorem tokenOf?_byHead : ByHead tokenOf? := by
  intro head children others
  rcases head with ⟨content, span?, diagnostics, label?⟩
  cases content <;> rfl

theorem tokens_node (head : Head) (children : List Node) :
    (node head children).tokens = children.filterMap tokenOf? := rfl

theorem tokenOf?_of_not_isToken {n : Node} (other : n.isToken = false) : n.tokenOf? = none := by
  rcases n with - | ⟨⟨content, span?, diagnostics, label?⟩, children⟩
  · rfl
  · cases content with
    | directiveToken => cases other
    | _ => rfl

namespace First

variable {p : Node → Bool} {n m : Node} {fill : Node → List Node} {α : Type}

/-- What the nodes at the top have by their heads. -/
theorem map_congr {g : Node → α} (first : First p n fill) (byHead : ByHead g) (same : g m = g n) :
    (fill m).map g = (fill n).map g := by
  induction first with
  | here fits rest => rw [List.map_cons, List.map_cons, same]
  | behind t none first ih => rw [List.map_cons, List.map_cons, ih]
  | @inside head fill first outer rest ih =>
    rw [List.map_cons, List.map_cons, byHead head (fill m) (fill n)]

theorem filterMap_tokenOf? (first : First p n fill) (same : m.tokenOf? = n.tokenOf?) :
    (fill m).filterMap tokenOf? = (fill n).filterMap tokenOf? := by
  have heads := first.map_congr tokenOf?_byHead same
  simpa [List.filterMap_map] using congrArg (List.filterMap id) heads

/-- What nodes are asked for in pre-order, if neither the nodes around the first one nor what is
inside of it answer differently. -/
theorem flatMap_congr {g : Node → List α} (first : First p n fill)
    (around : ∀ head {inner : Node → List Node}, First p n inner →
      g (node head (inner m)) = g (node head (inner n)))
    (own : m.preorder.flatMap g = n.preorder.flatMap g) :
    (preorderAll (fill m)).flatMap g = (preorderAll (fill n)).flatMap g := by
  induction first with
  | here fits rest => simp only [preorderAll, List.flatMap_append, own]
  | behind t none first ih => simp only [preorderAll, List.flatMap_append, ih]
  | inside head first outer rest ih =>
    simp only [preorderAll, preorder, List.flatMap_append, List.flatMap_cons, around head first, ih]

end First

/-- The tokens of a directive with a definition; nothing for other nodes. -/
def toldBy (definition : DirectiveDescriptor) (n : Node) : List (List (Text × Option Span)) :=
  if n.isDirectiveOf definition then [n.tokens] else []

/-- A question about nodes that depends on their heads and the tokens among their children. -/
def ByTokens {α : Type} (g : Node → α) : Prop :=
  ∀ {head : Head} {children others : List Node},
    children.filterMap tokenOf? = others.filterMap tokenOf? →
      g (node head children) = g (node head others)

theorem toldBy_byTokens (definition : DirectiveDescriptor) : ByTokens (toldBy definition) := by
  intro head children others same
  unfold toldBy
  rw [isDirectiveOf_byHead definition head children others, tokens_node, tokens_node, same]

theorem toldBy_classDecl (definition : DirectiveDescriptor) {head : Head} {shape : ClassShape}
    (content : head.content = .classDecl shape) (members : List Node) :
    toldBy definition (node head members) = [] := by
  rcases head with ⟨_, span?, diagnostics, label?⟩
  cases content
  rfl

end IR.Node

namespace IR.Document

open Node

variable {d : Document}

/-! ## The shape of the primary class -/

def primaryShape? (d : Document) : Option ClassShape := d.primaryClass?.map Prod.fst

/-- What the directives with a definition say: the tokens of each. -/
def told (d : Document) (definition : DirectiveDescriptor) : List (List (Text × Option Span)) :=
  d.nodes.flatMap (toldBy definition)

theorem filterMap_directivesOf {α : Type} (ask : List (Text × Option Span) → Option α)
    (definition : DirectiveDescriptor) :
    (d.directivesOf definition).filterMap (fun n => ask n.tokens)
      = (d.told definition).filterMap ask := by
  unfold directivesOf told
  induction d.nodes with
  | nil => rfl
  | cons n ns ih =>
    rw [List.filter_cons, List.flatMap_cons, List.filterMap_append, ← ih, toldBy]
    split <;> simp [List.filterMap_cons]
    split <;> rfl

/-- The class changes in its place, if there is one. -/
theorem changeClass_cases (d : Document) (f : ClassShape → List Node → ClassShape × List Node) :
    (d.primaryClass? = none ∧ d.changeClass f = d) ∨
      ∃ head shape members fill, First isPrimaryClass (.node head members) fill
        ∧ head.content = .classDecl shape ∧ d.children = fill (.node head members)
        ∧ d.primaryClass? = some (shape, members)
        ∧ d.changeClass f = { d with children := fill (.node
            { head with content := .classDecl (f shape members).1 } (f shape members).2) } := by
  unfold changeClass
  rcases changeFirst_cases d isPrimaryClass _ with ⟨none, same⟩ | ⟨n, fill, first, before, after⟩
  · exact .inl ⟨primaryClass?_eq_none none, same⟩
  · have fits := first.fits
    rcases n with - | ⟨⟨content, span?, diagnostics, label?⟩, members⟩
    · cases fits
    · cases content with
      | classDecl shape =>
        have found := primaryClass?_of_first first rfl (isPrimary_of_first first rfl) before
        exact .inr ⟨_, shape, members, fill, first, rfl, before, found, after⟩
      | _ => cases fits

theorem changeClass_eq_self {f : ClassShape → List Node → ClassShape × List Node}
    (fixed : ∀ shape members, d.primaryClass? = some (shape, members) →
      f shape members = (shape, members)) : d.changeClass f = d := by
  rcases changeClass_cases d f with ⟨-, same⟩ | ⟨head, shape, members, fill, -, content, before,
    found, after⟩
  · exact same
  · rw [after, fixed shape members found, ← content, ← before]

/-- What directives say does not change, if what is added to the class says nothing. -/
theorem told_changeClass {f : ClassShape → List Node → ClassShape × List Node}
    {definition : DirectiveDescriptor}
    (quiet : ∀ shape members, (preorderAll (f shape members).2).flatMap (toldBy definition)
      = (preorderAll members).flatMap (toldBy definition)) :
    (d.changeClass f).told definition = d.told definition := by
  rcases changeClass_cases d f with ⟨-, same⟩ | ⟨head, shape, members, fill, first, content, before,
    -, after⟩
  · rw [same]
  · unfold told nodes
    rw [after, before]
    apply first.flatMap_congr
    · intro outer inner within
      apply toldBy_byTokens
      apply within.filterMap_tokenOf?
      rw [tokenOf?_of_not_isToken rfl, tokenOf?_of_not_isToken]
      rcases head with ⟨_, span?, diagnostics, label?⟩
      cases content
      rfl
    · rw [preorder, preorder, List.flatMap_cons, List.flatMap_cons, quiet,
        toldBy_classDecl definition content, toldBy_classDecl definition rfl]

/-- A change of the class keeps what all nodes have, if the class has it by itself and the nodes
around keep it. -/
theorem everyIn_changeClass {Q : Node → Prop}
    {f : ClassShape → List Node → ClassShape × List Node}
    (around : ∀ {outer : Head} {inner : Node → List Node} {n m : Node},
      First isPrimaryClass n inner → m.isToken = n.isToken →
        Q (.node outer (inner n)) → Q (.node outer (inner m)))
    (own : ∀ {head : Head} {shape : ClassShape} (members : List Node),
      Q (.node { head with content := .classDecl shape } members))
    (members : ∀ shape ns, EveryIn Q ns → EveryIn Q (f shape ns).2)
    (every : EveryIn Q d.children) : EveryIn Q (d.changeClass f).children := by
  rcases changeClass_cases d f with ⟨-, same⟩ | ⟨head, shape, ns, fill, first, content, before, -,
    after⟩
  · rw [same]
    exact every
  · rcases head with ⟨_, span?, diagnostics, label?⟩
    cases content
    rw [before] at every
    rw [after]
    apply first.every
    · exact fun outer inner within => around within rfl
    · exact every
    · exact .intro _ (own _) (members shape ns (first.every_self every).inside)

theorem primaryShape?_changeClass {f : ClassShape → List Node → ClassShape × List Node}
    {change : ClassShape → ClassShape}
    (changes : ∀ shape members, (f shape members).1 = change shape)
    (primary : ∀ shape, (change shape).isPrimary = shape.isPrimary) :
    (d.changeClass f).primaryShape? = d.primaryShape?.map change := by
  unfold primaryShape?
  rcases changeClass_cases d f with ⟨none, same⟩ | ⟨head, shape, members, fill, first, content,
    before, found, after⟩
  · rw [same, none]
    rfl
  · have kept : (f shape members).1.isPrimary = true := by
      rw [changes, primary]
      exact isPrimary_of_first first content
    have changed := primaryClass?_of_first (d := d.changeClass f) first rfl kept
      (congrArg children after)
    rw [changed, found]
    simp [changes]

end IR.Document

namespace Dialect

open IR IR.Node

/-! ## Rules -/

/-- How the directives with a definition change the shape of the primary class.  A second change
does nothing. -/
structure ClassRule where
  definition : DirectiveDescriptor
  step : List (List (Text × Option Span)) → ClassShape → ClassShape
  step_step : ∀ told c, step told (step told c) = step told c
  isPrimary_step : ∀ told c, (step told c).isPrimary = c.isPrimary

namespace ClassRule

variable {r s : ClassRule} {d : Document}

/-- Change the primary class as the directives say. -/
def apply (r : ClassRule) (d : Document) : Document :=
  d.changeClassShape (r.step (d.told r.definition))

/-- The primary class, if there is one, is as the directives say. -/
def Holds (r : ClassRule) (d : Document) : Prop :=
  ∀ c, d.primaryShape? = some c → r.step (d.told r.definition) c = c

theorem told_apply (r : ClassRule) (d : Document) (definition : DirectiveDescriptor) :
    (r.apply d).told definition = d.told definition :=
  Document.told_changeClass fun _ _ => rfl

theorem primaryShape?_apply (r : ClassRule) (d : Document) :
    (r.apply d).primaryShape? = d.primaryShape?.map (r.step (d.told r.definition)) :=
  Document.primaryShape?_changeClass (fun _ _ => rfl) (r.isPrimary_step _)

theorem holds_apply (r : ClassRule) (d : Document) : r.Holds (r.apply d) := by
  intro c found
  rw [primaryShape?_apply] at found
  rcases Option.map_eq_some_iff.mp found with ⟨before, -, rfl⟩
  rw [told_apply, r.step_step]

theorem apply_of_holds (holds : r.Holds d) : r.apply d = d := by
  unfold apply Document.changeClassShape
  apply Document.changeClass_eq_self
  intro shape members found
  rw [holds shape (by simp [Document.primaryShape?, found])]

theorem apply_apply (r : ClassRule) (d : Document) : r.apply (r.apply d) = r.apply d :=
  apply_of_holds (holds_apply r d)

/-- A rule leaves a class as it is that is as another rule wants it, but for what the other one does
not look at. -/
def Spares (s r : ClassRule) : Prop :=
  ∀ told others c, r.step told c = c → r.step told (s.step others c) = s.step others c

theorem Holds.apply (holds : r.Holds d) (spares : s.Spares r) : r.Holds (s.apply d) := by
  intro c found
  rw [primaryShape?_apply] at found
  rcases Option.map_eq_some_iff.mp found with ⟨before, known, rfl⟩
  rw [told_apply]
  exact spares _ _ _ (holds before known)

/-! ## Rules one after another -/

def applyAll (rules : List ClassRule) (d : Document) : Document :=
  rules.foldl (fun d r => r.apply d) d

/-- What each of some rules keeps, all of them keep. -/
theorem applyAll_keeps {P : Document → Prop} {rules : List ClassRule}
    (keeps : ∀ r ∈ rules, ∀ d, P d → P (r.apply d)) (holds : P d) : P (applyAll rules d) := by
  induction rules generalizing d with
  | nil => exact holds
  | cons s rules ih =>
    rw [List.forall_mem_cons] at keeps
    exact ih keeps.2 (keeps.1 d holds)

theorem Holds.applyAll {rules : List ClassRule} (holds : r.Holds d)
    (spares : ∀ s ∈ rules, s.Spares r) : r.Holds (applyAll rules d) :=
  applyAll_keeps (fun s member _ holds => holds.apply (spares s member)) holds

theorem holds_applyAll {rules : List ClassRule} (apart : rules.Pairwise fun r s => s.Spares r)
    (d : Document) : ∀ r ∈ rules, r.Holds (applyAll rules d) := by
  induction rules generalizing d with
  | nil => simp
  | cons r rules ih =>
    rw [List.pairwise_cons] at apart
    rw [List.forall_mem_cons]
    exact ⟨(holds_apply r d).applyAll apart.1, ih apart.2 (r.apply d)⟩

theorem applyAll_of_holds {rules : List ClassRule} (holds : ∀ r ∈ rules, r.Holds d) :
    applyAll rules d = d := by
  induction rules with
  | nil => rfl
  | cons r rules ih =>
    rw [List.forall_mem_cons] at holds
    change applyAll rules (r.apply d) = d
    rw [apply_of_holds holds.1, ih holds.2]

end ClassRule

/-! ## Lists that items are added to -/

/-- Adding an item to a list does nothing where it is known, and otherwise makes it known. -/
structure Collects {α β : Type} (add : List α → β → List α) (known : List α → β → Prop) : Prop where
  idle : ∀ {items x}, known items x → add items x = items
  known_add : ∀ items x, known (add items x) x
  known_of_known : ∀ {items x} y, known items x → known (add items y) x

namespace Collects

variable {α β : Type} {add : List α → β → List α} {known : List α → β → Prop}
  (collects : Collects add known) {items : List α} {xs : List β}

include collects

theorem foldl_eq_self (all : ∀ x ∈ xs, known items x) : xs.foldl add items = items := by
  induction xs with
  | nil => rfl
  | cons x xs ih =>
    rw [List.forall_mem_cons] at all
    rw [List.foldl_cons, collects.idle all.1, ih all.2]

theorem known_foldl {x : β} (before : known items x) : known (xs.foldl add items) x := by
  induction xs generalizing items with
  | nil => exact before
  | cons y xs ih => exact ih (collects.known_of_known y before)

theorem known_foldl_of_mem : ∀ x ∈ xs, known (xs.foldl add items) x := by
  induction xs generalizing items with
  | nil => simp
  | cons y xs ih =>
    rw [List.foldl_cons, List.forall_mem_cons]
    exact ⟨collects.known_foldl (collects.known_add items y), ih⟩

theorem foldl_eq_self_iff : xs.foldl add items = items ↔ ∀ x ∈ xs, known items x := by
  refine ⟨fun same => ?_, collects.foldl_eq_self⟩
  have all : ∀ x ∈ xs, known (xs.foldl add items) x := collects.known_foldl_of_mem
  rwa [same] at all

theorem foldl_foldl : xs.foldl add (xs.foldl add items) = xs.foldl add items :=
  collects.foldl_eq_self collects.known_foldl_of_mem

end Collects

theorem addNew_collects : Collects addNew fun items x => x ∈ items where
  idle known := by simp [addNew, known]
  known_add items x := by
    unfold addNew
    split
    · next known => simpa using known
    · simp
  known_of_known y known := by
    unfold addNew
    split
    · exact known
    · exact List.mem_append_left _ known

theorem addTypeParameter_collects :
    Collects addTypeParameter fun parameters p => ∃ q ∈ parameters, q.name = p.name where
  idle known := by simpa [addTypeParameter] using known
  known_add parameters p := by
    unfold addTypeParameter
    split
    · next known => simpa using known
    · exact ⟨p, by simp, rfl⟩
  known_of_known y known := by
    unfold addTypeParameter
    split
    · exact known
    · rcases known with ⟨q, member, same⟩
      exact ⟨q, List.mem_append_left _ member, same⟩

/-! ## The five rules -/

def firstTokens (told : List (List (Text × Option Span))) : List (Text × Option Span) :=
  told.filterMap List.head?

/-- The type parameter that the tokens of a directive declare. -/
def typeParameterOf? : List (Text × Option Span) → Option TypeParameter
  | [] => none
  | [name] => some ⟨name.1, []⟩
  | name :: constraint :: _ => some ⟨name.1, constraint.1⟩

/-- The base type is that of the first directive. -/
def inheritsRule : ClassRule where
  definition := .inherits
  step told c := match (firstTokens told).head? with
    | none => c
    | some (typeName, span?) => { c with baseType := typeName, baseTypeSpan? := span? }
  step_step told c := by cases (firstTokens told).head? <;> rfl
  isPrimary_step told c := by cases (firstTokens told).head? <;> rfl

/-- The interfaces have those of the directives among them. -/
def implementsRule : ClassRule where
  definition := .implements
  step told c :=
    { c with interfaces := ((firstTokens told).map Prod.fst).foldl addNew c.interfaces }
  step_step told c := by rw [addNew_collects.foldl_foldl]
  isPrimary_step _ _ := rfl

/-- The type parameters have those of the directives among them. -/
def typeParameterRule : ClassRule where
  definition := .typeParameter
  step told c := { c with
    typeParameters := (told.filterMap typeParameterOf?).foldl addTypeParameter c.typeParameters }
  step_step told c := by rw [addTypeParameter_collects.foldl_foldl]
  isPrimary_step _ _ := rfl

/-- The attributes have one for the layout of the first directive among them. -/
def layoutRule : ClassRule where
  definition := .layout
  step told c := { c with
    attributes := ((firstTokens told).head?.toList.map fun token => layoutAttribute token.1).foldl
      addNew c.attributes }
  step_step told c := by rw [addNew_collects.foldl_foldl]
  isPrimary_step _ _ := rfl

/-- The attributes have those of the directives among them. -/
def attributeRule : ClassRule where
  definition := .attributeSection
  step told c :=
    { c with attributes := ((firstTokens told).map Prod.fst).foldl addNew c.attributes }
  step_step told c := by rw [addNew_collects.foldl_foldl]
  isPrimary_step _ _ := rfl

/-! ## When a rule has nothing to do -/

section Fixed

variable {told : List (List (Text × Option Span))} {c : ClassShape}

theorem inheritsRule_step_eq_self_iff : inheritsRule.step told c = c ↔
    ∀ token ∈ (firstTokens told).head?, c.baseType = token.1 ∧ c.baseTypeSpan? = token.2 := by
  cases found : (firstTokens told).head? with
  | none => simp [inheritsRule, found]
  | some token =>
    rcases c
    simp [inheritsRule, found, eq_comm]

theorem implementsRule_step_eq_self_iff : implementsRule.step told c = c ↔
    ∀ token ∈ firstTokens told, token.1 ∈ c.interfaces := by
  rw [← List.forall_mem_map, ← addNew_collects.foldl_eq_self_iff]
  rcases c
  simp [implementsRule]

theorem typeParameterRule_step_eq_self_iff : typeParameterRule.step told c = c ↔
    ∀ p ∈ told.filterMap typeParameterOf?, ∃ q ∈ c.typeParameters, q.name = p.name := by
  rw [← addTypeParameter_collects.foldl_eq_self_iff]
  rcases c
  simp [typeParameterRule]

theorem layoutRule_step_eq_self_iff : layoutRule.step told c = c ↔
    ∀ token ∈ (firstTokens told).head?.toList, layoutAttribute token.1 ∈ c.attributes := by
  have each := List.forall_mem_map (P := (· ∈ c.attributes)) (l := (firstTokens told).head?.toList)
    (f := fun token => layoutAttribute token.1)
  rw [← each, ← addNew_collects.foldl_eq_self_iff]
  rcases c
  simp [layoutRule]

end Fixed

/-! ## Rules beside each other -/

/-- The rules for the directives of the class besides that for the base type, in order. -/
def furtherRules : List ClassRule := [implementsRule, typeParameterRule, layoutRule, attributeRule]

theorem furtherRules_spare_inheritsRule : ∀ s ∈ furtherRules, s.Spares inheritsRule := by
  have spares (s : ClassRule)
      (same : ∀ told c, (s.step told c).baseType = c.baseType
        ∧ (s.step told c).baseTypeSpan? = c.baseTypeSpan?) : s.Spares inheritsRule := by
    intro told others c
    rw [inheritsRule_step_eq_self_iff, inheritsRule_step_eq_self_iff, (same others c).1,
      (same others c).2]
    exact id
  simp only [furtherRules, List.forall_mem_cons, List.not_mem_nil, false_implies, implies_true,
    and_true]
  exact ⟨spares _ fun _ _ => ⟨rfl, rfl⟩, spares _ fun _ _ => ⟨rfl, rfl⟩,
    spares _ fun _ _ => ⟨rfl, rfl⟩, spares _ fun _ _ => ⟨rfl, rfl⟩⟩

/-- A rule looks at one field of the class.  Of those that come behind it, only the one for
attributes changes the same field as the one for the layout, and that loses no attribute. -/
theorem furtherRules_apart : furtherRules.Pairwise fun r s => s.Spares r := by
  have interfaces (s : ClassRule) (same : ∀ told c, (s.step told c).interfaces = c.interfaces) :
      s.Spares implementsRule := by
    intro told others c
    rw [implementsRule_step_eq_self_iff, implementsRule_step_eq_self_iff, same]
    exact id
  have parameters (s : ClassRule)
      (same : ∀ told c, (s.step told c).typeParameters = c.typeParameters) :
      s.Spares typeParameterRule := by
    intro told others c
    rw [typeParameterRule_step_eq_self_iff, typeParameterRule_step_eq_self_iff, same]
    exact id
  have attributes : attributeRule.Spares layoutRule := by
    intro told others c
    rw [layoutRule_step_eq_self_iff, layoutRule_step_eq_self_iff]
    exact fun present token member => addNew_collects.known_foldl (present token member)
  simp only [furtherRules, List.pairwise_cons, List.forall_mem_cons, List.not_mem_nil,
    false_implies, implies_true, and_true, List.Pairwise.nil]
  exact ⟨⟨interfaces _ fun _ _ => rfl, interfaces _ fun _ _ => rfl, interfaces _ fun _ _ => rfl⟩,
    ⟨parameters _ fun _ _ => rfl, parameters _ fun _ _ => rfl⟩, attributes⟩

/-! ## What directives do to a document -/

theorem firstTokens_told (d : Document) (definition : DirectiveDescriptor) :
    firstTokens (d.told definition) = d.firstTokensOf definition :=
  (Document.filterMap_directivesOf List.head? definition).symm

theorem applyInherits_eq (d : Document) : applyInherits d = inheritsRule.apply d := by
  simp only [applyInherits, ClassRule.apply, inheritsRule, firstTokens_told]
  cases (d.firstTokensOf .inherits).head? with
  | none => exact (Document.changeClass_eq_self fun _ _ _ => rfl).symm
  | some token => rfl

theorem applyImplements_eq (d : Document) : applyImplements d = implementsRule.apply d := by
  simp only [applyImplements, ClassRule.apply, implementsRule, firstTokens_told]

theorem applyTypeParameters_eq (d : Document) :
    applyTypeParameters d = typeParameterRule.apply d := by
  have declared : (d.directivesOf .typeParameter).filterMap typeParameter?
      = (d.told .typeParameter).filterMap typeParameterOf? := by
    rw [← Document.filterMap_directivesOf]
    congr 1
  simp only [applyTypeParameters, ClassRule.apply, typeParameterRule, declared]

theorem applyLayout_eq (d : Document) : applyLayout d = layoutRule.apply d := by
  simp only [applyLayout, ClassRule.apply, layoutRule, firstTokens_told]
  cases (d.firstTokensOf .layout).head? with
  | none => exact (Document.changeClass_eq_self fun _ _ _ => rfl).symm
  | some token => rfl

theorem applyAttributes_eq (d : Document) : applyAttributes d = attributeRule.apply d := by
  simp only [applyAttributes, ClassRule.apply, attributeRule, firstTokens_told]

end Dialect

end TemplateCompiler
