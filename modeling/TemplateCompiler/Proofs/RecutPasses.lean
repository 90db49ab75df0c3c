import TemplateCompiler.Proofs.RecutMarkup
import TemplateCompiler.Proofs.RelocatedPasses

/-!
# Passes on documents that are cut differently

No pass between lowering and writing looks at how literal markup is cut: what it makes of two
documents that are recuts of each other are again recuts.  A pass may look at the text of markup to
report a misplaced directive, and may move markup around with the nodes that hold it; findings are
not compared here.

The last pass to change markup joins it.  What is left after that are recuts without neighbouring
pieces.
-/

namespace TemplateCompiler

namespace IR

namespace Node

theorem isDirectiveOf_byHead (d : DirectiveDescriptor) : ByHead (isDirectiveOf d) := by
  intro head children others
  rcases head with ⟨content, span?, diagnostics, label?⟩
  cases content with
  | directive name descriptor? => cases descriptor? <;> rfl
  | _ => rfl

theorem isToken_byHead : ByHead isToken := by
  intro head children others
  rcases head with ⟨content, span?, diagnostics, label?⟩
  cases content <;> rfl

theorem isDirectiveOf_overlooks (d : DirectiveDescriptor) : Overlooks (isDirectiveOf d) false :=
  ⟨fun _ _ _ => rfl, fun _ => rfl⟩

theorem Alike.span? {n m : Node} (alike : Alike n m) : n.span? = m.span? := by
  cases alike
  rfl

theorem Recut.tokens {ns ms : List Node} (recut : Recut ns ms) (head : Head) :
    (Node.node head ns).tokens = (Node.node head ms).tokens := by
  apply recut.filterMap fun _ _ _ => rfl
  apply ByHead.respects
  intro head children others
  rcases head with ⟨content, span?, diagnostics, label?⟩
  cases content <;> rfl

theorem Alike.tokens {n m : Node} (alike : Alike n m) : n.tokens = m.tokens := by
  cases alike with
  | intro unlike inside => exact inside.tokens _

theorem Alike.firstToken? {n m : Node} (alike : Alike n m) : n.firstToken? = m.firstToken? := by
  unfold Node.firstToken?
  rw [alike.tokens]

theorem Alike.block {n m : Node} (alike : Alike n m) : Recut n.block m.block := by
  cases alike with
  | intro unlike inside =>
    refine inside.filter true (fun _ _ _ => rfl) fun alike => ?_
    rw [ByHead.respects isToken_byHead alike]

end Node

namespace Document

open Node

/-- Two documents that say the same about themselves and differ at most in how markup is cut, and in
what was found about them. -/
structure Recut (d e : Document) : Prop where
  header : d.header = e.header
  children : Node.Recut d.children e.children

namespace Recut

variable {d e : Document}

theorem report (recut : d.Recut e) (found others : List Diagnostic) :
    (d.report found).Recut (e.report others) := ⟨recut.header, recut.children⟩

/-! ## Questions -/

theorem filterMap_directivesOf (recut : d.Recut e) {α : Type} {ask : Node → Option α}
    (respects : Respects ask) (definition : DirectiveDescriptor) :
    (d.directivesOf definition).filterMap ask = (e.directivesOf definition).filterMap ask := by
  unfold directivesOf nodes
  rw [List.filterMap_filter, List.filterMap_filter]
  refine recut.children.filterMap_preorderAll ⟨fun _ _ _ => rfl, fun _ => rfl⟩ fun alike => ?_
  rw [ByHead.respects (isDirectiveOf_byHead definition) alike, respects alike]

theorem firstTokensOf (recut : d.Recut e) (definition : DirectiveDescriptor) :
    d.firstTokensOf definition = e.firstTokensOf definition :=
  recut.filterMap_directivesOf Alike.firstToken? definition

/-- The primary classes of recuts have one shape. -/
theorem primaryClass? (recut : d.Recut e) :
    (d.primaryClass? = none ∧ e.primaryClass? = none) ∨
      ∃ shape members others, d.primaryClass? = some (shape, members)
        ∧ e.primaryClass? = some (shape, others) := by
  have shapes : d.primaryClass?.map Prod.fst = e.primaryClass?.map Prod.fst := by
    unfold Document.primaryClass? nodes
    rw [List.map_findSome?, List.map_findSome?]
    apply recut.children.findSome?_preorderAll ⟨fun _ _ _ => rfl, fun _ => rfl⟩
    apply ByHead.respects
    intro head children others
    rcases head with ⟨content, span?, diagnostics, label?⟩
    cases content with
    | classDecl shape =>
      change Option.map Prod.fst (if shape.isPrimary then some (shape, children) else none) =
        Option.map Prod.fst (if shape.isPrimary then some (shape, others) else none)
      split <;> rfl
    | _ => rfl
  rcases found : d.primaryClass? with - | ⟨shape, members⟩
  · rw [found] at shapes
    exact .inl ⟨rfl, Option.map_eq_none_iff.mp shapes.symm⟩
  · rw [found] at shapes
    rcases Option.map_eq_some_iff.mp shapes.symm with ⟨⟨other, others⟩, otherFound, same⟩
    cases same
    exact .inr ⟨shape, members, others, rfl, otherFound⟩

/-! ## Changes of a declaration -/

theorem changeFirst (recut : d.Recut e) {p : Node → Bool} {f g : Node → Node}
    (overlooks : Overlooks p false) (byHead : ByHead p)
    (changed : ∀ {n m}, Alike n m → p n = true → Node.Recut [f n] [g m]) :
    (d.changeFirst p f).Recut (e.changeFirst p g) := by
  refine ⟨recut.header, ?_⟩
  have rel := recut.children.changeFirstIn? overlooks byHead.respects changed
  unfold Document.changeFirst
  dsimp only
  generalize changeFirstIn? p f d.children = after at rel ⊢
  generalize changeFirstIn? p g e.children = otherAfter at rel ⊢
  cases rel with
  | none => exact recut.children
  | some others => exact others

/-- A change of the primary class that makes recuts of recuts. -/
theorem changeClass (recut : d.Recut e)
    {f g : ClassShape → List Node → ClassShape × List Node}
    (changed : ∀ shape {members others : List Node}, Node.Recut members others →
      (f shape members).1 = (g shape others).1
        ∧ Node.Recut (f shape members).2 (g shape others).2) :
    (d.changeClass f).Recut (e.changeClass g) := by
  refine recut.changeFirst ⟨fun _ _ _ => rfl, fun _ => rfl⟩ isPrimaryClass_byHead
    fun alike fits => ?_
  cases alike with
  | @intro head children others unlike inside =>
    rcases head with ⟨content, span?, diagnostics, label?⟩
    cases content with
    | classDecl shape =>
      rcases changed shape inside with ⟨sameShape, members⟩
      dsimp only
      rw [sameShape]
      exact .node nofun members .nil
    | _ => cases fits

theorem changeClassShape (recut : d.Recut e) (f : ClassShape → ClassShape) :
    (d.changeClassShape f).Recut (e.changeClassShape f) :=
  recut.changeClass fun _ {_ _} members => ⟨rfl, members⟩

theorem changeNamespace (recut : d.Recut e) {f : Text → List Node → Text × List Node}
    (changed : ∀ name {members others : List Node}, Node.Recut members others →
      (f name members).1 = (f name others).1
        ∧ Node.Recut (f name members).2 (f name others).2) :
    (d.changeNamespace f).Recut (e.changeNamespace f) := by
  have byHead : ByHead isPrimaryNamespace := by
    intro head children others
    rcases head with ⟨content, span?, diagnostics, label?⟩
    cases content <;> rfl
  refine recut.changeFirst ⟨fun _ _ _ => rfl, fun _ => rfl⟩ byHead fun alike fits => ?_
  cases alike with
  | @intro head children others unlike inside =>
    rcases head with ⟨content, span?, diagnostics, label?⟩
    cases content with
    | namespaceDecl name isPrimary =>
      rcases changed name inside with ⟨sameName, members⟩
      dsimp only
      rw [sameName]
      exact .node nofun members .nil
    | _ => cases fits

end Recut

end Document

end IR

open IR IR.Node

/-! ## Classifying -/

namespace Classifier.Outline

/-- Two outlines with the same declarations, which hold the same content with literal markup divided
in different ways. -/
structure Recut (o p : Outline) : Prop where
  namespaceName : o.namespaceName = p.namespaceName
  classShape : o.classShape = p.classShape
  methodShape : o.methodShape = p.methodShape
  imports : Node.Recut o.imports p.imports
  body : Node.Recut o.body p.body

theorem importedName?_byHead : ByHead Dialect.importedName? := by
  intro head children others
  rcases head with ⟨content, span?, diagnostics, label?⟩
  cases content <;> rfl

theorem initial_recut {d e : Document} (recut : d.Recut e) : (initial d).Recut (initial e) := by
  have respects : Respects isImport := by
    intro n m alike
    unfold isImport
    rw [importedName?_byHead.respects alike]
  constructor
  · unfold initial
    rw [recut.header]
  · rfl
  · rfl
  · exact recut.children.filter false (fun _ _ _ => rfl) respects
  · apply recut.children.filter true fun _ _ _ => rfl
    intro n m alike
    exact congrArg (!·) (respects alike)

variable {o p : Outline}

theorem Recut.toNode (recut : o.Recut p) : Node.Recut [o.toNode] [p.toNode] := by
  unfold Outline.toNode
  rw [recut.namespaceName, recut.classShape, recut.methodShape]
  refine .node nofun (recut.imports.append ?_) .nil
  exact .node nofun (.node nofun recut.body .nil) .nil

theorem Recut.viewShape (recut : o.Recut p) (baseType : Text) (doc : CodeDocument) :
    (Classifier.viewShape baseType doc o).Recut (Classifier.viewShape baseType doc p) :=
  { recut with classShape := by rw [Classifier.viewShape, Classifier.viewShape, recut.classShape] }

theorem withComponentImports_recut {ns ms : List Node} (recut : Node.Recut ns ms) :
    Node.Recut (Dialect.withComponentImports ns) (Dialect.withComponentImports ms) := by
  have plain : ∀ names : List Text,
      Node.Recut (names.map fun name => Node.synthetic (.usingDecl name) [])
        (names.map fun name => Node.synthetic (.usingDecl name) []) := by
    intro names
    induction names with
    | nil => exact .nil
    | cons name names ih => exact .node nofun .nil ih
  unfold Dialect.withComponentImports
  rw [recut.filterMap (fun _ _ _ => rfl) importedName?_byHead.respects]
  exact recut.append (plain _)

theorem Recut.componentShape (recut : o.Recut p) (doc : CodeDocument) :
    (Classifier.component.shape doc o).Recut (Classifier.component.shape doc p) where
  namespaceName := congrArg (Dialect.componentNamespace · doc.projectPath) recut.namespaceName
  classShape := by
    unfold component
    dsimp only
    rw [recut.classShape]
  methodShape := rfl
  imports := withComponentImports_recut recut.imports
  body := by
    have byHead : ByHead Dialect.isAnyDirective := by
      intro head children others
      rcases head with ⟨content, span?, diagnostics, label?⟩
      cases content <;> rfl
    unfold component
    dsimp only
    split
    · exact recut.body.filter false (fun _ _ _ => rfl) byHead.respects
    · exact recut.body

end Classifier.Outline

namespace Dialect

variable {d e : Document}

/-! ## Shapes -/

theorem applyInherits_recut (recut : d.Recut e) : (applyInherits d).Recut (applyInherits e) := by
  unfold applyInherits
  rw [recut.firstTokensOf]
  split
  · exact recut
  · exact recut.changeClassShape _

theorem applyImplements_recut (recut : d.Recut e) :
    (applyImplements d).Recut (applyImplements e) := by
  unfold applyImplements
  rw [recut.firstTokensOf]
  exact recut.changeClassShape _

theorem applyLayout_recut (recut : d.Recut e) : (applyLayout d).Recut (applyLayout e) := by
  unfold applyLayout
  rw [recut.firstTokensOf]
  split
  · exact recut
  · exact recut.changeClassShape _

theorem applyAttributes_recut (recut : d.Recut e) :
    (applyAttributes d).Recut (applyAttributes e) := by
  unfold applyAttributes
  rw [recut.firstTokensOf]
  exact recut.changeClassShape _

theorem applyTypeParameters_recut (recut : d.Recut e) :
    (applyTypeParameters d).Recut (applyTypeParameters e) := by
  have respects : Respects typeParameter? := by
    intro n m alike
    unfold typeParameter?
    rw [alike.tokens]
  unfold applyTypeParameters
  rw [recut.filterMap_directivesOf respects]
  exact recut.changeClassShape _

theorem applyNamespace_recut (recut : d.Recut e) : (applyNamespace d).Recut (applyNamespace e) := by
  unfold applyNamespace
  rw [recut.firstTokensOf]
  split
  · exact recut
  · exact recut.changeNamespace fun _ {_ _} members => ⟨rfl, members⟩

/-! ## Members -/

section Members

variable {p : Node → Bool}

/-- Nothing is left of nodes that are no tokens, where only tokens stay. -/
theorem withoutBlocksIn_eq_nil {ns : List Node} (others : ∀ n ∈ ns, n.isToken = false) :
    withoutBlocksIn p true ns = [] := by
  induction ns with
  | nil => rfl
  | cons n ns ih =>
    rcases List.forall_mem_cons.mp others with ⟨first, rest⟩
    rw [withoutBlocksIn, first]
    exact ih rest

theorem withoutBlocksIn_recut (directives : ∀ n, p n = true → n.isDirective = true)
    (byHead : ByHead p) {ns ms : List Node} (recut : Recut ns ms) : ∀ tokensOnly : Bool,
      Recut (withoutBlocksIn p tokensOnly ns) (withoutBlocksIn p tokensOnly ms) := by
  have pieces : ∀ {run : List Node}, IsRun run → withoutBlocksIn p true run = [] := by
    intro run literal
    have noToken : OnMarkup isToken false := fun _ _ _ => rfl
    apply withoutBlocksIn_eq_nil
    exact fun n member => noToken.literal (literal.literal n member)
  induction recut with
  | nil => exact fun _ => .nil
  | run literal otherLiteral same rest ih =>
    intro tokensOnly
    rw [withoutBlocksIn_append, withoutBlocksIn_append]
    cases tokensOnly with
    | true =>
      rw [pieces literal, pieces otherLiteral]
      exact ih true
    | false =>
      rw [withoutBlocksIn_of_silent directives literal.silent,
        withoutBlocksIn_of_silent directives otherLiteral.silent]
      exact .run literal otherLiteral same (ih false)
  | @node head children others ns ms unlike inside rest ihInside ih =>
    intro tokensOnly
    rw [withoutBlocksIn, withoutBlocksIn, isToken_byHead head children others]
    split
    · exact ih tokensOnly
    · rw [withoutBlocks, withoutBlocks, byHead head children others]
      exact .node unlike (ihInside _) (ih tokensOnly)

theorem flatMap_filter {α β : Type} (p : α → Bool) (f : α → List β) (items : List α) :
    (items.filter p).flatMap f = items.flatMap fun a => if p a then f a else [] := by
  induction items with
  | nil => rfl
  | cons a items ih => by_cases fits : p a <;> simp [fits, ih]

/-- Blocks that are moved to the end of the primary class. -/
theorem moveBlocks_recut (directives : ∀ n, p n = true → n.isDirective = true) (byHead : ByHead p)
    (recut : d.Recut e) :
    ({ d with children := withoutBlocksIn p false d.children }.changeClass fun shape members =>
        (shape, members
          ++ withoutBlocksIn p false ((d.nodes.filter p).flatMap Node.block))).Recut
      ({ e with children := withoutBlocksIn p false e.children }.changeClass fun shape members =>
        (shape, members
          ++ withoutBlocksIn p false ((e.nodes.filter p).flatMap Node.block))) := by
  have blocks : Recut ((d.nodes.filter p).flatMap Node.block)
      ((e.nodes.filter p).flatMap Node.block) := by
    rw [flatMap_filter, flatMap_filter]
    apply recut.children.flatMap_preorderAll .nil Recut.append
    · constructor
      · intro span? label? children
        have silent : (Node.node { content := .markup, span?, label? } children).Headed
            Head.Silent := ⟨rfl, rfl⟩
        exact if_neg (Bool.eq_false_iff.mp (not_of_silent directives silent))
      · intro t
        have silent := (every_silent_markupToken t).self
        exact if_neg (Bool.eq_false_iff.mp (not_of_silent directives silent))
    · intro n m alike
      rw [byHead.respects alike]
      split
      · exact alike.block
      · exact .nil
  apply Document.Recut.changeClass
  · exact ⟨recut.header, withoutBlocksIn_recut directives byHead recut.children false⟩
  · intro shape members others inside
    exact ⟨rfl, inside.append (withoutBlocksIn_recut directives byHead blocks false)⟩

theorem applyMembers_recut (definitions : List DirectiveDescriptor) (recut : d.Recut e) :
    (applyMembers definitions d).Recut (applyMembers definitions e) := by
  have byHead : ByHead fun n => definitions.any fun e => isDirectiveOf e n := by
    intro head children others
    simp only [isDirectiveOf_byHead _ head children others]
  have directives : ∀ n, (definitions.any fun e => isDirectiveOf e n) = true →
      n.isDirective = true := by
    intro n found
    rcases List.any_eq_true.mp found with ⟨definition, -, same⟩
    exact isDirective_of_isDirectiveOf same
  unfold applyMembers
  rcases recut.primaryClass? with ⟨none, otherNone⟩ | ⟨_, _, _, found, otherFound⟩
  · rw [none, otherNone]
    exact recut
  · rw [found, otherFound]
    exact moveBlocks_recut directives byHead recut

end Members

/-! ## Sections -/

theorem isSection_byHead : ByHead isSection := isDirectiveOf_byHead _

theorem withoutSectionsIn_removes : Removes isSection withoutSectionsIn where
  nil := rfl
  silent silent ms := by rw [withoutSectionsIn_append, withoutSectionsIn_of_silent silent]
  node _ _ _ := rfl

/-- Sections are defined at the same places, under the same names. -/
theorem defineSectionsIn_recut {ns ms : List Node} (recut : Recut ns ms) : ∀ names : List Text,
    Recut (defineSectionsIn names ns).1 (defineSectionsIn names ms).1
      ∧ (defineSectionsIn names ns).2.1 = (defineSectionsIn names ms).2.1 := by
  induction recut with
  | nil => exact fun _ => ⟨.nil, rfl⟩
  | run literal otherLiteral same rest ih =>
    intro names
    rw [defineSectionsIn_append, defineSectionsIn_append,
      defineSectionsIn_of_silent names literal.silent,
      defineSectionsIn_of_silent names otherLiteral.silent]
    exact ⟨.run literal otherLiteral same (ih names).1, (ih names).2⟩
  | @node head children others ns ms unlike inside rest ihInside ih =>
    intro names
    have alike : Alike (.node head children) (.node head others) := .intro unlike inside
    have here : Recut (defineSections names (.node head children)).1
          (defineSections names (.node head others)).1
        ∧ (defineSections names (.node head children)).2.1 =
          (defineSections names (.node head others)).2.1 := by
      have name : sectionName (.node head children) = sectionName (.node head others) := by
        unfold sectionName
        rw [alike.firstToken?]
      unfold defineSections
      dsimp only
      rw [isSection_byHead head children others, name]
      split
      · split
        · exact ⟨.nil, rfl⟩
        · refine ⟨?_, rfl⟩
          unfold toSection
          rw [name]
          exact .node nofun (alike.block.removed withoutSectionsIn_removes isSection_byHead) .nil
      · exact ⟨.node unlike (ihInside names).1 .nil, (ihInside names).2⟩
    rw [defineSectionsIn, defineSectionsIn]
    dsimp only
    rw [here.2]
    exact ⟨here.1.append (ih _).1, (ih _).2⟩

theorem applySections_recut (recut : d.Recut e) : (applySections d).Recut (applySections e) :=
  ⟨recut.header, (defineSectionsIn_recut recut.children []).1⟩

/-! ## The model -/

theorem modelType_recut (recut : d.Recut e) : modelType d = modelType e := by
  unfold modelType
  rw [recut.header, recut.firstTokensOf]
  rcases recut.primaryClass? with ⟨none, otherNone⟩ | ⟨_, _, _, found, otherFound⟩
  · rw [none, otherNone]
  · rw [found, otherFound]

theorem addModelAlias_recut (recut : d.Recut e) : (addModelAlias d).Recut (addModelAlias e) := by
  have byHead : ByHead isModelAlias := by
    intro head children others
    rcases head with ⟨content, span?, diagnostics, label?⟩
    cases content <;> rfl
  apply recut.changeNamespace
  intro name members others inside
  refine ⟨rfl, ?_⟩
  dsimp only
  rw [inside.any (fun _ _ _ => rfl) byHead.respects]
  split
  · exact inside
  · exact .node nofun .nil inside

theorem nameModel_recut (recut : d.Recut e) (model : Text) :
    (nameModel d model).Recut (nameModel e model) := by
  have named : Document.Recut { d with header := { d.header with modelType := model } }
      { e with header := { e.header with modelType := model } } :=
    ⟨by rw [recut.header], recut.children⟩
  unfold nameModel
  rw [recut.header] at named ⊢
  split
  · exact addModelAlias_recut named
  · exact named

theorem modelSpan?_recut (recut : d.Recut e) : modelSpan? d = modelSpan? e := by
  have inherits : ((d.directivesOf .inherits).head?).bind Node.span? =
      ((e.directivesOf .inherits).head?).bind Node.span? := by
    unfold Document.directivesOf
    rw [List.head?_filter, List.head?_filter]
    have found := recut.children.find?_preorderAll (isDirectiveOf_overlooks .inherits)
      (isDirectiveOf_byHead .inherits).respects
    unfold Document.nodes
    generalize (preorderAll d.children).find? _ = first at found ⊢
    generalize (preorderAll e.children).find? _ = other at found ⊢
    cases found with
    | none => rfl
    | some alike => exact alike.span?
  unfold modelSpan?
  rw [inherits, recut.firstTokensOf]

theorem applyModel_recut (recut : d.Recut e) : (applyModel d).Recut (applyModel e) := by
  have placed : (placeModel (nameModel d (modelType d)) (modelType d)).Recut
      (placeModel (nameModel e (modelType e)) (modelType e)) := by
    have named := nameModel_recut recut (modelType e)
    unfold placeModel
    rw [modelType_recut recut, modelSpan?_recut named]
    exact named.changeClassShape _
  rw [applyModel_eq, applyModel_eq]
  rcases recut.primaryClass? with ⟨none, otherNone⟩ | ⟨_, _, _, found, otherFound⟩
  · rw [none, otherNone]
    exact recut
  · rw [found, otherFound]
    exact placed

/-! ## Pages -/

theorem isPageOf_overlooks (file? : Option Nat) : Overlooks (isPageOf file?) false :=
  ⟨fun _ _ _ => rfl, fun _ => rfl⟩

theorem isPageOf_byHead (file? : Option Nat) : ByHead (isPageOf file?) := by
  intro head children others
  unfold isPageOf
  rw [isDirectiveOf_byHead _ head children others]
  rfl

theorem applyPage_recut (file? : Option Nat) (recut : d.Recut e) :
    (applyPage file? d).Recut (applyPage file? e) := by
  have found := recut.children.find?_preorderAll (isPageOf_overlooks file?)
    (isPageOf_byHead file?).respects
  unfold applyPage Document.nodes
  rw [recut.header]
  split
  · exact recut
  generalize (preorderAll d.children).find? _ = first at found ⊢
  generalize (preorderAll e.children).find? _ = other at found ⊢
  cases found with
  | none => exact recut
  | @some page otherPage alike =>
    have reported : ∀ (misplaced otherMisplaced : Bool) (found others : List Diagnostic),
        Document.Recut (if misplaced then d.report found else d)
          (if otherMisplaced then e.report others else e) := by
      intro misplaced otherMisplaced found others
      cases misplaced <;> cases otherMisplaced <;> exact ⟨recut.header, recut.children⟩
    dsimp only
    rw [alike.firstToken?]
    split
    · exact reported _ _ _ _
    · exact (reported _ _ _ _).changeClassShape _

end Dialect

/-! ## Optimizing -/

namespace IR.Document.Recut

open Node

variable {d e : Document}

theorem declareHelpers (recut : d.Recut e) : d.declareHelpers.Recut e.declareHelpers := by
  have helpers : d.nodes.flatMap helpersOf = e.nodes.flatMap helpersOf := by
    apply recut.children.flatMap_preorderAll_eq ⟨fun _ _ _ => rfl, fun _ => rfl⟩
    exact helpersOf_byHead.respects
  have named : ByHead fieldName? := by
    intro head children others
    rcases head with ⟨content, span?, diagnostics, label?⟩
    cases content <;> rfl
  have plain : ∀ (used : List TagHelper) (seen : List Digest) (declared : List Text),
      Node.Recut (helperFields seen declared used) (helperFields seen declared used) := by
    intro used
    induction used with
    | nil => exact fun _ _ => .nil
    | cons h used ih =>
      intro seen declared
      unfold helperFields
      split
      · exact ih _ _
      dsimp only
      split
      · exact ih _ _
      · exact .node (by simp) .nil (ih _ _)
  apply recut.changeClass
  intro shape members others inside
  refine ⟨rfl, ?_⟩
  dsimp only
  rw [helpers, inside.filterMap_preorderAll ⟨fun _ _ _ => rfl, fun _ => rfl⟩ named.respects]
  exact (plain _ _ _).append inside

theorem dropDirectivesAll_removes : Removes isDirective dropDirectivesAll where
  nil := rfl
  silent silent ms := by rw [dropDirectivesAll_append, dropDirectivesAll_of_silent silent]
  node _ _ _ := rfl

theorem removeDirectives (recut : d.Recut e) : d.removeDirectives.Recut e.removeDirectives :=
  ⟨recut.header, recut.children.removed dropDirectivesAll_removes isDirective_byHead⟩

theorem mergeMarkup (recut : d.Recut e) : d.mergeMarkup.Recut e.mergeMarkup := by
  refine ⟨recut.header, ?_⟩
  rw [children_mergeMarkup, children_mergeMarkup, recut.children.heightAll]
  exact recut.children.joinSiblings_and_joinRuns.1.map_mergeLevels _

/-! Whether a body is dropped does not depend on how markup in it is cut. -/

theorem isCompletedTask {body other : List Node} (recut : Node.Recut body other) :
    Document.isCompletedTask body = Document.isCompletedTask other := by
  have markup : ∀ {run : List Node}, IsRun run → ∀ rest,
      Document.isCompletedTask (run ++ rest) = false := by
    intro run literal rest
    rcases run with - | ⟨n, pieces⟩
    · exact absurd rfl literal.nonempty
    · cases literal.literal n List.mem_cons_self
      rfl
  cases recut with
  | nil => rfl
  | run literal otherLiteral same rest => rw [markup literal, markup otherLiteral]
  | @node head children others ns ms unlike inside rest =>
    have longer : ∀ n m rest, Document.isCompletedTask (n :: m :: rest) = false := by
      intro n m rest
      rcases n with - | ⟨⟨content, span?, diagnostics, label?⟩, inner⟩
      · rfl
      · cases content <;> rfl
    have code : children.flatMap tokenText = others.flatMap tokenText := by
      apply inside.flatMap fun _ _ _ => rfl
      exact tokenText_byHead.respects
    have both := rest.isEmpty
    rcases ns with - | ⟨n, ns⟩ <;> rcases ms with - | ⟨m, ms⟩
    · rcases head with ⟨content, span?, diagnostics, label?⟩
      cases content with
      | statement => exact congrArg (· == completedTask) code
      | _ => rfl
    · cases both
    · cases both
    · rw [longer, longer]

theorem isBodyDropped {body other : List Node} (recut : Node.Recut body other)
    (shape : MethodShape) :
    Document.isBodyDropped shape body = Document.isBodyDropped shape other := by
  unfold Document.isBodyDropped
  rw [recut.isEmpty, isCompletedTask recut]

theorem isDropped_iff (recut : d.Recut e) : d.IsDropped ↔ e.IsDropped := by
  have answers : d.nodes.findSome? dropped? = e.nodes.findSome? dropped? := by
    apply recut.children.findSome?_preorderAll ⟨fun _ _ _ => rfl, fun _ => rfl⟩
    intro n m alike
    cases alike with
    | @intro head children others unlike inside =>
      rcases head with ⟨content, span?, diagnostics, label?⟩
      cases content with
      | methodDecl shape =>
        unfold dropped?
        dsimp only
        rw [isBodyDropped inside]
      | _ => rfl
  rw [Document.isDropped_iff, Document.isDropped_iff, recut.header, answers]

/-- A change of the primary method that depends on its head. -/
theorem changeMethod (recut : d.Recut e) {f : Head → MethodShape → Node}
    (plain : ∀ head shape, Node.Recut [f head shape] [f head shape]) :
    (d.changeMethod fun head shape _ => f head shape).Recut
      (e.changeMethod fun head shape _ => f head shape) := by
  refine recut.changeFirst ⟨fun _ _ _ => rfl, fun _ => rfl⟩ isPrimaryMethod_byHead
    fun alike fits => ?_
  cases alike with
  | @intro head children others unlike inside =>
    rcases head with ⟨content, span?, diagnostics, label?⟩
    cases content with
    | methodDecl shape => exact plain _ shape
    | _ => cases fits

theorem dropBody (recut : d.Recut e) : d.dropBody.Recut e.dropBody := by
  by_cases dropped : d.IsDropped
  · rw [dropBody_of_isDropped dropped, dropBody_of_isDropped (recut.isDropped_iff.mp dropped)]
    exact recut
  · rcases dropBody_of_not_isDropped dropped with ⟨method, -, same⟩
    rcases dropBody_of_not_isDropped (mt recut.isDropped_iff.mpr dropped) with ⟨other, -, otherSame⟩
    rw [same, otherSame]
    apply (recut.report method.allDiagnostics other.allDiagnostics).changeMethod
    intro head shape
    unfold withoutBody
    refine .node nofun ?_ .nil
    split
    · exact .nil
    · exact .node nofun (.node nofun .nil .nil) .nil

end IR.Document.Recut

/-! ## All passes -/

namespace ProjectEngine

variable {d e : Document}

theorem isPage_recut (doc : CodeDocument) (recut : d.Recut e) : isPage doc d = isPage doc e := by
  apply recut.children.any fun _ _ _ => rfl
  intro n m alike
  cases alike with
  | @intro head children others unlike inside =>
    dsimp only
    rw [isDirective_byHead head children others, preorder, preorder, List.any_cons, List.any_cons,
      Dialect.isPageOf_byHead _ head children others,
      inside.any_preorderAll (Dialect.isPageOf_overlooks _) (Dialect.isPageOf_byHead _).respects]

theorem classified_recut (components : Bool) (doc : CodeDocument) (recut : d.Recut e) :
    ((ruleOf components doc d).classified doc d).Recut
      ((ruleOf components doc e).classified doc e) := by
  have rule : ruleOf components doc d = ruleOf components doc e := by
    unfold ruleOf
    rw [isPage_recut doc recut]
  have initial := Classifier.Outline.initial_recut recut
  have shaped : ((ruleOf components doc e).shape doc (.initial d)).Recut
      ((ruleOf components doc e).shape doc (.initial e)) := by
    unfold ruleOf
    split
    · exact initial.componentShape doc
    split
    · split
      · exact initial.viewShape _ doc
      · exact initial.viewShape _ doc
    · exact initial
  rw [rule]
  refine ⟨?_, shaped.toNode⟩
  unfold Classifier.Rule.classified
  rw [recut.header]

/-- What each of some changes makes of recuts, all of them make of recuts. -/
theorem applied_recut {fs : List (Option Nat → Document → Document)} {file? : Option Nat}
    (each : ∀ f ∈ fs, ∀ {d e : Document}, d.Recut e → (f file? d).Recut (f file? e)) :
    ∀ {d e : Document}, d.Recut e → (applied fs file? d).Recut (applied fs file? e) := by
  induction fs with
  | nil => exact id
  | cons f fs ih =>
    intro d e recut
    apply ih (fun g member => each g (List.mem_cons_of_mem f member))
    exact each f List.mem_cons_self recut

theorem directiveChanges_recut (components : Bool) (file? : Option Nat) (recut : d.Recut e) :
    (applied (directiveChanges components) file? d).Recut
      (applied (directiveChanges components) file? e) := by
  apply applied_recut _ recut
  intro f member d e recut
  have known := mem_directiveChanges member
  simp only [directiveChanges, if_true, List.cons_append, List.nil_append, List.mem_cons,
    List.not_mem_nil, or_false] at known
  rcases known with rfl | rfl | rfl | rfl | rfl | rfl | rfl | rfl | rfl | rfl | rfl
  · exact Dialect.applyInherits_recut recut
  · exact Dialect.applyMembers_recut _ recut
  · exact Dialect.applySections_recut recut
  · exact Dialect.applyImplements_recut recut
  · exact Dialect.applyNamespace_recut recut
  · exact Dialect.applyPage_recut file? recut
  · exact Dialect.applyMembers_recut _ recut
  · exact Dialect.applyTypeParameters_recut recut
  · exact Dialect.applyLayout_recut recut
  · exact Dialect.applyAttributes_recut recut
  · exact Dialect.applyModel_recut recut

/-- The documents that are written are recuts of each other, and no markup has markup beside it. -/
theorem shaped_recut (components : Bool) (doc : CodeDocument) (recut : d.Recut e) :
    (shaped components doc d).Recut (shaped components doc e) := by
  unfold shaped
  rw [applied_optimizations, applied_optimizations]
  apply Document.Recut.dropBody
  apply Document.Recut.mergeMarkup
  apply Document.Recut.removeDirectives
  apply Document.Recut.declareHelpers
  apply directiveChanges_recut
  exact classified_recut components doc recut

theorem isMerged_shaped (components : Bool) (doc : CodeDocument) (d : Document) :
    (shaped components doc d).IsMerged := by
  unfold shaped
  rw [applied_optimizations]
  exact Document.isMerged_dropBody (Document.isMerged_mergeMarkup _)

end ProjectEngine

end TemplateCompiler
