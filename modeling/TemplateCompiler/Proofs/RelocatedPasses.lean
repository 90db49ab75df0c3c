import TemplateCompiler.Proofs.PlacedDirectives
import TemplateCompiler.Proofs.RelocatedDocument

/-!
# Passes on renumbered documents

A pass does to a renumbered document what it does to the document itself.  Three of them look at the
numbers of files: the page directive counts only in the document's own file, the model type comes
from the file of the base type, and markup is covered by one span only within a file.  A one-to-one
renumbering changes none of these answers.

Findings about sections and pages are reported at directives, so these have to have places.
-/

namespace TemplateCompiler

namespace Dialect

open IR IR.Node

/-! ## Base type, interfaces and attributes -/

section Shapes

variable (r : Relocation) (d : Document)

theorem applyInherits_relocate : applyInherits (d.relocate r) = (applyInherits d).relocate r := by
  rw [applyInherits, applyInherits, Document.firstTokensOf_relocate, List.head?_map]
  cases (d.firstTokensOf .inherits).head? with
  | none => rfl
  | some token => exact d.changeClassShape_relocate fun _ => rfl

theorem applyImplements_relocate :
    applyImplements (d.relocate r) = (applyImplements d).relocate r := by
  rw [applyImplements, applyImplements, Document.firstTokensOf_relocate, map_fst_relocateToken]
  exact d.changeClassShape_relocate fun _ => rfl

theorem applyLayout_relocate : applyLayout (d.relocate r) = (applyLayout d).relocate r := by
  rw [applyLayout, applyLayout, Document.firstTokensOf_relocate, List.head?_map]
  cases (d.firstTokensOf .layout).head? with
  | none => rfl
  | some token => exact d.changeClassShape_relocate fun _ => rfl

theorem applyAttributes_relocate :
    applyAttributes (d.relocate r) = (applyAttributes d).relocate r := by
  rw [applyAttributes, applyAttributes, Document.firstTokensOf_relocate, map_fst_relocateToken]
  exact d.changeClassShape_relocate fun _ => rfl

theorem typeParameter?_relocate (n : Node) :
    typeParameter? (n.relocate r) = typeParameter? n := by
  rw [typeParameter?, typeParameter?, Node.tokens_relocate]
  rcases n.tokens with _ | ⟨name, _ | ⟨constraint, rest⟩⟩ <;> rfl

theorem applyTypeParameters_relocate :
    applyTypeParameters (d.relocate r) = (applyTypeParameters d).relocate r := by
  rw [applyTypeParameters, applyTypeParameters, Document.directivesOf_relocate,
    List.filterMap_map]
  simp only [Function.comp_def, typeParameter?_relocate]
  exact d.changeClassShape_relocate fun _ => rfl

theorem applyNamespace_relocate :
    applyNamespace (d.relocate r) = (applyNamespace d).relocate r := by
  rw [applyNamespace, applyNamespace, Document.firstTokensOf_relocate, List.getLast?_map]
  cases (d.firstTokensOf .namespaceOf).getLast? with
  | none => rfl
  | some token => exact d.changeNamespace_relocate fun _ _ => rfl

end Shapes

/-! ## Members -/

section Members

variable {r : Relocation} {p : Node → Bool}

mutual

theorem withoutBlocks_relocate (test : ∀ n : Node, p (n.relocate r) = p n) (n : Node) :
    withoutBlocks p (n.relocate r) = (withoutBlocks p n).relocate r := by
  cases n with
  | absent => rfl
  | node head children =>
    have same := test (.node head children)
    rw [Node.relocate_node] at same
    rw [Node.relocate_node, withoutBlocks, withoutBlocks, Node.relocate_node, same,
      withoutBlocksIn_relocate test _ children]

theorem withoutBlocksIn_relocate (test : ∀ n : Node, p (n.relocate r) = p n)
    (tokensOnly : Bool) (ns : List Node) :
    withoutBlocksIn p tokensOnly (ns.map (Node.relocate r)) =
      (withoutBlocksIn p tokensOnly ns).map (Node.relocate r) := by
  cases ns with
  | nil => rfl
  | cons n ns =>
    rw [List.map_cons, withoutBlocksIn, withoutBlocksIn, Node.isToken_relocate]
    split
    · exact withoutBlocksIn_relocate test tokensOnly ns
    · rw [List.map_cons, withoutBlocks_relocate test n, withoutBlocksIn_relocate test tokensOnly ns]

end

theorem applyMembers_relocate (r : Relocation) (definitions : List DirectiveDescriptor)
    (d : Document) :
    applyMembers definitions (d.relocate r) = (applyMembers definitions d).relocate r := by
  have test : ∀ n : Node, (definitions.any fun e => (n.relocate r).isDirectiveOf e) =
      definitions.any fun e => n.isDirectiveOf e := by
    intro n
    simp only [Node.isDirectiveOf_relocate]
  have blocks : ((d.relocate r).nodes.filter fun n => definitions.any fun e =>
        n.isDirectiveOf e).flatMap Node.block =
      ((d.nodes.filter fun n => definitions.any fun e => n.isDirectiveOf e).flatMap
        Node.block).map (Node.relocate r) := by
    rw [Document.nodes_relocate, List.filter_map, List.flatMap_map, List.map_flatMap]
    simp only [Function.comp_def, test, Node.block_relocate]
  rw [applyMembers, applyMembers, Document.primaryClass?_relocate]
  cases d.primaryClass? with
  | none => rfl
  | some c =>
    dsimp only [Option.map_some]
    rw [blocks, Document.children_relocate, withoutBlocksIn_relocate test,
      withoutBlocksIn_relocate test]
    refine Document.changeClass_relocate { d with
      children := withoutBlocksIn (fun n => definitions.any fun e => n.isDirectiveOf e) false
        d.children } fun _ members => ?_
    rw [List.map_append]

end Members

/-! ## Sections -/

section Sections

variable (r : Relocation)

@[simp]
theorem isSection_relocate (n : Node) : isSection (n.relocate r) = isSection n :=
  Node.isDirectiveOf_relocate r n _

@[simp]
theorem sectionName_relocate (n : Node) : sectionName (n.relocate r) = sectionName n := by
  rw [sectionName, sectionName, Node.firstToken?_relocate, Option.map_map]
  rfl

/-- A finding about a directive moves with the directive. -/
theorem spanOf_relocate {n : Node} (placed : n.Headed Head.Placed)
    (directive : n.isDirective = true) : spanOf (n.relocate r) = r.span (spanOf n) := by
  obtain ⟨span, known⟩ := Option.isSome_iff_exists.mp (isSome_span?_of_placed placed directive)
  rw [spanOf, spanOf, Node.span?_relocate, known]
  rfl

theorem isDirective_of_isSection {n : Node} (isSection : isSection n = true) :
    n.isDirective = true := isDirective_of_isDirectiveOf isSection

mutual

theorem withoutSections_relocate (n : Node) :
    withoutSections (n.relocate r) = (withoutSections n).relocate r := by
  cases n with
  | absent => rfl
  | node head children =>
    rw [Node.relocate_node, withoutSections, withoutSections, Node.relocate_node,
      withoutSectionsIn_relocate children]

theorem withoutSectionsIn_relocate (ns : List Node) :
    withoutSectionsIn (ns.map (Node.relocate r)) =
      (withoutSectionsIn ns).map (Node.relocate r) := by
  cases ns with
  | nil => rfl
  | cons n ns =>
    rw [List.map_cons, withoutSectionsIn, withoutSectionsIn, isSection_relocate]
    split
    · exact withoutSectionsIn_relocate ns
    · rw [List.map_cons, withoutSections_relocate n, withoutSectionsIn_relocate ns]

end

mutual

theorem outerSections_relocate (n : Node) :
    outerSections (n.relocate r) = (outerSections n).map (Node.relocate r) := by
  cases n with
  | absent => rfl
  | node head children =>
    have same := isSection_relocate r (.node head children)
    rw [Node.relocate_node] at same
    rw [Node.relocate_node, outerSections, outerSections, same, apply_ite (List.map _),
      outerSectionsIn_relocate children, List.map_singleton, Node.relocate_node]

theorem outerSectionsIn_relocate (ns : List Node) :
    outerSectionsIn (ns.map (Node.relocate r)) = (outerSectionsIn ns).map (Node.relocate r) := by
  cases ns with
  | nil => rfl
  | cons n ns =>
    rw [List.map_cons, outerSectionsIn, outerSectionsIn, outerSections_relocate n,
      outerSectionsIn_relocate ns, List.map_append]

end

theorem nestedFindings_relocate {n : Node} (placed : n.Every (Headed Head.Placed)) :
    nestedFindings (n.relocate r) = (nestedFindings n).map r.finding := by
  have test : isSection ∘ Node.relocate r = isSection := funext fun n => isSection_relocate r n
  rw [nestedFindings, nestedFindings, Node.children_relocate, Node.preorderAll_relocate,
    List.filter_map, List.map_map, List.map_map, test]
  refine List.map_congr_left fun inner among => ?_
  obtain ⟨member, isSection⟩ := List.mem_filter.mp among
  have inside := Every.of_mem_preorderAll placed.inside inner member
  rw [Function.comp_apply, Function.comp_apply, Relocation.finding_error,
    spanOf_relocate r inside.self (isDirective_of_isSection isSection), sectionName_relocate,
    sectionName_relocate]

theorem toSection_relocate (n : Node) : toSection (n.relocate r) = (toSection n).relocate r := by
  rw [toSection, toSection, sectionName_relocate, Node.block_relocate, withoutSectionsIn_relocate,
    Node.relocate_node, Node.span?_relocate, Node.diagnostics_relocate]
  rfl

def relocateDefined (s : List Node × List Text × List Diagnostic) :
    List Node × List Text × List Diagnostic :=
  (s.1.map (Node.relocate r), s.2.1, s.2.2.map r.finding)

mutual

theorem defineSections_relocate (names : List Text) {n : Node}
    (placed : n.Every (Headed Head.Placed)) :
    defineSections names (n.relocate r) = relocateDefined r (defineSections names n) := by
  cases n with
  | absent => rfl
  | node head children =>
    have inside := defineSectionsIn_relocate names placed.inside
    have same := isSection_relocate r (.node head children)
    have name := sectionName_relocate r (.node head children)
    have defined := toSection_relocate r (.node head children)
    have duplicate : isSection (.node head children) = true →
        duplicateFinding ((Node.node head children).relocate r) =
          r.finding (duplicateFinding (.node head children)) := by
      intro isSection
      rw [duplicateFinding, duplicateFinding, Relocation.finding_error, name,
        spanOf_relocate r placed.self (isDirective_of_isSection isSection)]
    rw [Node.relocate_node] at same name defined duplicate
    change defineSectionsIn names (children.map _) = _ at inside
    rw [Node.relocate_node, defineSections, defineSections]
    dsimp only
    rw [same, name, inside]
    split
    · next isSection =>
      split
      · rw [duplicate isSection]
        rfl
      · rw [defined]
        rfl
    · rw [relocateDefined, relocateDefined, List.map_singleton, Node.relocate_node]
      rfl

theorem defineSectionsIn_relocate (names : List Text) {ns : List Node} (placed : AllPlaced ns) :
    defineSectionsIn names (ns.map (Node.relocate r)) =
      relocateDefined r (defineSectionsIn names ns) := by
  cases ns with
  | nil => rfl
  | cons n ns =>
    have first := defineSections_relocate names placed.head
    have rest := defineSectionsIn_relocate (defineSections names n).2.1 placed.tail
    rw [List.map_cons, defineSectionsIn, defineSectionsIn, first]
    dsimp only [relocateDefined] at rest ⊢
    rw [rest, List.map_append, List.map_append]

end

theorem applySections_relocate {d : Document} (placed : d.Placed) :
    applySections (d.relocate r) = (applySections d).relocate r := by
  have defined := defineSectionsIn_relocate r [] placed
  have nested : (outerSectionsIn (d.children.map (Node.relocate r))).flatMap nestedFindings =
      ((outerSectionsIn d.children).flatMap nestedFindings).map r.finding := by
    rw [outerSectionsIn_relocate, List.flatMap_map, List.map_flatMap]
    exact List.flatMap_congr fun n member =>
      nestedFindings_relocate r (outerSectionsIn_every placed n member)
  rw [applySections, applySections, Document.children_relocate, defined, nested]
  dsimp only [relocateDefined]
  rw [← List.map_append, Document.report_relocate]
  rfl

end Sections

/-! ## The model -/

section Model

variable (d : Document)

theorem modelType_relocate (r : Relocation) : modelType (d.relocate r) = modelType d := by
  rw [modelType, modelType, Document.header_relocate, Document.firstTokensOf_relocate,
    List.head?_map, Document.primaryClass?_relocate]
  cases (d.firstTokensOf .model).head? <;> cases d.primaryClass? <;> rfl

theorem addModelAlias_relocate (r : Relocation) :
    addModelAlias (d.relocate r) = (addModelAlias d).relocate r := by
  have test : isModelAlias ∘ Node.relocate r = isModelAlias := by
    funext n
    rcases n with _ | ⟨⟨content, span?, diagnostics, label?⟩, children⟩
    · rfl
    · cases content <;> rfl
  refine d.changeNamespace_relocate fun _ members => ?_
  rw [List.any_map, test, apply_ite (List.map (Node.relocate r))]
  rfl

/-- A document with its model type, and with the alias for it where tools see one. -/
def nameModel (model : Text) : Document :=
  if d.header.options.designTime then
    addModelAlias { d with header := { d.header with modelType := model } }
  else { d with header := { d.header with modelType := model } }

/-- A document with the model type in its base type. -/
def placeModel (model : Text) : Document :=
  d.changeClassShape fun c =>
    if c.baseType.containsText modelPlaceholder then
      { c with
        baseType := replaceFirst c.baseType modelPlaceholder ("<" ++ model ++ ">")
        baseTypeSpan? := modelSpan? d }
    else c

theorem applyModel_eq :
    applyModel d = match d.primaryClass? with
      | none => d
      | some _ => placeModel (nameModel d (modelType d)) (modelType d) := rfl

theorem nameModel_relocate (r : Relocation) (model : Text) :
    nameModel (d.relocate r) model = (nameModel d model).relocate r := by
  rw [nameModel, nameModel, apply_ite (Document.relocate r), ← addModelAlias_relocate]
  rfl

variable {number : Nat → Nat} (injective : number.Injective)

include injective

/-- The place of the model type moves with the document. -/
theorem modelSpan?_renumber :
    modelSpan? (d.relocate (.renumber number)) =
      (modelSpan? d).map (Relocation.renumber number).span := by
  have inherits : ((d.relocate (.renumber number)).directivesOf .inherits).head?.bind Node.span? =
      (((d.directivesOf .inherits).head?).bind Node.span?).map
        (Relocation.renumber number).span := by
    rw [Document.directivesOf_relocate, List.head?_map]
    cases (d.directivesOf .inherits).head? with
    | none => rfl
    | some n => exact Node.span?_relocate _ n
  have spans : ((d.relocate (.renumber number)).firstTokensOf .model).filterMap Prod.snd =
      ((d.firstTokensOf .model).filterMap Prod.snd).map (Relocation.renumber number).span := by
    rw [Document.firstTokensOf_relocate, List.filterMap_map, List.map_filterMap]
    rfl
  rw [modelSpan?, modelSpan?, inherits, spans, List.filter_map, List.getLast?_map]
  refine congrArg (Option.map _) (congrArg List.getLast? (List.filter_congr fun s _ => ?_))
  cases ((d.directivesOf .inherits).head?).bind Node.span? with
  | none => rfl
  | some i =>
    have files := Relocation.file_renumber injective s i
    exact congrArg (· && decide (i.stop ≤ s.start)) files

/-- A base type with the model type in it moves with the document. -/
theorem placeModel_renumber (model : Text) :
    placeModel (d.relocate (.renumber number)) model =
      (placeModel d model).relocate (.renumber number) := by
  refine d.changeClassShape_relocate fun c => ?_
  rw [modelSpan?_renumber d injective, apply_ite (ClassShape.relocate (.renumber number))]
  rfl

theorem applyModel_renumber :
    applyModel (d.relocate (.renumber number)) =
      (applyModel d).relocate (.renumber number) := by
  rw [applyModel_eq, applyModel_eq, Document.primaryClass?_relocate, modelType_relocate,
    nameModel_relocate, placeModel_renumber _ injective]
  cases d.primaryClass? <;> rfl

end Model

/-! ## Pages -/

section Pages

theorem isContent_relocate (r : Relocation) (n : Node) :
    isContent (n.relocate r) = isContent n := by
  have text := Node.text_relocate r n
  rcases n with _ | ⟨⟨content, span?, diagnostics, label?⟩, children⟩
  · rfl
  · cases content with
    | markup => exact congrArg (fun t => !Text.isAllBlank t) text
    | _ => rfl

variable {number : Nat → Nat} (injective : number.Injective) (file : Nat)

include injective

theorem isPageOf_renumber (n : Node) :
    isPageOf (some (number file)) (n.relocate (.renumber number)) = isPageOf (some file) n := by
  unfold isPageOf
  rw [Node.isDirectiveOf_relocate, Node.span?_relocate]
  cases n.span? with
  | none => rfl
  | some span =>
    have same : (number span.file == number file) = (span.file == file) := by
      rw [Bool.eq_iff_iff, beq_iff_eq, beq_iff_eq]
      exact injective.eq_iff
    exact congrArg (n.isDirectiveOf .page && ·) same

theorem beforePage_renumber (d : Document) :
    beforePage (d.relocate (.renumber number)) (some (number file)) =
      (beforePage d (some file)).map (Node.relocate (.renumber number)) := by
  rw [beforePage, beforePage, Document.primaryMethod?_relocate, Document.children_relocate,
    Node.placeIn?_relocate (Node.isPrimaryMethod_relocate _),
    Node.placeIn?_relocate (isPageOf_renumber injective file)]
  cases d.primaryMethod? with
  | none => rfl
  | some m =>
    cases Node.placeIn? Node.isPrimaryMethod 0 d.children with
    | none => rfl
    | some method =>
      cases Node.placeIn? (isPageOf (some file)) 0 d.children with
      | none => rfl
      | some page =>
        simp only [Option.map_some]
        split
        · rw [List.map_take]
        · rfl

theorem applyPage_renumber {d : Document} (placed : d.Placed) :
    applyPage (some (number file)) (d.relocate (.renumber number)) =
      (applyPage (some file) d).relocate (.renumber number) := by
  have found : (d.relocate (.renumber number)).nodes.find? (isPageOf (some (number file))) =
      (d.nodes.find? (isPageOf (some file))).map (Node.relocate (.renumber number)) := by
    rw [Document.nodes_relocate, List.find?_map]
    congr 2
    funext n
    exact isPageOf_renumber injective file n
  have content : (beforePage (d.relocate (.renumber number)) (some (number file))).any isContent =
      (beforePage d (some file)).any isContent := by
    rw [beforePage_renumber injective, List.any_map]
    congr 1
    funext n
    exact isContent_relocate _ n
  rw [applyPage, applyPage, Document.header_relocate, found]
  split
  · rfl
  · cases among : d.nodes.find? (isPageOf (some file)) with
    | none => rfl
    | some page =>
      have inside := Every.of_mem_preorderAll placed page (List.mem_of_find?_eq_some among)
      have isPage : page.isDirectiveOf .page = true := by
        have fits := List.find?_some among
        unfold isPageOf at fits
        exact ((Bool.and_eq_true _ _).mp fits).1
      have place := spanOf_relocate (.renumber number) inside.self
        (isDirective_of_isDirectiveOf isPage)
      dsimp only [Option.map_some]
      rw [content, Node.firstToken?_relocate, place]
      have reported : (if (beforePage d (some file)).any isContent then
            (d.relocate (.renumber number)).report [.error .pageMisplaced
              ((Relocation.renumber number).span (spanOf page))
              "the @page directive must precede all other elements defined in a template"]
          else d.relocate (.renumber number)) =
          (if (beforePage d (some file)).any isContent then
            d.report [.error .pageMisplaced (spanOf page)
              "the @page directive must precede all other elements defined in a template"]
          else d).relocate (.renumber number) := by
        rw [apply_ite (Document.relocate (.renumber number)), ← Document.report_relocate]
        rfl
      rw [reported]
      cases page.firstToken? with
      | none => rfl
      | some token => exact Document.changeClassShape_relocate _ fun _ => rfl

end Pages

end Dialect

/-! ## Optimizations -/

namespace IR

namespace Node

section Joining

variable {number : Nat → Nat} (injective : number.Injective)

include injective

theorem joinSpans_renumber (a b : Option Span) :
    joinSpans (a.map (Relocation.renumber number).span)
        (b.map (Relocation.renumber number).span) =
      (joinSpans a b).map (Relocation.renumber number).span := by
  rcases a with _ | s <;> rcases b with _ | t
  · rfl
  · rfl
  · rfl
  · simp only [joinSpans, Option.map_some, Relocation.file_renumber injective,
      Relocation.cover_renumber injective]
    rw [apply_ite (Option.map _)]
    rfl

theorem joinMarkup?_renumber (a b : Node) :
    joinMarkup? (a.relocate (.renumber number)) (b.relocate (.renumber number)) =
      (joinMarkup? a b).map (relocate (.renumber number)) := by
  have spans := joinSpans_renumber injective a.span? b.span?
  rcases a with _ | ⟨⟨content, span?, diagnostics, label?⟩, children⟩
  · rfl
  rcases b with _ | ⟨⟨content', span?', diagnostics', label?'⟩, children'⟩
  · cases content <;> rfl
  · rw [relocate_node, relocate_node]
    cases content with
    | markup =>
      cases content' with
      | markup =>
        simp only [joinMarkup?, Option.map_some, relocate_node, List.map_append]
        refine congrArg some (congrArg (node · _) ?_)
        rw [Head.relocate, Head.mk.injEq]
        exact ⟨rfl, spans, List.map_append.symm, rfl⟩
      | _ => rfl
    | _ => cases content' <;> rfl

theorem joinRuns_renumber (first : Node) (ns : List Node) :
    joinRuns (first.relocate (.renumber number)) (ns.map (relocate (.renumber number))) =
      (joinRuns first ns).map (relocate (.renumber number)) := by
  induction ns generalizing first with
  | nil => rfl
  | cons n ns ih =>
    rw [List.map_cons, joinRuns, joinRuns, joinMarkup?_renumber injective]
    cases joinMarkup? first n with
    | none => rw [Option.map_none, List.map_cons, ← ih]
    | some joined => exact ih joined

theorem joinSiblings_renumber (ns : List Node) :
    joinSiblings (ns.map (relocate (.renumber number))) =
      (joinSiblings ns).map (relocate (.renumber number)) := by
  cases ns with
  | nil => rfl
  | cons n ns => exact joinRuns_renumber injective n ns

theorem mergeLevels_renumber (levels : Nat) (n : Node) :
    mergeLevels levels (n.relocate (.renumber number)) =
      (mergeLevels levels n).relocate (.renumber number) := by
  induction levels generalizing n with
  | zero => rfl
  | succ levels ih =>
    cases n with
    | absent => rfl
    | node head children =>
      rw [relocate_node, mergeLevels, mergeLevels, relocate_node, joinSiblings_renumber injective,
        List.map_map, List.map_map]
      simp only [Function.comp_def, ih]

end Joining

variable (r : Relocation)

mutual

theorem height_relocate (n : Node) : (n.relocate r).height = n.height := by
  cases n with
  | absent => rfl
  | node head children => rw [relocate_node, height, height, heightAll_relocate children]

theorem heightAll_relocate (ns : List Node) : heightAll (ns.map (relocate r)) = heightAll ns := by
  cases ns with
  | nil => rfl
  | cons n ns => rw [List.map_cons, heightAll, heightAll, height_relocate n, heightAll_relocate ns]

end

mutual

theorem dropDirectives_relocate (n : Node) :
    dropDirectives (n.relocate r) = (dropDirectives n).relocate r := by
  cases n with
  | absent => rfl
  | node head children =>
    rw [relocate_node, dropDirectives, dropDirectives, relocate_node,
      dropDirectivesAll_relocate children]

theorem dropDirectivesAll_relocate (ns : List Node) :
    dropDirectivesAll (ns.map (relocate r)) = (dropDirectivesAll ns).map (relocate r) := by
  cases ns with
  | nil => rfl
  | cons n ns =>
    rw [List.map_cons, dropDirectivesAll, dropDirectivesAll, isDirective_relocate]
    split
    · exact dropDirectivesAll_relocate ns
    · rw [List.map_cons, dropDirectives_relocate n, dropDirectivesAll_relocate ns]

end

end Node

namespace Document

variable (r : Relocation) (d : Document)

theorem mergeMarkup_renumber {number : Nat → Nat} (injective : number.Injective) :
    (d.relocate (.renumber number)).mergeMarkup = d.mergeMarkup.relocate (.renumber number) := by
  rw [mergeMarkup, mergeMarkup, toNode_relocate, Node.mergeMarkup, Node.mergeMarkup,
    Node.height_relocate, Node.mergeLevels_renumber injective, Node.children_relocate]
  rfl

theorem removeDirectives_relocate :
    (d.relocate r).removeDirectives = d.removeDirectives.relocate r := by
  have found : ((d.relocate r).nodes.filter Node.isDirective).flatMap Node.diagnostics =
      ((d.nodes.filter Node.isDirective).flatMap Node.diagnostics).map r.finding := by
    have test : Node.isDirective ∘ Node.relocate r = Node.isDirective :=
      funext fun n => Node.isDirective_relocate r n
    rw [nodes_relocate, List.filter_map, test, List.flatMap_map, List.map_flatMap]
    simp only [Node.diagnostics_relocate]
  rw [removeDirectives, removeDirectives, found, children_relocate,
    Node.dropDirectivesAll_relocate, report_relocate]
  rfl

theorem isBodyDropped_relocate (m : MethodShape) (body : List Node) :
    isBodyDropped m (body.map (Node.relocate r)) = isBodyDropped m body := by
  rw [isBodyDropped, isBodyDropped, List.isEmpty_map]
  congr 1
  rcases body with _ | ⟨n, _ | ⟨next, rest⟩⟩
  · rfl
  · rcases n with _ | ⟨⟨content, span?, diagnostics, label?⟩, children⟩
    · rfl
    · rw [List.map_singleton, Node.relocate_node]
      cases content with
      | statement =>
        have texts : (children.map (Node.relocate r)).flatMap Node.tokenText =
            children.flatMap Node.tokenText := by
          rw [List.flatMap_map]
          simp only [Node.tokenText_relocate]
        exact congrArg (· == completedTask) texts
      | _ => rfl
  · rcases n with _ | ⟨⟨content, span?, diagnostics, label?⟩, children⟩
    · rfl
    · cases content <;> rfl

theorem withoutBody_relocate (head : Head) (m : MethodShape) :
    withoutBody (head.relocate r) m = (withoutBody head m).relocate r := by
  rw [withoutBody, withoutBody, Node.relocate_node, apply_ite (List.map (Node.relocate r))]
  rfl

theorem dropBody_relocate : (d.relocate r).dropBody = d.dropBody.relocate r := by
  have method : (d.relocate r).nodes.find? Node.isPrimaryMethod =
      (d.nodes.find? Node.isPrimaryMethod).map (Node.relocate r) := by
    have test : Node.isPrimaryMethod ∘ Node.relocate r = Node.isPrimaryMethod :=
      funext fun n => Node.isPrimaryMethod_relocate r n
    rw [nodes_relocate, List.find?_map, test]
  rw [dropBody, dropBody, header_relocate, method, primaryMethod?_relocate]
  split
  · rfl
  · cases d.nodes.find? Node.isPrimaryMethod with
    | none => rfl
    | some n =>
      cases d.primaryMethod? with
      | none => rfl
      | some m =>
        dsimp only [Option.map_some]
        rw [isBodyDropped_relocate, Node.allDiagnostics_relocate, report_relocate]
        split
        · rfl
        · exact changeMethod_relocate _ fun head m _ => withoutBody_relocate r head m

theorem helperFields_relocate (seen : List Digest) (declared : List Text) (hs : List TagHelper) :
    (helperFields seen declared hs).map (Node.relocate r) = helperFields seen declared hs := by
  induction hs generalizing seen declared with
  | nil => rfl
  | cons h hs ih =>
    rw [helperFields]
    split
    · exact ih seen declared
    · dsimp only
      split
      · exact ih _ _
      · rw [List.map_cons, ih]
        rfl

theorem declareHelpers_relocate : (d.relocate r).declareHelpers = d.declareHelpers.relocate r := by
  have helpers : (d.relocate r).nodes.flatMap helpersOf = d.nodes.flatMap helpersOf := by
    have each : ∀ n : Node, helpersOf (n.relocate r) = helpersOf n := by
      intro n
      rcases n with _ | ⟨⟨content, span?, diagnostics, label?⟩, children⟩
      · rfl
      · cases content <;> rfl
    rw [nodes_relocate, List.flatMap_map]
    simp only [each]
  have fields : ∀ members : List Node,
      (Node.preorderAll (members.map (Node.relocate r))).filterMap fieldName? =
        (Node.preorderAll members).filterMap fieldName? := by
    have each : fieldName? ∘ Node.relocate r = fieldName? := by
      funext n
      rcases n with _ | ⟨⟨content, span?, diagnostics, label?⟩, children⟩
      · rfl
      · cases content <;> rfl
    intro members
    rw [Node.preorderAll_relocate, List.filterMap_map, each]
  rw [declareHelpers, declareHelpers, helpers]
  refine d.changeClass_relocate fun _ members => ?_
  dsimp only
  rw [fields, List.map_append, helperFields_relocate]

end Document

end IR

end TemplateCompiler
