import TemplateCompiler.Pipeline.Lowering
import TemplateCompiler.Proofs.RelocatedTree

/-!
# Relocated documents

A relocation is carried through the intermediate tree: to the spans of nodes, to their findings,
and to the place where the base type of a class was written.

Lowering carries spans along.  It looks at them only where it covers the parts of a value by one
span, and a one-to-one renumbering of files does not change what that covers.  So the document of
renumbered trees is the renumbered document (`Lowering.document_moved`).
-/

namespace TemplateCompiler

namespace IR

def ClassShape.relocate (r : Relocation) (c : ClassShape) : ClassShape :=
  { c with baseTypeSpan? := c.baseTypeSpan?.map r.span }

def Content.relocate (r : Relocation) : Content → Content
  | .classDecl shape => .classDecl (shape.relocate r)
  | c => c

def Head.relocate (r : Relocation) (h : Head) : Head where
  content := h.content.relocate r
  span? := h.span?.map r.span
  diagnostics := h.diagnostics.map r.finding
  label? := h.label?

namespace Node

mutual

def relocate (r : Relocation) : Node → Node
  | absent => absent
  | node head children => node (head.relocate r) (relocateAll r children)

def relocateAll (r : Relocation) : List Node → List Node
  | [] => []
  | n :: ns => relocate r n :: relocateAll r ns

end

variable (r : Relocation)

theorem relocateAll_eq_map (ns : List Node) : relocateAll r ns = ns.map (relocate r) := by
  induction ns with
  | nil => rfl
  | cons n ns ih => rw [relocateAll, ih, List.map_cons]

@[simp]
theorem relocate_absent : relocate r absent = absent := rfl

@[simp]
theorem relocate_node (head : Head) (children : List Node) :
    relocate r (node head children) = node (head.relocate r) (children.map (relocate r)) := by
  rw [relocate, relocateAll_eq_map]

end Node

def Document.relocate (r : Relocation) (d : Document) : Document :=
  { d with
    span? := d.span?.map r.span
    diagnostics := d.diagnostics.map r.finding
    children := d.children.map (Node.relocate r) }

end IR

namespace Lowering

open IR

/-! ## Markup -/

def Piece.relocate (r : Relocation) : Piece → Piece
  | .literal text => .literal text
  | .node n => .node (n.relocate r)

section Markup

variable (r : Relocation)

@[simp]
theorem map_relocate_markup (text : Text) : (markup text).map (Node.relocate r) = markup text := by
  rw [markup]
  split <;> rfl

theorem gatherFrom_relocate (pending : Text) (ps : List Piece) :
    gatherFrom pending (ps.map (Piece.relocate r)) =
      (gatherFrom pending ps).map (Node.relocate r) := by
  induction ps generalizing pending with
  | nil => exact (map_relocate_markup r pending).symm
  | cons p ps ih =>
    cases p with
    | literal text => exact ih (pending ++ text)
    | node n =>
      rw [List.map_cons, Piece.relocate, gatherFrom, gatherFrom, ih, List.map_append,
        List.map_cons, map_relocate_markup]

theorem plainPart_relocate (p : Syntax.ValuePart) :
    plainPart (p.relocate r) = (plainPart p).relocate r := by
  cases p <;> rfl

theorem attributePart_relocate (p : Syntax.ValuePart) :
    attributePart (p.relocate r) = (attributePart p).relocate r := by
  cases p <;> rfl

theorem map_plainPart_relocate (ps : List Syntax.ValuePart) :
    (ps.map (Syntax.ValuePart.relocate r)).map plainPart =
      (ps.map plainPart).map (Piece.relocate r) := by
  rw [List.map_map, List.map_map]
  exact List.map_congr_left fun p _ => plainPart_relocate r p

theorem attributePieces_relocate (features : LanguageFeatures) (a : Syntax.Attribute) :
    attributePieces features (a.relocate r) =
      (attributePieces features a).map (Piece.relocate r) := by
  have parts := map_plainPart_relocate r a.value
  have value : (a.relocate r).value = a.value.map (Syntax.ValuePart.relocate r) := rfl
  have minimized : (a.relocate r).minimized = a.minimized := rfl
  have name : (a.relocate r).name = a.name := rfl
  have quote : (a.relocate r).quote? = a.quote? := rfl
  rw [attributePieces, attributePieces, Syntax.Attribute.isCode_relocate,
    Syntax.Attribute.literalValue?_relocate, value, minimized, name, quote, parts]
  split
  · rfl
  · split
    · rfl
    · split
      · rw [List.map_append]
        rfl
      · have attributes : (a.value.map (Syntax.ValuePart.relocate r)).map attributePart =
            (a.value.map attributePart).map (Node.relocate r) := by
          rw [List.map_map, List.map_map]
          exact List.map_congr_left fun p _ => attributePart_relocate r p
        rw [attributes, List.map_singleton, Piece.relocate, Node.located, Node.located,
          Node.relocate_node]
        rfl

theorem tagPieces_relocate (features : LanguageFeatures) (tag : Syntax.StartTag) :
    tagPieces features (tag.relocate r) = (tagPieces features tag).map (Piece.relocate r) := by
  have attributes : (tag.attributes.map (Syntax.Attribute.relocate r)).flatMap
        (attributePieces features) =
      (tag.attributes.flatMap (attributePieces features)).map (Piece.relocate r) := by
    rw [List.flatMap_map, List.map_flatMap]
    exact List.flatMap_congr fun a _ => attributePieces_relocate r features a
  rw [tagPieces, tagPieces, List.map_append, List.map_cons, ← attributes]
  rfl

theorem markupValue_relocate (value : List Syntax.ValuePart) :
    markupValue (value.map (Syntax.ValuePart.relocate r)) =
      (markupValue value).map (Node.relocate r) := by
  rw [markupValue, markupValue, List.flatMap_map, List.map_flatMap]
  refine List.flatMap_congr fun p _ => ?_
  cases p with
  | text | transition => exact (map_relocate_markup r _).symm
  | code => rfl

theorem tokens_relocate (head : Syntax.DirectiveHead) :
    tokens (head.relocate r) = (tokens head).map (Node.relocate r) := by
  rw [tokens, tokens, Syntax.DirectiveHead.relocate, List.map_map, List.map_map]
  rfl

theorem malformed_relocate (span : Span) (head : Syntax.DirectiveHead) :
    malformed (r.span span) (head.relocate r) = (malformed span head).relocate r := by
  rw [malformed, malformed, tokens_relocate, Node.relocate_node]
  rfl

theorem directive_relocate (span : Span) (head : Syntax.DirectiveHead) (block : List Node) :
    directive (r.span span) (head.relocate r) (block.map (Node.relocate r)) =
      (directive span head block).relocate r := by
  rw [directive, directive, tokens_relocate, ← List.map_append, Node.relocate_node]
  rfl

theorem importNamespace_relocate (seen : List Text) (head : Syntax.DirectiveHead) :
    importNamespace seen (head.relocate r) =
      ((importNamespace seen head).1.map (Node.relocate r), (importNamespace seen head).2) := by
  have tokens : (head.relocate r).tokens =
      head.tokens.map (Syntax.DirectiveToken.relocate r) := rfl
  rw [importNamespace, importNamespace, tokens]
  cases head.tokens with
  | nil => rfl
  | cons t rest =>
    simp only [List.map_cons]
    rw [apply_ite Prod.fst, apply_ite Prod.snd, apply_ite (List.map (Node.relocate r))]
    change (if seen.contains t.content then _ else _) = _
    split <;> rfl

/-- The directives of an import that are lowered. -/
theorem filter_isLoweredImport_relocate (hidden : List Text) (ns : List Syntax.Node) :
    (Syntax.Node.relocateAll r ns).filter (isLoweredImport hidden) =
      (ns.filter (isLoweredImport hidden)).map (Syntax.Node.relocate r) := by
  have each : isLoweredImport hidden ∘ Syntax.Node.relocate r = isLoweredImport hidden := by
    funext n
    cases n <;> rfl
  rw [Syntax.Node.relocateAll_eq_map, List.filter_map, each]

end Markup

end Lowering

/-! ## Renumbering -/

section Renumbering

variable {number : Nat → Nat} (injective : number.Injective)

include injective

/-- Files with different numbers get different numbers. -/
theorem Relocation.file_renumber (s t : Span) :
    (((renumber number).span s).file == ((renumber number).span t).file) = (s.file == t.file) := by
  rw [Bool.eq_iff_iff, beq_iff_eq, beq_iff_eq]
  exact injective.eq_iff

theorem Relocation.cover_renumber (s t : Span) :
    ((renumber number).span s).cover ((renumber number).span t) =
      (renumber number).span (s.cover t) := by
  rw [Span.cover, Span.cover, file_renumber injective]
  split <;> rfl

end Renumbering

namespace Lowering

open IR

variable {number : Nat → Nat} (injective : number.Injective)

theorem span_relocate (r : Relocation) (p : Syntax.ValuePart) :
    (p.relocate r).span = r.span p.span := by
  cases p <;> rfl

theorem partCode_relocate (r : Relocation) (p : Syntax.ValuePart) :
    partCode (p.relocate r) = partCode p := by
  cases p <;> rfl

include injective

theorem foldl_cover_renumber (ps : List Syntax.ValuePart) (s : Span) :
    (ps.map (Syntax.ValuePart.relocate (.renumber number))).foldl (fun s q => s.cover q.span)
        ((Relocation.renumber number).span s) =
      (Relocation.renumber number).span (ps.foldl (fun s q => s.cover q.span) s) := by
  induction ps generalizing s with
  | nil => rfl
  | cons p ps ih =>
    rw [List.map_cons, List.foldl_cons, List.foldl_cons, span_relocate,
      Relocation.cover_renumber injective, ih]

theorem codeValue_renumber (value : List Syntax.ValuePart) :
    codeValue (value.map (Syntax.ValuePart.relocate (.renumber number))) =
      (codeValue value).map (Node.relocate (.renumber number)) := by
  cases value with
  | nil => rfl
  | cons p ps =>
    rw [List.map_cons, codeValue, codeValue, span_relocate, foldl_cover_renumber injective,
      List.map_singleton, Node.located, Node.located, Node.relocate_node, ← List.map_cons,
      List.map_map, List.map_map]
    simp only [Function.comp_def, partCode_relocate]
    rfl

theorem helperAttribute_renumber (a : Syntax.HelperAttribute) :
    helperAttribute (a.relocate (.renumber number)) =
      (helperAttribute a).map (Node.relocate (.renumber number)) := by
  have bound : (a.relocate (.renumber number)).bound = a.bound := rfl
  have value : (a.relocate (.renumber number)).value =
      a.value.map (Syntax.ValuePart.relocate (.renumber number)) := rfl
  rw [helperAttribute, helperAttribute, bound, value, markupValue_relocate,
    codeValue_renumber injective]
  split
  · rw [List.map_singleton, Node.located, Node.located, Node.relocate_node]
    rfl
  · rw [List.map_map]
    refine List.map_congr_left fun b _ => ?_
    have content : boundContent (a.relocate (.renumber number)) b = boundContent a b := rfl
    have kept : (boundContent a b).relocate (.renumber number) = boundContent a b := by
      rw [boundContent]
      split
      · split <;> rfl
      · rfl
    rw [content, Function.comp_apply, Node.located, Node.located, Node.relocate_node,
      Head.relocate, kept, apply_ite (List.map (Node.relocate (.renumber number)))]
    rfl

/-! ## Nodes -/

omit injective

mutual

theorem node_renumber (injective : number.Injective) (features : LanguageFeatures)
    (seen : List Text) (n : Syntax.Node) :
    node features seen (n.relocate (.renumber number)) =
      ((node features seen n).1.map (Node.relocate (.renumber number)),
        (node features seen n).2) := by
  cases n with
  | text s text => exact congrArg (·, seen) (map_relocate_markup _ text).symm
  | transition => exact congrArg (·, seen) (map_relocate_markup _ _).symm
  | markupComment s text => exact congrArg (·, seen) (map_relocate_markup _ _).symm
  | comment => rfl
  | expression => rfl
  | codeBlock => rfl
  | directive s head body =>
    have imported : isImport (head.relocate (.renumber number)) = isImport head := rfl
    have kind : (head.relocate (.renumber number)).descriptor.kind = head.descriptor.kind := rfl
    rw [Syntax.Node.relocate, node, node, Syntax.DirectiveHead.isMalformed_relocate, imported, kind]
    split
    · rw [malformed_relocate]
      rfl
    · split
      · exact importNamespace_relocate _ seen head
      · cases head.descriptor.kind with
        | markupBlock =>
          have inside := nodes_renumber injective features seen body
          dsimp only
          rw [inside, directive_relocate]
          rfl
        | codeBlock =>
          exact congrArg (([·], seen))
            (directive_relocate _ s head [.located .statement s [.codeToken head.code]])
        | _ => exact congrArg (([·], seen)) (directive_relocate _ s head [])
  | element s tag endTag? body =>
    have inside := nodes_renumber injective features seen body
    have pieces := tagPieces_relocate (.renumber number) features tag
    have ended : (endTag?.map (Relocation.renumber number).span).isSome = endTag?.isSome :=
      Option.isSome_map
    have name : (tag.relocate (.renumber number)).name = tag.name := rfl
    rw [Syntax.Node.relocate, node, node, inside, pieces, ended, name, gather, gather,
      gatherFrom_relocate]
    dsimp only
    rw [List.map_append, List.map_append, apply_ite (List.map (Node.relocate (.renumber number))),
      map_relocate_markup]
    rfl
  | helper s head body =>
    have inside := nodes_renumber injective features seen body
    have attributes : (head.attributes.map
          (Syntax.HelperAttribute.relocate (.renumber number))).flatMap helperAttribute =
        (head.attributes.flatMap helperAttribute).map (Node.relocate (.renumber number)) := by
      rw [List.flatMap_map, List.map_flatMap]
      exact List.flatMap_congr fun a _ => helperAttribute_renumber injective a
    have empty : (Syntax.Node.relocateAll (.renumber number) body).isEmpty = body.isEmpty := by
      cases body <;> rfl
    have mode : (head.relocate (.renumber number)).mode = head.mode := rfl
    rw [Syntax.Node.relocate, node, node, inside, mode, empty, Syntax.HelperHead.relocate,
      attributes]
    dsimp only
    rw [List.map_singleton, Node.located, Node.located, Node.relocate_node, List.map_append,
      apply_ite (List.map (Node.relocate (.renumber number))), List.map_singleton, Node.synthetic,
      Node.synthetic, Node.relocate_node]
    rfl

theorem nodes_renumber (injective : number.Injective) (features : LanguageFeatures)
    (seen : List Text) (ns : List Syntax.Node) :
    nodes features seen (Syntax.Node.relocateAll (.renumber number) ns) =
      ((nodes features seen ns).1.map (Node.relocate (.renumber number)),
        (nodes features seen ns).2) := by
  cases ns with
  | nil => rfl
  | cons n ns =>
    simp only [Syntax.Node.relocateAll, nodes, node_renumber injective features seen n,
      nodes_renumber injective features (node features seen n).2 ns, List.map_append]

end

/-! ## Documents -/

theorem onceKeywords_moved {r : Relocation} {tree tree' : Syntax.Tree}
    (moved : Syntax.Tree.Moved r tree tree') : onceKeywords tree' = onceKeywords tree := by
  rw [onceKeywords, onceKeywords, moved.directives, List.filter_map, List.map_map]
  rfl

/-- Renumbered trees are lowered to the renumbered document. -/
theorem document_moved (injective : number.Injective) {tree tree' : Syntax.Tree}
    {imports imports' : List Syntax.Tree}
    (moved : Syntax.Tree.Moved (.renumber number) tree tree')
    (importsMoved : List.Forall₂ (Syntax.Tree.Moved (.renumber number)) imports imports')
    (features : tree'.options.features = tree.options.features)
    (path : tree'.source.path = tree.source.path) :
    document tree' imports' = (document tree imports).relocate (.renumber number) := by
  have directives : (imports'.flatMap fun t => t.body.filter (isLoweredImport (onceKeywords tree))) =
      Syntax.Node.relocateAll (.renumber number)
        (imports.flatMap fun t => t.body.filter (isLoweredImport (onceKeywords tree))) := by
    rw [Syntax.Node.relocateAll_eq_map]
    refine List.flatMap_eq_map_of_forall₂ importsMoved fun same => ?_
    rw [same.body, filter_isLoweredImport_relocate]
  have found : imports'.flatMap Syntax.Tree.diagnostics =
      (imports.flatMap Syntax.Tree.diagnostics).map (Relocation.renumber number).finding :=
    List.flatMap_eq_map_of_forall₂ importsMoved fun same => same.diagnostics
  rw [document, document, onceKeywords_moved moved, features, path, directives, found,
    moved.diagnostics, moved.body, nodes_renumber injective]
  dsimp only
  rw [nodes_renumber injective, Document.relocate, List.map_append, List.map_append]
  rfl

end Lowering

end TemplateCompiler
