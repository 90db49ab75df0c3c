import TemplateCompiler.Pipeline.Lowering
import TemplateCompiler.Syntax.Parser

/-!
# The content of a lowered document

Read in order, a tree of the intermediate language is a sequence of strands: literal text and code.
An attribute with code in its value has the text that opens it, then its parts, and then the text
that closes it.  Where one piece of literal text ends and the next begins is of no meaning, so
neighbouring literals are joined.

Versions of the language differ in how an attribute that carries data is lowered: to a node of its
own, or to literal text and code among that of the element.  The sequence of strands is the same.
The statement holds for more detailed sequences as well, in which the heads of chosen nodes are
strands too; only markup and the nodes of attributes are never among them.
-/

namespace TemplateCompiler

namespace IR

/-- A piece of the content of a tree that is taken apart from the front to the back, where
neighbouring literal texts are not told from one another. -/
inductive Strand where
  | literal (text : Text)
  | code (text : Text)
  /-- The start of a node that is told from its surroundings. -/
  | opened (head : Head)
  /-- The end of such a node. -/
  | closed
  deriving DecidableEq

namespace Strand

/-- Join neighbouring literals.  `pending` is the literal text since the last other strand. -/
def joinedFrom (pending : Text) : List Strand → List Strand
  | [] => if pending.isEmpty then [] else [literal pending]
  | literal text :: rest => joinedFrom (pending ++ text) rest
  | s :: rest => (if pending.isEmpty then [] else [literal pending]) ++ s :: joinedFrom [] rest

/-- Join neighbouring literals, and drop those that are empty.  After this, how literal text was
divided over nodes and tokens cannot be seen any more. -/
def joined (strands : List Strand) : List Strand := joinedFrom [] strands

/-- Two sequences have the same content: they can stand for each other wherever literals are
joined. -/
def Agree (a b : List Strand) : Prop :=
  ∀ (pending : Text) (rest : List Strand),
    joinedFrom pending (a ++ rest) = joinedFrom pending (b ++ rest)

namespace Agree

variable {a b c d : List Strand}

theorem refl (a : List Strand) : Agree a a := fun _ _ => rfl

theorem symm (same : Agree a b) : Agree b a := fun pending rest => (same pending rest).symm

theorem trans (first : Agree a b) (second : Agree b c) : Agree a c := by
  intro pending rest
  rw [first pending rest, second pending rest]

theorem joined_eq (same : Agree a b) : joined a = joined b := by
  simpa [joined] using same [] []

/-- What comes first changes only the literal text that is pending. -/
theorem appendLeft (front : List Strand) (same : Agree a b) : Agree (front ++ a) (front ++ b) := by
  intro pending rest
  induction front generalizing pending with
  | nil => exact same pending rest
  | cons s front ih => cases s <;> simp only [List.cons_append, joinedFrom, ih]

theorem append (first : Agree a b) (second : Agree c d) : Agree (a ++ c) (b ++ d) := by
  have behind : Agree (a ++ c) (b ++ c) := by
    intro pending rest
    rw [List.append_assoc, List.append_assoc, first]
  exact behind.trans (second.appendLeft b)

theorem flatMap {α : Type} {f g : α → List Strand} (same : ∀ x, Agree (f x) (g x)) (xs : List α) :
    Agree (xs.flatMap f) (xs.flatMap g) := by
  induction xs with
  | nil => exact refl []
  | cons x xs ih =>
    rw [List.flatMap_cons, List.flatMap_cons]
    exact (same x).append ih

theorem literal_nil : Agree [literal []] [] := by
  intro pending rest
  simp [joinedFrom]

theorem literal_append (t u : Text) : Agree [literal (t ++ u)] [literal t, literal u] := by
  intro pending rest
  simp [joinedFrom]

end Agree

end Strand

namespace Node

open Strand

variable (keep : Head → Bool)

/-- The strands before the children of a node. -/
def entering (head : Head) : List Strand :=
  match head.content with
  | .token .markup text => [literal text]
  | .token .code text => [code text]
  | .markupAttribute _ opening _ => [literal opening]
  | .attributeText opening => [literal opening]
  | .markup => []
  | _ => if keep head then [opened head] else []

/-- The strands behind the children of a node. -/
def leaving (head : Head) : List Strand :=
  match head.content with
  | .markupAttribute _ _ closing => [literal closing]
  | .token .. | .attributeText _ | .markup => []
  | _ => if keep head then [closed] else []

mutual

/-- The strands of a node in order.  The nodes whose heads are kept are strands as well. -/
def strands : Node → List Strand
  | absent => []
  | node head children => entering keep head ++ strandsAll children ++ leaving keep head

def strandsAll : List Node → List Strand
  | [] => []
  | n :: ns => strands n ++ strandsAll ns

end

theorem strandsAll_eq_flatMap (ns : List Node) :
    strandsAll keep ns = ns.flatMap (strands keep) := by
  induction ns with
  | nil => simp [strandsAll]
  | cons n ns ih => simp [strandsAll, ih]

theorem strandsAll_append (ns ms : List Node) :
    strandsAll keep (ns ++ ms) = strandsAll keep ns ++ strandsAll keep ms := by
  simp [strandsAll_eq_flatMap]

theorem strands_markup (text : Text) :
    strands keep (synthetic .markup [markupToken text]) = [literal text] := by
  simp [strands, strandsAll, entering, leaving, synthetic, markupToken]

end Node

/-- The content of a document: its strands, with neighbouring literals joined. -/
def Document.flattened (d : Document) (keep : Head → Bool) : List Strand :=
  Strand.joined (Node.strandsAll keep d.children)

end IR

namespace Lowering

open IR Strand

variable (keep : Head → Bool)

/-! ## Pieces -/

def Piece.strands : Piece → List Strand
  | .literal text => [.literal text]
  | .node n => n.strands keep

theorem strandsAll_markup (text : Text) :
    Agree (Node.strandsAll keep (markup text)) [literal text] := by
  unfold markup
  split
  case isTrue empty =>
    rw [List.isEmpty_iff.mp empty]
    exact Agree.literal_nil.symm
  case isFalse =>
    rw [Node.strandsAll_eq_flatMap, List.flatMap_singleton, Node.strands_markup]
    exact Agree.refl _

theorem strandsAll_gatherFrom (ps : List Piece) (pending : Text) :
    Agree (Node.strandsAll keep (gatherFrom pending ps))
      (literal pending :: ps.flatMap (Piece.strands keep)) := by
  induction ps generalizing pending with
  | nil => exact strandsAll_markup keep pending
  | cons p ps ih =>
    cases p with
    | literal text =>
      have split := (Agree.literal_append pending text).append
        (Agree.refl (ps.flatMap (Piece.strands keep)))
      exact (ih (pending ++ text)).trans split
    | node n =>
      have rest := (ih []).trans (Agree.literal_nil.append (Agree.refl _))
      rw [gatherFrom, Node.strandsAll_append, Node.strandsAll]
      exact (strandsAll_markup keep pending).append (rest.appendLeft (n.strands keep))

/-- Writing pieces together keeps their content. -/
theorem strandsAll_gather (ps : List Piece) :
    Agree (Node.strandsAll keep (gather ps)) (ps.flatMap (Piece.strands keep)) :=
  (strandsAll_gatherFrom keep ps []).trans (Agree.literal_nil.append (Agree.refl _))

/-! ## Attributes -/

theorem strands_attributePart (part : Syntax.ValuePart) :
    Agree ((attributePart part).strands keep) ((plainPart part).strands keep) := by
  have plain : ∀ text : Text, Agree [literal [], literal text] [literal text] :=
    fun text => Agree.literal_nil.append (Agree.refl [literal text])
  cases part with
  | text span text => exact plain text
  | transition span => exact plain "@"
  | code span code explicit => exact Agree.refl _

/-- An attribute that is a node of its own has the content of one that is written as it is. -/
theorem strands_conditional (a : Syntax.Attribute) (opening quote : Text) :
    Agree
      (Piece.strands keep
        (.node (.located (.markupAttribute a.name opening quote) a.span
          (a.value.map attributePart))))
      ((Piece.literal opening :: a.value.map plainPart ++ [Piece.literal quote]).flatMap
        (Piece.strands keep)) := by
  have parts : Agree (Node.strandsAll keep (a.value.map attributePart))
      ((a.value.map plainPart).flatMap (Piece.strands keep)) := by
    rw [Node.strandsAll_eq_flatMap, List.flatMap_map, List.flatMap_map]
    exact Agree.flatMap (strands_attributePart keep) a.value
  rw [List.flatMap_append]
  exact (parts.appendLeft [literal opening]).append (Agree.refl [literal quote])

variable (features others : LanguageFeatures)

/-- The strands of an attribute, whichever of the two ways of writing it the features decide for. -/
theorem strands_attributePieces (a : Syntax.Attribute) :
    Agree ((attributePieces features a).flatMap (Piece.strands keep))
      ((attributePieces others a).flatMap (Piece.strands keep)) := by
  have conditional := strands_conditional keep a (" " ++ a.name ++ "=" ++ a.quote?.toList)
    a.quote?.toList
  unfold attributePieces
  dsimp only
  split
  · exact Agree.refl _
  split
  · exact Agree.refl _
  split <;> split
  · exact Agree.refl _
  · rw [List.flatMap_singleton]
    exact conditional.symm
  · rw [List.flatMap_singleton]
    exact conditional
  · exact Agree.refl _

theorem strands_tagPieces (tag : Syntax.StartTag) :
    Agree ((tagPieces features tag).flatMap (Piece.strands keep))
      ((tagPieces others tag).flatMap (Piece.strands keep)) := by
  have attributes : Agree
      ((tag.attributes.flatMap (attributePieces features)).flatMap (Piece.strands keep))
      ((tag.attributes.flatMap (attributePieces others)).flatMap (Piece.strands keep)) := by
    rw [List.flatMap_assoc, List.flatMap_assoc]
    exact Agree.flatMap (strands_attributePieces keep features others) tag.attributes
  simp only [tagPieces, List.flatMap_append, List.flatMap_cons]
  exact (attributes.appendLeft _).append (Agree.refl _)

/-! ## Nodes -/

/-- Two results of lowering agree: the content is the same, and so are the namespaces imported. -/
structure Alike (a b : List Node × List Text) : Prop where
  content : Agree (Node.strandsAll keep a.1) (Node.strandsAll keep b.1)
  seen : a.2 = b.2

theorem Alike.refl (a : List Node × List Text) : Alike keep a a := ⟨Agree.refl _, rfl⟩

variable {keep} in
/-- The results agree also inside of a node, behind other children of it. -/
theorem Alike.single {a b : List Node × List Text} (same : Alike keep a b) (head : Head)
    (front : List Node) :
    Alike keep ([.node head (front ++ a.1)], a.2) ([.node head (front ++ b.1)], b.2) := by
  refine ⟨?_, same.seen⟩
  simp only [Node.strandsAll, Node.strands, Node.strandsAll_append, List.append_nil]
  exact ((same.content.appendLeft _).appendLeft _).append (Agree.refl _)

mutual

theorem node_alike (seen : List Text) :
    ∀ n : Syntax.Node, Alike keep (node features seen n) (node others seen n)
  | .element span tag endTag? body => by
    have inside := nodes_alike seen body
    refine ⟨?_, inside.seen⟩
    have start := ((strandsAll_gather keep (tagPieces features tag)).trans
      (strands_tagPieces keep features others tag)).trans
      (strandsAll_gather keep (tagPieces others tag)).symm
    simp only [node, Node.strandsAll_append]
    exact (start.append inside.content).append (Agree.refl _)
  | .helper span head body => by
    have inside := nodes_alike seen body
    have wrapped := (inside.single { content := .helperBody } []).single
      { content := .helper head.name head.mode head.binding.helpers, span? := some span }
      (head.attributes.flatMap helperAttribute)
    simp only [node]
    split
    · exact wrapped
    · exact ⟨Agree.refl _, inside.seen⟩
  | .directive span head body => by
    simp only [node]
    split
    · exact Alike.refl keep _
    split
    · exact Alike.refl keep _
    split
    · exact (nodes_alike seen body).single _ (tokens head)
    · exact Alike.refl keep _
    · exact Alike.refl keep _
  | .text .. | .markupComment .. | .transition _ | .expression .. | .codeBlock ..
  | .comment .. => Alike.refl keep _

/-- The features of the version change nothing about the content. -/
theorem nodes_alike (seen : List Text) :
    ∀ ns : List Syntax.Node, Alike keep (nodes features seen ns) (nodes others seen ns)
  | [] => Alike.refl keep _
  | n :: ns => by
    have first := node_alike seen n
    have rest := nodes_alike (node features seen n).2 ns
    simp only [nodes]
    rw [← first.seen]
    refine ⟨?_, rest.seen⟩
    simp only [Node.strandsAll_append]
    exact first.content.append rest.content

end

/-! ## Documents -/

/-- The document of a template with its imports under given features, whatever the version of the
template. -/
def documentUnder (features : LanguageFeatures) (tree : Syntax.Tree) (imports : List Syntax.Tree) :
    Document :=
  let directives := imports.flatMap fun t => t.body.filter (isLoweredImport (onceKeywords tree))
  let imported := nodes features [] directives
  { header := { sourcePath := tree.source.path }
    diagnostics := imports.flatMap Syntax.Tree.diagnostics ++ tree.diagnostics
    children := imported.1 ++ (nodes features imported.2 tree.body).1 }

/-- Lowering looks at the features of the template's version.  Whether they include conditional
attributes for data is of no influence on the content, whichever nodes are told apart in it. -/
theorem flattened_documentUnder (features others : LanguageFeatures) (tree : Syntax.Tree)
    (imports : List Syntax.Tree) (keep : Head → Bool) :
    (∀ options, document { tree with options } imports
        = documentUnder options.features tree imports)
      ∧ (documentUnder features tree imports).flattened keep
        = (documentUnder others tree imports).flattened keep := by
  refine ⟨fun options => rfl, Agree.joined_eq ?_⟩
  let directives := imports.flatMap fun t => t.body.filter (isLoweredImport (onceKeywords tree))
  have imported := nodes_alike keep features others [] directives
  have content := nodes_alike keep features others (nodes features [] directives).2 tree.body
  simp only [documentUnder, Node.strandsAll_append]
  rw [← imported.seen]
  exact imported.content.append content.content

example :
    let tree := Syntax.parse (.ofContent 0 "page.quill" "<p data-x=\"@y\">" .none) {}
    let lowered conditional := documentUnder
      { tree.options.features with conditionalDataAttributes := conditional } tree []
    (lowered true).children.any (·.kindName == "HTMLAttribute") = true
      ∧ (lowered false).children.any (·.kindName == "HTMLAttribute") = false
      ∧ (lowered true).flattened (fun _ => false)
        = [.literal "<p data-x=\"", .code "y", .literal "\">"] := by
  decide +kernel

end Lowering

end TemplateCompiler
