import TemplateCompiler.Directive.Standard
import TemplateCompiler.IR.Node
import TemplateCompiler.Syntax.Node

/-!
# Lowering

Lowering builds the unclassified document of the intermediate tree: first the directives of the
imports, then the content of the template in order.  Markup in imports is ignored.  A directive
that may occur once and is in the template hides the same directive in the imports, and of several
imports of one namespace only the first is kept.

Markup becomes literal text; the pieces of an element that hold no code are written together.
-/

namespace TemplateCompiler

namespace Lowering

open IR

/-! ## Markup -/

/-- A piece of an element: literal text, or a node of its own. -/
inductive Piece where
  | literal (text : Text)
  | node (node : Node)

/-- Literal markup as one node without a place in the template; nothing if it is empty. -/
def markup (text : Text) : List Node :=
  if text.isEmpty then [] else [.synthetic .markup [.markupToken text]]

/-- Write neighbouring literal pieces together.  `pending` is the literal text since the last
node. -/
def gatherFrom (pending : Text) : List Piece → List Node
  | [] => markup pending
  | .literal text :: ps => gatherFrom (pending ++ text) ps
  | .node n :: ps => markup pending ++ n :: gatherFrom [] ps

/-- Write neighbouring literal pieces together. -/
def gather (ps : List Piece) : List Node := gatherFrom [] ps

def expression (span : Span) (code : Text) : Node :=
  .located .expression span [.codeToken code]

/-- A part of a value that is written as it is. -/
def plainPart : Syntax.ValuePart → Piece
  | .text _ text => .literal text
  | .transition _ => .literal "@"
  | .code span code _ => .node (expression span code)

/-- A part of a value in a conditional attribute. -/
def attributePart : Syntax.ValuePart → Node
  | .text span text => .located (.attributeText []) span [.markupToken text]
  | .transition _ => .synthetic (.attributeText []) [.markupToken "@"]
  | .code span code _ => expression span code

/-- Whether an attribute carries data for scripts. -/
def isDataAttribute (name : Text) : Bool :=
  Text.equalFold (name.take 5) "data-"

/-- The pieces of an attribute.  One with code in its value is conditional, except that older
versions write attributes with data as they are. -/
def attributePieces (features : LanguageFeatures) (a : Syntax.Attribute) : List Piece :=
  let quote : Text := a.quote?.toList
  let opening := " " ++ a.name ++ "=" ++ quote
  if a.isCode then .literal " " :: a.value.map plainPart
  else if a.minimized then [.literal (" " ++ a.name)]
  else if a.literalValue?.isSome
      || (!features.conditionalDataAttributes && isDataAttribute a.name) then
    .literal opening :: a.value.map plainPart ++ [.literal quote]
  else
    [.node (.located (.markupAttribute a.name opening quote) a.span (a.value.map attributePart))]

def tagPieces (features : LanguageFeatures) (tag : Syntax.StartTag) : List Piece :=
  .literal ("<" ++ tag.name) :: tag.attributes.flatMap (attributePieces features)
    ++ [.literal (if tag.selfClosing then " />" else ">")]

/-! ## Tag helpers -/

def markupValue (value : List Syntax.ValuePart) : List Node :=
  value.flatMap fun
    | .text _ text => markup text
    | .transition _ => markup "@"
    | .code span code _ => [expression span code]

/-- The code that a part of a value stands for. -/
def partCode : Syntax.ValuePart → Text
  | .text _ text => text
  | .transition _ => "@"
  | .code _ code _ => code

/-- The value of an attribute as one expression. -/
def codeValue : List Syntax.ValuePart → List Node
  | [] => []
  | p :: ps =>
    [.located .expression (ps.foldl (fun s q => s.cover q.span) p.span)
      ((p :: ps).map fun q => .codeToken (partCode q))]

/-- What an attribute sets on one tag helper: a property, an entry of one, a directive attribute, or
a parameter of a directive attribute. -/
def boundContent (a : Syntax.HelperAttribute) (b : Syntax.BoundMatch) : Content :=
  let form := AttributeForm.ofWritten a.minimized a.quote?
  let bound := b.governs.bound
  let name := a.name.dropStart "@"
  if bound.flags.isDirectiveAttribute then
    match b.governs.parameter? with
    | some p => .helperParameter name a.name form b.helper bound p
    | none => .helperDirective name a.name form b.helper bound
  else .helperProperty a.name form b.helper bound b.governs.indexer

/-- An attribute of a tag helper: one node for each tag helper that governs it. -/
def helperAttribute (a : Syntax.HelperAttribute) : List Node :=
  if a.bound.isEmpty then
    [.located (.helperMarkupAttribute a.name (.ofWritten a.minimized a.quote?)) a.span
      (markupValue a.value)]
  else a.bound.map fun b =>
    .located (boundContent a b) a.span
      (if b.governs.expectsString then markupValue a.value else codeValue a.value)

/-! ## Nodes -/

def tokens (head : Syntax.DirectiveHead) : List Node :=
  head.tokens.map fun t => .located (.directiveToken t.content t.slot) t.span []

/-- A malformed directive.  It keeps its tokens and its findings, from which users learn what is
wrong, and its block is dropped. -/
def malformed (span : Span) (head : Syntax.DirectiveHead) : Node :=
  .node { content := .malformedDirective head.keyword (some head.descriptor), span? := some span
          diagnostics := head.diagnostics } (tokens head)

/-- An import of a namespace, unless it is among the ones seen, and the ones seen afterwards. -/
def importNamespace (seen : List Text) (head : Syntax.DirectiveHead) : List Node × List Text :=
  match head.tokens with
  | [] => ([], seen)
  | t :: _ =>
    if seen.contains t.content then ([], seen)
    else ([.located (.usingDecl t.content) t.span []], t.content :: seen)

/-- A well-formed directive with its block, whose nodes stand behind the tokens among the children.
-/
def directive (span : Span) (head : Syntax.DirectiveHead) (block : List Node) : Node :=
  .node { content := .directive head.keyword (some head.descriptor), span? := some span
          diagnostics := head.diagnostics } (tokens head ++ block)

def isImport (head : Syntax.DirectiveHead) : Bool :=
  head.keyword == DirectiveDescriptor.usingNamespace.keyword

mutual

/-- The nodes that a syntax node becomes, with the namespaces imported afterwards.  `seen` are the
namespaces imported so far, and an import of one of these becomes nothing. -/
def node (features : LanguageFeatures) (seen : List Text) : Syntax.Node → List Node × List Text
  | .text _ text => (markup text, seen)
  | .transition _ => (markup "@", seen)
  | .markupComment _ text => (markup ("<!--" ++ text ++ "-->"), seen)
  | .comment .. => ([], seen)
  | .expression span code _ => ([expression span code], seen)
  | .codeBlock span code _ => ([.located .statement span [.codeToken code]], seen)
  | .directive span head body =>
    if head.isMalformed then ([malformed span head], seen)
    else if isImport head then importNamespace seen head
    else match head.descriptor.kind with
      | .markupBlock =>
        let (block, seen) := nodes features seen body
        ([directive span head block], seen)
      | .codeBlock =>
        ([directive span head [.located .statement span [.codeToken head.code]]], seen)
      | _ => ([directive span head []], seen)
  | .element _ tag endTag? body =>
    let (content, seen) := nodes features seen body
    let ending := if endTag?.isSome then markup ("</" ++ tag.name ++ ">") else []
    (gather (tagPieces features tag) ++ content ++ ending, seen)
  | .helper span head body =>
    let attributes := head.attributes.flatMap helperAttribute
    let (content, seen) := nodes features seen body
    let body := if head.mode == .startAndEnd || !body.isEmpty then
      [Node.synthetic .helperBody content] else []
    ([.located (.helper head.name head.mode head.binding.helpers) span (attributes ++ body)], seen)

def nodes (features : LanguageFeatures) (seen : List Text) :
    List Syntax.Node → List Node × List Text
  | [] => ([], seen)
  | n :: ns =>
    let (here, seen) := node features seen n
    let (after, seen) := nodes features seen ns
    (here ++ after, seen)

end

/-! ## Documents -/

/-- The keywords of the directives in a tree that may occur once. -/
def onceKeywords (tree : Syntax.Tree) : List Text :=
  (tree.directives.filter fun d => d.descriptor.usage == .fileScopedOnce).map (·.keyword)

/-- Whether a node of an import is lowered: a directive that the template does not hide. -/
def isLoweredImport (hidden : List Text) : Syntax.Node → Bool
  | .directive _ head _ => !hidden.contains head.keyword
  | _ => false

def document (tree : Syntax.Tree) (imports : List Syntax.Tree) : Document :=
  let features := tree.options.features
  let hidden := onceKeywords tree
  let directives := imports.flatMap fun t => t.body.filter (isLoweredImport hidden)
  let (imported, seen) := nodes features [] directives
  let (content, _) := nodes features seen tree.body
  { header := { sourcePath := tree.source.path }
    diagnostics := imports.flatMap Syntax.Tree.diagnostics ++ tree.diagnostics
    children := imported ++ content }

end Lowering

end TemplateCompiler
