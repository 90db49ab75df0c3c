import TemplateCompiler.Binding.Binder
import TemplateCompiler.Language.Options
import TemplateCompiler.Source.File

/-!
# Syntax trees

The tree of a template: markup, code, comments and directives, each with the span it was read from.
Elements and directives have bodies.  An element that a tag helper binds is replaced by a tag
helper node, which keeps the element's span and body.

Attribute values are literal text, escaped transitions and code expressions only; they have a type
of their own.
-/

namespace TemplateCompiler

namespace Syntax

/-- A part of an attribute's value.  The parts follow each other without gaps and cover what stands
between the quotation marks. -/
inductive ValuePart where
  | text (span : Span) (text : Text)
  /-- An escaped at sign, written twice and read once. -/
  | transition (span : Span)
  | code (span : Span) (code : Text) (explicit : Bool)
  deriving DecidableEq, Repr

namespace ValuePart

def span : ValuePart → Span
  | text s _ | transition s | code s _ _ => s

/-- The text of a part that is not code. -/
def literal? : ValuePart → Option Text
  | text _ t => some t
  | transition _ => some "@"
  | code .. => none

end ValuePart

/-- The value of parts that hold no code. -/
def literalValue? (parts : List ValuePart) : Option Text :=
  (parts.mapM ValuePart.literal?).map List.flatten

/-- An attribute as it is written in a start tag, with the span of its name and that of the whole.
The parts of its value have spans of their own. -/
structure Attribute where
  span : Span
  name : Text
  value : List ValuePart
  /-- Written without a value. -/
  minimized : Bool
  quote? : Option UInt8
  nameSpan : Span
  deriving DecidableEq, Repr

namespace Attribute

/-- Whether the attribute is an expression written in the place of an attribute. -/
def isCode (a : Attribute) : Bool :=
  a.name.isEmpty && match a.value with
    | [.code ..] => true
    | _ => false

/-- The value, if it holds no code. -/
def literalValue? (a : Attribute) : Option Text := Syntax.literalValue? a.value

end Attribute

/-- A start tag with its attributes, as it is written.  Whether it belongs to tag helpers is decided
later, when the tag helpers in scope are known. -/
structure StartTag where
  span : Span
  name : Text
  /-- Written with an exclamation mark: never bound to tag helpers. -/
  optOut : Bool
  attributes : List Attribute
  selfClosing : Bool
  /-- The name is that of an element without content. -/
  void : Bool
  deriving DecidableEq, Repr

/-- A token of a directive: the bytes that the directive has for one of the slots of its grammar,
and where they stand. -/
structure DirectiveToken where
  slot : DirectiveSlot
  content : Text
  span : Span
  deriving DecidableEq, Repr

/-- The content of a token without surrounding double quotation marks. -/
def DirectiveToken.value (t : DirectiveToken) : Text :=
  let quote := '"'.toUInt8
  if 2 ≤ t.content.length && t.content.head? == some quote && t.content.getLast? == some quote then
    (t.content.drop 1).dropLast
  else t.content

/-- A directive without its body of markup: which one it is, its tokens and its code, and what was
found about it.  One with an error among its findings is malformed and has no effect. -/
structure DirectiveHead where
  descriptor : DirectiveDescriptor
  tokens : List DirectiveToken := []
  /-- The body of a directive with a block of code. -/
  code : Text := []
  diagnostics : List Diagnostic := []
  /-- The directive stands inside an element or another directive's block. -/
  nested : Bool := false
  deriving DecidableEq

namespace DirectiveHead

def keyword (d : DirectiveHead) : Text := d.descriptor.keyword

/-- Whether an error was found in the directive. -/
def isMalformed (d : DirectiveHead) : Bool := Diagnostic.anyError d.diagnostics

end DirectiveHead

/-- How the element of a tag helper was written. -/
inductive TagMode where
  | startAndEnd
  | selfClosing
  | startOnly
  /-- A mode this language does not define; it is shown like a start and an end tag. -/
  | unknown (ordinal : UInt8)
  deriving DecidableEq, Repr, Inhabited

namespace TagMode

def ofOrdinal (n : UInt8) : TagMode :=
  if n == 0 then startAndEnd else if n == 1 then selfClosing else if n == 2 then startOnly
  else unknown n

def name : TagMode → Text
  | selfClosing => "self-closing"
  | startOnly => "start-tag-only"
  | _ => "start-and-end"

end TagMode

/-- A tag helper with the attribute that governs a written attribute. -/
structure BoundMatch where
  helper : TagHelper
  governs : Binding.AttributeMatch
  deriving DecidableEq

/-- An attribute of a tag helper's element; nothing governs it if `bound` is empty. -/
structure HelperAttribute where
  span : Span
  name : Text
  value : List ValuePart
  minimized : Bool
  quote? : Option UInt8
  bound : List BoundMatch
  deriving DecidableEq

namespace HelperAttribute

/-- The value, if it holds no code. -/
def literalValue? (a : HelperAttribute) : Option Text := Syntax.literalValue? a.value

/-- Whether the attribute is governed by a directive attribute. -/
def isDirectiveAttribute (a : HelperAttribute) : Bool :=
  match a.bound with
  | [] => false
  | b :: _ => b.governs.bound.flags.isDirectiveAttribute

end HelperAttribute

/-- The start of a tag helper's element: the name and the attributes as they were written, each with
what binding has decided about it. -/
structure HelperHead where
  name : Text
  mode : TagMode
  binding : ElementBinding
  attributes : List HelperAttribute
  startTag : Span
  deriving DecidableEq

/-- A node of a syntax tree.  The spans of the nodes of a body follow each other, and the span of a
node encloses those of the nodes in it, so that the tree covers the text that it was read from. -/
inductive Node where
  | text (span : Span) (text : Text)
  | element (span : Span) (tag : StartTag) (endTag? : Option Span) (body : List Node)
  | markupComment (span : Span) (text : Text)
  | transition (span : Span)
  | expression (span : Span) (code : Text) (explicit : Bool)
  | codeBlock (span : Span) (code : Text) (statement : Bool)
  | directive (span : Span) (head : DirectiveHead) (body : List Node)
  | comment (span : Span) (text : Text)
  | helper (span : Span) (head : HelperHead) (body : List Node)
  deriving Inhabited

namespace Node

def span : Node → Span
  | text s _ | element s .. | markupComment s _ | transition s | expression s .. | codeBlock s ..
  | directive s .. | comment s _ | helper s .. => s

/-- The body of a node; empty for nodes that have none. -/
def body : Node → List Node
  | element _ _ _ body | directive _ _ body | helper _ _ body => body
  | _ => []

mutual

/-- The number of nodes in a tree, attributes and the parts of their values included. -/
def size : Node → Nat
  | element _ tag _ body =>
    1 + (tag.attributes.map fun a => 1 + a.value.length).sum + sizeAll body
  | directive _ _ body => 1 + sizeAll body
  | helper _ head body =>
    1 + (head.attributes.map fun a => 1 + a.value.length).sum + sizeAll body
  | _ => 1

def sizeAll : List Node → Nat
  | [] => 0
  | n :: ns => size n + sizeAll ns

end

mutual

/-- The directives of a tree in the order of the text. -/
def directives : Node → List DirectiveHead
  | directive _ head body => head :: directivesAll body
  | element _ _ _ body | helper _ _ body => directivesAll body
  | _ => []

def directivesAll : List Node → List DirectiveHead
  | [] => []
  | n :: ns => directives n ++ directivesAll ns

end

end Node

/-- The tree of a parsed template, together with the file, the options that it was parsed with, and
the findings that no node of it carries. -/
structure Tree where
  source : SourceFile
  options : ParserOptions
  body : List Node
  diagnostics : List Diagnostic

namespace Tree

def span (t : Tree) : Span := ⟨t.source.id, 0, t.source.content.length⟩

/-- The directives in the order of the text. -/
def directives (t : Tree) : List DirectiveHead := Node.directivesAll t.body

/-- The findings about the tree, then those about its directives. -/
def allDiagnostics (t : Tree) : List Diagnostic :=
  t.diagnostics ++ t.directives.flatMap DirectiveHead.diagnostics

/-- The number of nodes, the root included. -/
def size (t : Tree) : Nat := 1 + Node.sizeAll t.body

end Tree

end Syntax

end TemplateCompiler
