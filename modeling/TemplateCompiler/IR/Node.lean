import TemplateCompiler.Language.Options
import TemplateCompiler.Syntax.Node

/-!
# The intermediate tree

Lowering turns the syntax trees of a template and its imports into one document of the intermediate
tree, which the passes then shape into a namespace, a class and a method.  Every node has a head,
which says what it is, where it came from and what was found about it, and children in order.

What kinds of children a node may have is a convention of the passes and not of the type: a tool
may build any tree.  A child may even be absent, which the checks of a finished document report.

A node may carry a label, a name by which an editor finds it again.  No pass looks at labels.
-/

namespace TemplateCompiler

namespace IR

/-- What language a token holds. -/
inductive TokenLanguage where
  | markup
  | code
  deriving DecidableEq, Repr, Inhabited

def TokenLanguage.name : TokenLanguage → Text
  | .markup => "html"
  | .code => "code"

/-- How an attribute was written. -/
inductive AttributeForm where
  | doubleQuoted
  | singleQuoted
  | unquoted
  | minimized
  /-- A form this language does not define; it is shown as double quotes. -/
  | unknown (ordinal : UInt8)
  deriving DecidableEq, Repr, Inhabited

namespace AttributeForm

def ofOrdinal (n : UInt8) : AttributeForm :=
  if n == 0 then doubleQuoted else if n == 1 then singleQuoted else if n == 2 then unquoted
  else if n == 3 then minimized else unknown n

def name : AttributeForm → Text
  | singleQuoted => "single"
  | unquoted => "none"
  | minimized => "minimized"
  | _ => "double"

/-- The form of an attribute with or without a value and a quotation mark. -/
def ofWritten (isMinimized : Bool) (quote? : Option UInt8) : AttributeForm :=
  if isMinimized then minimized
  else match quote? with
    | none => unquoted
    | some q => if q == '\''.toUInt8 then singleQuoted else doubleQuoted

end AttributeForm

/-- A parameter of a generic class. -/
structure TypeParameter where
  name : Text
  constraint : Text := []
  deriving DecidableEq, Repr

/-- A parameter of a method. -/
structure MethodParameter where
  modifiers : List Text := []
  typeName : Text
  name : Text
  deriving DecidableEq, Repr

/-- A class without its members: all that is written in front of its body.  The generated document
has one class that is primary, which directives add to. -/
structure ClassShape where
  /-- Written above the declaration as they are. -/
  attributes : List Text := []
  modifiers : List Text := []
  name : Text := []
  baseType : Text := []
  /-- Where the base type was written in the template. -/
  baseTypeSpan? : Option Span := none
  interfaces : List Text := []
  typeParameters : List TypeParameter := []
  isPrimary : Bool := false
  deriving DecidableEq, Repr, Inhabited

/-- A method without its body.  The primary method of a document is the one that writes the content
of the template. -/
structure MethodShape where
  modifiers : List Text := []
  returnType : Text := []
  name : Text := []
  parameters : List MethodParameter := []
  isPrimary : Bool := false
  deriving DecidableEq, Repr, Inhabited

/-- What an intermediate document says about itself: where it came from, the options of its code,
and what classifying and directives have made known about it. -/
structure DocumentHeader where
  /-- The kind a classifier gave it; empty before classification. -/
  kind : Text := []
  /-- The type of the model; empty until it is resolved. -/
  modelType : Text := []
  options : CodeOptions := {}
  sourcePath : Text := []
  sourceDigest : Digest := .zero
  deriving DecidableEq, Inhabited

/-- What a node of the intermediate tree is, apart from its children.  Declarations, directives and
the pieces of the template's content are all nodes of one type, so that passes can move them freely.
-/
inductive Content where
  | document (header : DocumentHeader)
  | namespaceDecl (name : Text) (isPrimary : Bool)
  | classDecl (shape : ClassShape)
  | methodDecl (shape : MethodShape)
  /-- A namespace that is imported. -/
  | usingDecl (name : Text)
  /-- A well-formed directive; its children are its tokens and then its block. -/
  | directive (name : Text) (descriptor? : Option DirectiveDescriptor)
  | directiveToken (text : Text) (slot : DirectiveSlot)
  | malformedDirective (name : Text) (descriptor? : Option DirectiveDescriptor)
  /-- Literal markup; its children are tokens. -/
  | markup
  /-- An attribute with code in its value; its children are literal parts and expressions. -/
  | markupAttribute (name opening closing : Text)
  | attributeText (opening : Text)
  /-- Code whose value is written. -/
  | expression
  /-- Code that is written as it is. -/
  | statement
  | token (language : TokenLanguage) (text : Text)
  | helper (name : Text) (mode : Syntax.TagMode) (helpers : List TagHelper)
  | helperBody
  | helperProperty (name : Text) (form : AttributeForm) (helper : TagHelper)
      (bound : TagHelper.BoundAttribute) (indexer : Bool)
  | helperMarkupAttribute (name : Text) (form : AttributeForm)
  /-- A directive attribute; `name` is without the sign it was written with. -/
  | helperDirective (name written : Text) (form : AttributeForm) (helper : TagHelper)
      (bound : TagHelper.BoundAttribute)
  | helperParameter (name written : Text) (form : AttributeForm) (helper : TagHelper)
      (bound : TagHelper.BoundAttribute) (parameter : TagHelper.Parameter)
  | field (modifiers : List Text) (typeName name : Text)
  | sectionDecl (name : Text)
  | typeAlias (name target : Text)
  deriving DecidableEq

def Content.kindName : Content → Text
  | document _ => "Document"
  | namespaceDecl .. => "Namespace"
  | classDecl _ => "Class"
  | methodDecl _ => "Method"
  | usingDecl _ => "Using"
  | directive .. => "Directive"
  | directiveToken .. => "DirectiveToken"
  | malformedDirective .. => "MalformedDirective"
  | markup => "HTMLContent"
  | markupAttribute .. => "HTMLAttribute"
  | attributeText _ => "HTMLAttributeValue"
  | expression => "CodeExpression"
  | statement => "CodeStatement"
  | token .. => "Token"
  | helper .. => "TagHelper"
  | helperBody => "TagHelperBody"
  | helperProperty .. => "TagHelperProperty"
  | helperMarkupAttribute .. => "TagHelperHTMLAttribute"
  | helperDirective .. => "TagHelperDirectiveAttribute"
  | helperParameter .. => "TagHelperDirectiveAttributeParameter"
  | field .. => "FieldDeclaration"
  | sectionDecl _ => "Section"
  | typeAlias .. => "TypeAlias"

/-- A node without its children: its content, the place that it came from, what was found about it,
and a label by which edits can refer to it. -/
structure Head where
  content : Content
  span? : Option Span := none
  diagnostics : List Diagnostic := []
  label? : Option Text := none
  deriving DecidableEq

/-- A node of the intermediate tree.  Its children are in the order of the generated code, and one
that is missing is a defect that a later check reports. -/
inductive Node where
  /-- A child that is missing. -/
  | absent
  | node (head : Head) (children : List Node)
  deriving Inhabited

namespace Node

/-- A node that no part of the template stands for. -/
def synthetic (content : Content) (children : List Node) : Node := node { content } children

/-- A node that was read from a span. -/
def located (content : Content) (span : Span) (children : List Node) : Node :=
  node { content, span? := some span } children

def codeToken (text : Text) : Node := synthetic (.token .code text) []

def markupToken (text : Text) : Node := synthetic (.token .markup text) []

def content? : Node → Option Content
  | absent => none
  | node head _ => some head.content

def children : Node → List Node
  | absent => []
  | node _ children => children

def span? : Node → Option Span
  | absent => none
  | node head _ => head.span?

/-- What was found about the node itself. -/
def diagnostics : Node → List Diagnostic
  | absent => []
  | node head _ => head.diagnostics

def label? : Node → Option Text
  | absent => none
  | node head _ => head.label?

/-- The name of the node's kind; empty if it is absent. -/
def kindName (n : Node) : Text := (n.content?.map Content.kindName).getD []

/-- Whether a node is a directive's token. -/
def isToken : Node → Bool
  | node { content := .directiveToken .., .. } _ => true
  | _ => false

/-- Whether a node is a well-formed directive. -/
def isDirective : Node → Bool
  | node { content := .directive .., .. } _ => true
  | _ => false

/-- Whether a node is a directive with a given definition.  Definitions are compared by their
digests. -/
def isDirectiveOf (d : DirectiveDescriptor) : Node → Bool
  | node { content := .directive _ (some e), .. } _ => e.digest == d.digest
  | _ => false

/-- Whether a node is a malformed directive with a given definition. -/
def isMalformedOf (d : DirectiveDescriptor) : Node → Bool
  | node { content := .malformedDirective _ (some e), .. } _ => e.digest == d.digest
  | _ => false

/-- The texts and spans of the directive tokens among the children. -/
def tokens (n : Node) : List (Text × Option Span) :=
  n.children.filterMap fun
    | node { content := .directiveToken text _, span?, .. } _ => some (text, span?)
    | _ => none

/-- The text and the span of the first directive token among the children. -/
def firstToken? (n : Node) : Option (Text × Option Span) := n.tokens.head?

/-- The children that are no directive tokens. -/
def block (n : Node) : List Node := n.children.filter fun c => !c.isToken

/-- The children of a tag helper's body, if it has one. -/
def helperContent? (n : Node) : Option (List Node) :=
  (n.children.filterMap fun
    | node { content := .helperBody, .. } children => some children
    | _ => none).head?

end Node

/-- A document: the root of an intermediate tree, which lowering makes from the syntax trees and
passes change until it is written as code. -/
structure Document where
  header : DocumentHeader := {}
  span? : Option Span := none
  diagnostics : List Diagnostic := []
  label? : Option Text := none
  children : List Node := []

namespace Document

def toNode (d : Document) : Node :=
  .node { content := .document d.header, span? := d.span?, diagnostics := d.diagnostics
          label? := d.label? } d.children

def ofNode? : Node → Option Document
  | .node { content := .document header, span?, diagnostics, label? } children =>
    some { header, span?, diagnostics, label?, children }
  | _ => none

/-- Add findings to the document itself. -/
def report (d : Document) (found : List Diagnostic) : Document :=
  { d with diagnostics := d.diagnostics ++ found }

end Document

end IR

end TemplateCompiler
