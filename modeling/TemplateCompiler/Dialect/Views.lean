import TemplateCompiler.Dialect.Names
import TemplateCompiler.Dialect.Shared

/-!
# Views and pages

How the directives of views and pages change a classified document, and what views import.
-/

namespace TemplateCompiler

namespace Dialect

open IR

/-! ## Kinds -/

def viewKind : Text := "mvc.view"

def pageKind : Text := "mvc.page"

def viewBaseType : Text := "global::Quill.Mvc.RazorPage<TModel>"

def pageBaseType : Text := "global::Quill.Mvc.Page<TModel>"

/-! ## The model -/

/-- What stands for the model type in a base type. -/
def modelPlaceholder : Text := "<TModel>"

/-- The type of the model of a document: the one recorded, the first that a directive names, the
class of a page, or no particular type. -/
def modelType (d : Document) : Text :=
  if !d.header.modelType.isEmpty then d.header.modelType
  else match (d.firstTokensOf .model).head? with
    | some (typeName, _) => typeName
    | none =>
      match d.primaryClass? with
      | some (shape, _) => if d.header.kind == pageKind then shape.name else "dynamic"
      | none => "dynamic"

/-- Where the model type comes from: the last directive that names it behind the base type's
directive in the same file. -/
def modelSpan? (d : Document) : Option Span :=
  let inherits? := ((d.directivesOf .inherits).head?).bind Node.span?
  let spans := (d.firstTokensOf .model).filterMap Prod.snd
  (spans.filter fun s => match inherits? with
    | none => true
    | some i => s.file == i.file && i.stop ≤ s.start).getLast?

def replaceFirst (t old new : Text) : Text :=
  match Text.indexOf? old t with
  | some i => t.take i ++ new ++ t.drop (i + old.length)
  | none => t

/-- The alias for the model type that tools see. -/
def modelAlias : Node := .synthetic (.typeAlias "TModel" "global::System.Object") []

/-- Whether a node is an alias for the model type. -/
def isModelAlias : Node → Bool
  | .node { content := .typeAlias name _, .. } _ => name == "TModel"
  | _ => false

/-- Declare the alias for the model type in the primary namespace, unless it is there. -/
def addModelAlias (d : Document) : Document :=
  d.changeNamespace fun name members =>
    (name, if members.any isModelAlias then members else modelAlias :: members)

/-- Resolve the model type and record it.  A base type with a place for the model type has it there,
with the span of the directive that named it. -/
def applyModel (d : Document) : Document :=
  match d.primaryClass? with
  | none => d
  | some _ =>
    let model := modelType d
    let d := { d with header := { d.header with modelType := model } }
    let d := if d.header.options.designTime then addModelAlias d else d
    d.changeClassShape fun c =>
      if c.baseType.containsText modelPlaceholder then
        { c with
          baseType := replaceFirst c.baseType modelPlaceholder ("<" ++ model ++ ">")
          baseTypeSpan? := modelSpan? d }
      else c

/-! ## The namespace -/

/-- Take the namespace from the last directive that names one; imports come first, so a document's
own directive wins. -/
def applyNamespace (d : Document) : Document :=
  match (d.firstTokensOf .namespaceOf).getLast? with
  | none => d
  | some (name, _) => d.changeNamespace fun _ members => (name, members)

/-! ## Pages -/

/-- Whether a node is a page directive written in the given file.  Imports cannot make a document a
page. -/
def isPageOf (file? : Option Nat) (n : Node) : Bool :=
  n.isDirectiveOf .page && match file?, n.span? with
    | some file, some span => span.file == file
    | _, _ => true

/-- Whether a node is content that a page directive has to precede: not white space or another
directive. -/
def isContent : Node → Bool
  | .node { content := .directive .., .. } _ => false
  | .node { content := .malformedDirective .., .. } _ => false
  | .node { content := .markup, diagnostics, span?, label? } children =>
    !(Node.node { content := .markup, diagnostics, span?, label? } children).text.isAllBlank
  | _ => true

/-- The nodes of the primary method before the page directive; all of them if it is not directly in
the method. -/
def beforePage (d : Document) (file? : Option Nat) : List Node :=
  match d.primaryMethod?, Node.placeIn? Node.isPrimaryMethod 0 d.children,
      Node.placeIn? (isPageOf file?) 0 d.children with
  | some (_, body), some method, some page =>
    if page.dropLast == method then body.take (page.getLastD 0) else body
  | some (_, body), _, _ => body
  | none, _, _ => []

/-- The attribute that records the route of a page. -/
def routeAttribute (route : Text) : Text := "[global::Quill.Mvc.PageRoute(" ++ route ++ ")]"

/-- Check that the page directive precedes all content, and record its route.  A misplaced one is
reported, and its route is recorded all the same. -/
def applyPage (file? : Option Nat) (d : Document) : Document :=
  if d.header.kind != pageKind then d
  else match d.nodes.find? (isPageOf file?) with
    | none => d
    | some page =>
      let d := if (beforePage d file?).any isContent then
          d.report [.error .pageMisplaced (spanOf page)
            "the @page directive must precede all other elements defined in a template"]
        else d
      match page.firstToken? with
      | none => d
      | some (route, _) => d.changeClassShape fun c =>
          { c with attributes := addNew c.attributes (routeAttribute route) }

/-! ## Imports -/

/-- The namespaces that every view imports. -/
def viewNamespaces : List Text :=
  ["System", "System.Collections.Generic", "System.Linq", "Quill.Mvc"]

/-- The content of the import document of every view. -/
def viewImports : Text := viewNamespaces.flatMap fun name => ("@using " : Text) ++ name ++ "\n"

/-- The path of the import document of every view. -/
def viewImportsPath : Text := "/_DefaultImports/_ViewImports.quill"

end Dialect

end TemplateCompiler
