import TemplateCompiler.Dialect.Components
import TemplateCompiler.Dialect.Views
import TemplateCompiler.Pipeline.Pass

/-!
# Classifying documents

A classifier creates the namespace, the class and the method of a document and moves the lowered
content into them: imports of namespaces into the namespace, everything else into the method.
-/

namespace TemplateCompiler

namespace Classifier

open IR

/-- The declarations of a document and what they hold, before a classifier adjusts them and they are
put together into a tree. -/
structure Outline where
  namespaceName : Text
  imports : List Node
  classShape : ClassShape
  methodShape : MethodShape
  body : List Node

namespace Outline

/-- Whether a node is an import of a namespace. -/
def isImport (n : Node) : Bool := (Dialect.importedName? n).isSome

/-- The declarations before a classifier adjusts them: imports of namespaces belong to the
namespace, and the rest of the document is the body of the primary method. -/
def initial (d : Document) : Outline :=
  let root := d.header.options.rootNamespace
  { namespaceName := if root.isEmpty then "Quill" else root
    imports := d.children.filter isImport
    classShape := { name := Dialect.defaultClassName, modifiers := ["public"], isPrimary := true }
    methodShape :=
      { name := "ExecuteAsync", returnType := "global::System.Threading.Tasks.Task"
        modifiers := ["public", "async", "override"], isPrimary := true }
    body := d.children.filter fun n => !isImport n }

/-- The declarations after the callbacks of the settings. -/
def adjusted (o : Outline) (s : ClassifierSettings) : Outline :=
  { o with
    namespaceName := s.namespaceName.foldl (fun x f => f x) o.namespaceName
    classShape := s.classShape.foldl (fun x f => f x) o.classShape
    methodShape := s.methodShape.foldl (fun x f => f x) o.methodShape }

def toNode (o : Outline) : Node :=
  .synthetic (.namespaceDecl o.namespaceName true)
    (o.imports ++ [.synthetic (.classDecl o.classShape)
      [.synthetic (.methodDecl o.methodShape) o.body]])

end Outline

/-- What a classifier decides: whether it accepts a document, the kind that the document has then,
and how its declarations differ from those that every document gets. -/
structure Rule where
  kind : Text
  accepts : CodeDocument → Document → Bool
  shape : CodeDocument → Outline → Outline

/-- The classifier of a rule.  It accepts only documents that have no kind yet, so that the kind of
a document is decided once. -/
def Rule.action (r : Rule) : ClassifierAction where
  accepts doc d := d.header.kind.isEmpty && r.accepts doc d
  run settings doc d :=
    .ok { d with
      header := { d.header with kind := r.kind }
      children := [((r.shape doc (.initial d)).adjusted settings).toNode] }

/-! ## Rules -/

/-- Any document. -/
def general : Rule where
  kind := "default"
  accepts _ _ := true
  shape _ o := o

/-- The class of a view or page. -/
def viewShape (baseType : Text) (doc : CodeDocument) (o : Outline) : Outline :=
  { o with classShape := { o.classShape with
      name := Dialect.viewClassName doc.projectPath, baseType, modifiers := ["public"] } }

/-- Views: every document that is no component. -/
def view : Rule where
  kind := Dialect.viewKind
  accepts doc _ := doc.fileKind == .legacy
  shape := viewShape Dialect.viewBaseType

/-- Pages: documents that are no components and have a page directive of their own, at the top level
or in a directive's block there. -/
def page : Rule where
  kind := Dialect.pageKind
  accepts doc d := doc.fileKind == .legacy && d.children.any fun n =>
    n.isDirective && n.preorder.any (Dialect.isPageOf (doc.source?.map SourceFile.id))
  shape := viewShape Dialect.pageBaseType

def renderMethod : MethodShape where
  name := "BuildRenderTree"
  returnType := "void"
  modifiers := ["protected", "override"]
  parameters := [{ typeName := "global::Quill.Components.Rendering.RenderTreeBuilder"
                   name := "__builder" }]
  isPrimary := true

/-- Components.  Of an import of components only the directives stay. -/
def component : Rule where
  kind := Dialect.componentKind
  accepts doc _ := doc.fileKind.isComponent
  shape doc o :=
    let path := doc.projectPath
    { o with
      namespaceName := Dialect.componentNamespace o.namespaceName path
      imports := Dialect.withComponentImports o.imports
      classShape := { o.classShape with
        name := Dialect.componentClassName path, baseType := Dialect.componentBaseType
        modifiers := ["public", "partial"] }
      methodShape := renderMethod
      body := if doc.fileKind == .componentImport then o.body.filter Dialect.isAnyDirective
        else o.body }

end Classifier

end TemplateCompiler
