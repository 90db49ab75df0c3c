import TemplateCompiler.Dialect.Names
import TemplateCompiler.Dialect.Shared

/-!
# Components

How the directives of components change a classified document, and the shape of a component.
-/

namespace TemplateCompiler

namespace Dialect

open IR

def componentKind : Text := "component"

def componentBaseType : Text := "global::Quill.Components.ComponentBase"

/-- The namespaces that every component imports. -/
def componentNamespaces : List Text :=
  ["System", "System.Collections.Generic", "System.Linq", "System.Threading.Tasks",
    "Quill.Components"]

/-! ## Directives -/

/-- The type parameter that a directive declares. -/
def typeParameter? (n : Node) : Option TypeParameter :=
  match n.tokens with
  | [] => none
  | [name] => some ⟨name.1, []⟩
  | name :: constraint :: _ => some ⟨name.1, constraint.1⟩

/-- Type parameters with a further one at the end, unless its name is taken. -/
def addTypeParameter (parameters : List TypeParameter) (p : TypeParameter) : List TypeParameter :=
  if parameters.any fun q => q.name == p.name then parameters else parameters ++ [p]

/-- Declare the type parameters that directives name. -/
def applyTypeParameters (d : Document) : Document :=
  let declared := (d.directivesOf .typeParameter).filterMap typeParameter?
  d.changeClassShape fun c =>
    { c with typeParameters := declared.foldl addTypeParameter c.typeParameters }

/-- The attribute that records the layout of a component. -/
def layoutAttribute (typeName : Text) : Text :=
  "[global::Quill.Components.Layout(typeof(" ++ typeName ++ "))]"

/-- Record the layout that the first directive names. -/
def applyLayout (d : Document) : Document :=
  match (d.firstTokensOf .layout).head? with
  | none => d
  | some (typeName, _) => d.changeClassShape fun c =>
      { c with attributes := addNew c.attributes (layoutAttribute typeName) }

/-- Add the attributes that directives give. -/
def applyAttributes (d : Document) : Document :=
  d.changeClassShape fun c =>
    { c with
      attributes := ((d.firstTokensOf .attributeSection).map Prod.fst).foldl addNew c.attributes }

/-! ## Shape -/

def importedName? : Node → Option Text
  | .node { content := .usingDecl name, .. } _ => some name
  | _ => none

/-- Imports with those of every component behind them. -/
def withComponentImports (imports : List Node) : List Node :=
  let present := imports.filterMap importedName?
  imports ++ (componentNamespaces.filter fun name => !present.contains name).map fun name =>
    Node.synthetic (.usingDecl name) []

/-- Whether a node stays in a file of component imports. -/
def isAnyDirective : Node → Bool
  | .node { content := .directive .., .. } _ => true
  | .node { content := .malformedDirective .., .. } _ => true
  | _ => false

end Dialect

end TemplateCompiler
