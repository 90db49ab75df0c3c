import TemplateCompiler.Directive.Standard
import TemplateCompiler.IR.Walk
import TemplateCompiler.Text.Quoted

/-!
# Directives of every dialect

How the directives that views and components share change a classified document: the base type,
further members, sections and interfaces.
-/

namespace TemplateCompiler

namespace Dialect

open IR

/-! ## Base type and interfaces -/

/-- Take the base type from the first directive that names one. -/
def applyInherits (d : Document) : Document :=
  match (d.firstTokensOf .inherits).head? with
  | none => d
  | some (typeName, span?) =>
    d.changeClassShape fun c => { c with baseType := typeName, baseTypeSpan? := span? }

/-- A list with a further item at its end, unless it has it already. -/
def addNew (items : List Text) (item : Text) : List Text :=
  if items.contains item then items else items ++ [item]

/-- Add the interfaces that directives name, each once. -/
def applyImplements (d : Document) : Document :=
  d.changeClassShape fun c =>
    { c with interfaces := ((d.firstTokensOf .implements).map Prod.fst).foldl addNew c.interfaces }

/-! ## Members -/

mutual

/-- Take the blocks out of the directives that satisfy a test. -/
def withoutBlocks (p : Node → Bool) : Node → Node
  | .absent => .absent
  | .node head children =>
    .node head (withoutBlocksIn p (p (.node head children)) children)

/-- Take the blocks out of the directives among some nodes; `tokensOnly` keeps of the nodes
themselves only the tokens. -/
def withoutBlocksIn (p : Node → Bool) (tokensOnly : Bool) : List Node → List Node
  | [] => []
  | n :: ns =>
    if tokensOnly && !n.isToken then withoutBlocksIn p tokensOnly ns
    else withoutBlocks p n :: withoutBlocksIn p tokensOnly ns

end

/-- Move the blocks of the directives with the given definitions to the end of the primary class,
in the order of the document. -/
def applyMembers (definitions : List DirectiveDescriptor) (d : Document) : Document :=
  let isMember (n : Node) : Bool := definitions.any fun e => n.isDirectiveOf e
  match d.primaryClass? with
  | none => d
  | some _ =>
    let blocks := (d.nodes.filter isMember).flatMap Node.block
    { d with children := withoutBlocksIn isMember false d.children }.changeClass
      fun shape members => (shape, members ++ withoutBlocksIn isMember false blocks)

/-! ## Sections -/

def isSection (n : Node) : Bool := n.isDirectiveOf .sectionBlock

/-- The name a section directive gives. -/
def sectionName (n : Node) : Text := (n.firstToken?.map Prod.fst).getD []

/-- Where a finding about a node is reported. -/
def spanOf (n : Node) : Span := n.span?.getD .none

mutual

/-- Remove the section directives below a node, at all levels.  The node itself is kept even if it
is a section directive. -/
def withoutSections : Node → Node
  | .absent => .absent
  | .node head children => .node head (withoutSectionsIn children)

def withoutSectionsIn : List Node → List Node
  | [] => []
  | n :: ns =>
    if isSection n then withoutSectionsIn ns else withoutSections n :: withoutSectionsIn ns

end

mutual

/-- The section directives of a tree that are in no other one. -/
def outerSections : Node → List Node
  | .absent => []
  | .node head children =>
    if isSection (.node head children) then [.node head children] else outerSectionsIn children

def outerSectionsIn : List Node → List Node
  | [] => []
  | n :: ns => outerSections n ++ outerSectionsIn ns

end

/-- The findings about the sections inside a section. -/
def nestedFindings (outer : Node) : List Diagnostic :=
  ((Node.preorderAll outer.children).filter isSection).map fun inner =>
    .error .nestedSection (spanOf inner)
      ("section blocks cannot be nested; @section " ++ sectionName inner ++ " is inside @section "
        ++ sectionName outer)

/-- The finding about a section whose name was used before. -/
def duplicateFinding (n : Node) : Diagnostic :=
  .error .duplicateSection (spanOf n)
    ("section " ++ (sectionName n).quoted ++ " is already defined")

/-- The section that a directive defines.  It has the place and the findings of the directive, and
its block without the sections inside. -/
def toSection (n : Node) : Node :=
  .node { content := .sectionDecl (sectionName n), span? := n.span?, diagnostics := n.diagnostics }
    (withoutSectionsIn n.block)

mutual

/-- Turn section directives into sections.  `names` are the names defined so far; the names defined
afterwards and the findings come with the nodes. -/
def defineSections (names : List Text) : Node → List Node × List Text × List Diagnostic
  | .absent => ([.absent], names, [])
  | .node head children =>
    let n := Node.node head children
    if isSection n then
      if names.contains (sectionName n) then ([], names, [duplicateFinding n])
      else ([toSection n], sectionName n :: names, [])
    else
      let (children, names, found) := defineSectionsIn names children
      ([.node head children], names, found)

def defineSectionsIn (names : List Text) : List Node → List Node × List Text × List Diagnostic
  | [] => ([], names, [])
  | n :: ns =>
    let (here, names, found) := defineSections names n
    let (after, names, more) := defineSectionsIn names ns
    (here ++ after, names, found ++ more)

end

/-- Turn section directives into sections.  A section inside another one and one whose name was used
before are reported and dropped. -/
def applySections (d : Document) : Document :=
  let (children, _, duplicates) := defineSectionsIn [] d.children
  { d.report ((outerSectionsIn d.children).flatMap nestedFindings ++ duplicates) with children }

end Dialect

end TemplateCompiler
