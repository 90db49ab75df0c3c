import TemplateCompiler.IR.Walk

/-!
# Optimizing a document

Four changes that a classified document goes through before it is written: neighbouring markup is
joined, fields for the tag helpers in use are declared, directives that have served their purpose
are removed, and the body of the primary method is dropped where only declarations are wanted.
Each of them leaves a document it has already changed as it is.
-/

namespace TemplateCompiler

namespace IR

namespace Node

/-! ## Joining markup -/

/-- The span of two joined nodes: what covers both if they are in one file, else the first that
is known. -/
def joinSpans (a b : Option Span) : Option Span :=
  match a, b with
  | some s, some t => if s.file == t.file then some (s.cover t) else some s
  | some s, none => some s
  | none, b => b

/-- Two neighbouring pieces of markup as one, with the children and the findings of both; nothing
for other nodes.  The label of the second one is lost. -/
def joinMarkup? (a b : Node) : Option Node :=
  match a, b with
  | node ({ content := .markup, .. } : Head) children,
    node ({ content := .markup, .. } : Head) others =>
    some (node { content := .markup, span? := joinSpans a.span? b.span?
                 diagnostics := a.diagnostics ++ b.diagnostics, label? := a.label? }
      (children ++ others))
  | _, _ => none

/-- Join runs of neighbouring markup, where `first` stands before the others. -/
def joinRuns (first : Node) : List Node → List Node
  | [] => [first]
  | n :: ns =>
    match joinMarkup? first n with
    | some joined => joinRuns joined ns
    | none => first :: joinRuns n ns

/-- Join runs of neighbouring markup among the children of one node, from the front to the back. -/
def joinSiblings : List Node → List Node
  | [] => []
  | n :: ns => joinRuns n ns

mutual

/-- The number of levels of a tree. -/
def height : Node → Nat
  | absent => 1
  | node _ children => heightAll children + 1

def heightAll : List Node → Nat
  | [] => 0
  | n :: ns => max (height n) (heightAll ns)

end

/-- Join runs of neighbouring markup on a number of levels, from the top down. -/
def mergeLevels : Nat → Node → Node
  | 0, n => n
  | _, absent => absent
  | levels + 1, node head children =>
    node head ((joinSiblings children).map (mergeLevels levels))

/-- Join runs of neighbouring markup on all levels.  Joining does not make a tree higher, so its
height says how many levels there are. -/
def mergeMarkup (n : Node) : Node := mergeLevels n.height n

/-! ## Removing directives -/

mutual

/-- Remove the directives below a node. -/
def dropDirectives : Node → Node
  | absent => absent
  | node head children => node head (dropDirectivesAll children)

def dropDirectivesAll : List Node → List Node
  | [] => []
  | n :: ns =>
    if n.isDirective then dropDirectivesAll ns else dropDirectives n :: dropDirectivesAll ns

end

end Node

namespace Document

/-- Join neighbouring markup everywhere in a document.  What the generated code writes is the same,
in fewer statements. -/
def mergeMarkup (d : Document) : Document := { d with children := d.toNode.mergeMarkup.children }

/-- Remove all directives; what was found about them moves to the document. -/
def removeDirectives (d : Document) : Document :=
  { d.report ((d.nodes.filter Node.isDirective).flatMap Node.diagnostics) with
    children := Node.dropDirectivesAll d.children }

/-! ## Dropping the primary method's body -/

/-- The statement that is left in a method that returns a task. -/
def completedTask : Text := "return global::System.Threading.Tasks.Task.CompletedTask;"

/-- Whether a body is one statement that returns a completed task. -/
def isCompletedTask : List Node → Bool
  | [.node { content := .statement, .. } children] =>
    children.flatMap Node.tokenText == completedTask
  | _ => false

/-- Whether the body of a method is what dropping it would leave. -/
def isBodyDropped (m : MethodShape) (body : List Node) : Bool :=
  if m.returnType == "void" then body.isEmpty else isCompletedTask body

/-- A method without its body, which no longer runs asynchronously.  One that returns a task has to
return a completed one. -/
def withoutBody (head : Head) (m : MethodShape) : Node :=
  .node { head with
      content := .methodDecl { m with modifiers := m.modifiers.filter (· != "async") }
      diagnostics := [] }
    (if m.returnType == "void" then []
      else [.synthetic .statement [.codeToken completedTask]])

/-- Drop the body of the primary method if the options say so.  What was found in it moves to the
document. -/
def dropBody (d : Document) : Document :=
  if !d.header.options.suppressBody then d
  else match d.nodes.find? Node.isPrimaryMethod, d.primaryMethod? with
    | some method, some (shape, body) =>
      if isBodyDropped shape body then d
      else (d.report method.allDiagnostics).changeMethod fun head shape _ => withoutBody head shape
    | _, _ => d

/-! ## Fields of tag helpers -/

/-- The type of a tag helper: its type name, or its name if it has none. -/
def helperType (h : TagHelper) : Text := if h.typeName.isEmpty then h.name else h.typeName

/-- The name of the field that holds a tag helper of a type. -/
def helperFieldName (typeName : Text) : Text :=
  "__" ++ typeName.flatMap fun b =>
    if b == '.'.toUInt8 || b == '<'.toUInt8 || b == '>'.toUInt8 || b == ','.toUInt8 then "_"
    else if b == ' '.toUInt8 then []
    else [b]

def fieldName? : Node → Option Text
  | .node { content := .field _ _ name, .. } _ => some name
  | _ => none

def helpersOf : Node → List TagHelper
  | .node { content := .helper _ _ helpers, .. } _ => helpers
  | _ => []

/-- The fields to declare for tag helpers in the order of their first use.  `seen` are the tag
helpers that were looked at, `declared` the names of the fields there are. -/
def helperFields (seen : List Digest) (declared : List Text) : List TagHelper → List Node
  | [] => []
  | h :: hs =>
    if TagHelper.isComponentKind h.kind || seen.contains h.digest then helperFields seen declared hs
    else
      let typeName := helperType h
      let name := helperFieldName typeName
      if declared.contains name then helperFields (h.digest :: seen) declared hs
      else
        .synthetic (.field ["private"] ("global::" ++ typeName) name) []
          :: helperFields (h.digest :: seen) (name :: declared) hs

/-- Declare a private field for each tag helper in use in front of the primary class's members.
Tag helpers of components need none. -/
def declareHelpers (d : Document) : Document :=
  d.changeClass fun shape members =>
    let declared := (Node.preorderAll members).filterMap fieldName?
    (shape, helperFields [] declared (d.nodes.flatMap helpersOf) ++ members)

end Document

end IR

end TemplateCompiler
