import TemplateCompiler.IR.Node

/-!
# Walking the intermediate tree

Everything here visits a tree in pre-order: a node, then its children from first to last.
-/

namespace TemplateCompiler

namespace IR

namespace Node

mutual

/-- The nodes of a tree in pre-order. -/
def preorder : Node → List Node
  | absent => [absent]
  | node head children => node head children :: preorderAll children

def preorderAll : List Node → List Node
  | [] => []
  | n :: ns => preorder n ++ preorderAll ns

end

mutual

/-- The nodes of a tree in pre-order, each with its parent. -/
def references (parent? : Option Node) : Node → List (Option Node × Node)
  | absent => [(parent?, absent)]
  | node head children =>
    (parent?, node head children) :: referencesAll (some (node head children)) children

def referencesAll (parent? : Option Node) : List Node → List (Option Node × Node)
  | [] => []
  | n :: ns => references parent? n ++ referencesAll parent? ns

end

/-- What was found about a tree, in pre-order. -/
def allDiagnostics (n : Node) : List Diagnostic := n.preorder.flatMap diagnostics

def tokenText : Node → Text
  | node { content := .token _ text, .. } _ => text
  | _ => []

/-- The texts of all tokens in a tree, one after another. -/
def text (n : Node) : Text := n.preorder.flatMap tokenText

/-- Whether a child is missing anywhere in the tree. -/
def hasAbsent (n : Node) : Bool := n.preorder.any fun
  | absent => true
  | _ => false

mutual

/-- The visits of a walk that leaves out the children of some nodes: the kind of each visited node,
and nothing where the walk leaves a node again. -/
def visits (isClosed : Text → Bool) : Node → List (Option Text)
  | absent => [none]
  | node head children =>
    some head.content.kindName ::
      if isClosed head.content.kindName then [] else visitsAll isClosed children ++ [none]

def visitsAll (isClosed : Text → Bool) : List Node → List (Option Text)
  | [] => []
  | n :: ns => visits isClosed n ++ visitsAll isClosed ns

end

/-! ## Changing one node -/

mutual

/-- Change the first node in pre-order that satisfies a test. -/
def changeFirst? (p : Node → Bool) (f : Node → Node) : Node → Option Node
  | absent => if p absent then some (f absent) else none
  | node head children =>
    if p (node head children) then some (f (node head children))
    else (changeFirstIn? p f children).map (node head)

def changeFirstIn? (p : Node → Bool) (f : Node → Node) : List Node → Option (List Node)
  | [] => none
  | n :: ns =>
    match changeFirst? p f n with
    | some m => some (m :: ns)
    | none => (changeFirstIn? p f ns).map (n :: ·)

end

/-! ## Places -/

mutual

/-- The place of the first node of a tree that satisfies a test: the positions to descend to. -/
def place? (p : Node → Bool) : Node → Option (List Nat)
  | absent => if p absent then some [] else none
  | node head children =>
    if p (node head children) then some [] else placeIn? p 0 children

/-- The place of the first node of a list of trees that satisfies a test, where the first tree has
the given position. -/
def placeIn? (p : Node → Bool) (position : Nat) : List Node → Option (List Nat)
  | [] => none
  | n :: ns =>
    match place? p n with
    | some place => some (position :: place)
    | none => placeIn? p (position + 1) ns

end

/-! ## Primary declarations -/

def isPrimaryNamespace : Node → Bool
  | node { content := .namespaceDecl _ isPrimary, .. } _ => isPrimary
  | _ => false

def isPrimaryClass : Node → Bool
  | node { content := .classDecl shape, .. } _ => shape.isPrimary
  | _ => false

def isPrimaryMethod : Node → Bool
  | node { content := .methodDecl shape, .. } _ => shape.isPrimary
  | _ => false

end Node

namespace Document

/-- The nodes below a document in pre-order. -/
def nodes (d : Document) : List Node := Node.preorderAll d.children

/-- What was found about a document and everything in it. -/
def allDiagnostics (d : Document) : List Diagnostic := d.toNode.allDiagnostics

/-- The directives with a given definition, in order. -/
def directivesOf (d : Document) (definition : DirectiveDescriptor) : List Node :=
  d.nodes.filter (Node.isDirectiveOf definition)

/-- The first tokens of the directives with a given definition, in order. -/
def firstTokensOf (d : Document) (definition : DirectiveDescriptor) :
    List (Text × Option Span) :=
  (d.directivesOf definition).filterMap Node.firstToken?

/-- The first primary class with its members. -/
def primaryClass? (d : Document) : Option (ClassShape × List Node) :=
  d.nodes.findSome? fun
    | .node { content := .classDecl shape, .. } members =>
      if shape.isPrimary then some (shape, members) else none
    | _ => none

/-- The first primary method with its body. -/
def primaryMethod? (d : Document) : Option (MethodShape × List Node) :=
  d.nodes.findSome? fun
    | .node { content := .methodDecl shape, .. } body =>
      if shape.isPrimary then some (shape, body) else none
    | _ => none

/-- The first primary namespace with what it holds. -/
def primaryNamespace? (d : Document) : Option (Text × List Node) :=
  d.nodes.findSome? fun
    | .node { content := .namespaceDecl name isPrimary, .. } members =>
      if isPrimary then some (name, members) else none
    | _ => none

/-- Change the first node that satisfies a test, if there is one. -/
def changeFirst (d : Document) (p : Node → Bool) (f : Node → Node) : Document :=
  { d with children := (Node.changeFirstIn? p f d.children).getD d.children }

/-- Change the first primary class and its members.  A document without a primary class stays as it
is, so that directives have no effect before classification. -/
def changeClass (d : Document) (f : ClassShape → List Node → ClassShape × List Node) : Document :=
  d.changeFirst Node.isPrimaryClass fun
    | .node head members => match head.content with
      | .classDecl shape =>
        let (shape, members) := f shape members
        .node { head with content := .classDecl shape } members
      | _ => .node head members
    | n => n

/-- Change the shape of the first primary class. -/
def changeClassShape (d : Document) (f : ClassShape → ClassShape) : Document :=
  d.changeClass fun shape members => (f shape, members)

/-- Change the first primary namespace and what it holds.  A document without one stays as it is. -/
def changeNamespace (d : Document) (f : Text → List Node → Text × List Node) : Document :=
  d.changeFirst Node.isPrimaryNamespace fun
    | .node head members => match head.content with
      | .namespaceDecl name isPrimary =>
        let (name, members) := f name members
        .node { head with content := .namespaceDecl name isPrimary } members
      | _ => .node head members
    | n => n

/-- Change the first primary method: its head and its body.  A document without one stays as it is.
-/
def changeMethod (d : Document) (f : Head → MethodShape → List Node → Node) : Document :=
  d.changeFirst Node.isPrimaryMethod fun
    | .node head body => match head.content with
      | .methodDecl shape => f head shape body
      | _ => .node head body
    | n => n

end Document

end IR

end TemplateCompiler
