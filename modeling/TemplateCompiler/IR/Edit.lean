import TemplateCompiler.IR.Walk

/-!
# Editing a tree by labels

An editor works on one tree and refers to its nodes by label.  A node that an edit takes out of the
tree is kept aside, so that its label still finds it.  A label always means the newest node that
was given it.
-/

namespace TemplateCompiler

namespace IR

/-- A change of the children of a node.  Children are meant by their labels. -/
inductive Edit where
  | add (nodes : List Node)
  /-- Insert at a position, which is brought into range. -/
  | insert (position : Int) (nodes : List Node)
  | remove (child : Text)
  /-- Put nodes in the place of a child. -/
  | replace (child : Text) (nodes : List Node)
  | replaceAll (nodes : List Node)
  | insertAfter (child : Text) (nodes : List Node)
  /-- Remove the first child that is missing. -/
  | removeAbsent

namespace Edit

def nodes : Edit → List Node
  | add nodes | insert _ nodes | replace _ nodes | replaceAll nodes | insertAfter _ nodes => nodes
  | remove _ | removeAbsent => []

/-- Whether a node is the one a label means. -/
def isNamed (label : Text) (n : Node) : Bool := n.label? == some label

def isAbsent : Node → Bool
  | .absent => true
  | _ => false

/-- Put nodes in the place of the first child that satisfies a test; nothing if there is none. -/
def replaceFirst? (p : Node → Bool) (f : Node → List Node) : List Node → Option (List Node)
  | [] => none
  | n :: ns => if p n then some (f n ++ ns) else (replaceFirst? p f ns).map (n :: ·)

/-- The children after an edit; nothing if the child it refers to is not among them. -/
def childrenAfter? (e : Edit) (children : List Node) : Option (List Node) :=
  match e with
  | add nodes => some (children ++ nodes)
  | insert position nodes => some (children.take position.toNat ++ nodes
      ++ children.drop position.toNat)
  | remove child => replaceFirst? (isNamed child) (fun _ => []) children
  | replace child nodes => replaceFirst? (isNamed child) (fun _ => nodes) children
  | replaceAll nodes => some nodes
  | insertAfter child nodes => replaceFirst? (isNamed child) (fun n => n :: nodes) children
  | removeAbsent => replaceFirst? isAbsent (fun _ => []) children

end Edit

namespace Node

mutual

/-- Change the children of every node with a label. -/
def editChildren (label : Text) (f : List Node → List Node) : Node → Node
  | absent => absent
  | node head children =>
    let children := editChildrenIn label f children
    node head (if head.label? == some label then f children else children)

def editChildrenIn (label : Text) (f : List Node → List Node) : List Node → List Node
  | [] => []
  | n :: ns => editChildren label f n :: editChildrenIn label f ns

end

mutual

/-- Take labels off the nodes that carry them. -/
def unlabel (labels : List Text) : Node → Node
  | absent => absent
  | node head children =>
    node { head with label? := head.label?.filter fun l => !labels.contains l }
      (unlabelIn labels children)

def unlabelIn (labels : List Text) : List Node → List Node
  | [] => []
  | n :: ns => unlabel labels n :: unlabelIn labels ns

end

end Node

/-- A tree with the labelled nodes that were taken out of it. -/
structure Workspace where
  root : Node
  loose : List Node := []

namespace Workspace

/-- All nodes, those of the tree first. -/
def nodes (w : Workspace) : List Node := w.root.preorder ++ Node.preorderAll w.loose

def labels (trees : List Node) : List Text := (Node.preorderAll trees).filterMap Node.label?

def find? (w : Workspace) (label : Text) : Option Node := w.nodes.find? (Edit.isNamed label)

/-- Put another tree in the place of the tree; labelled nodes that it does not have are kept
aside. -/
def withRoot (w : Workspace) (root : Node) : Workspace :=
  let kept := labels (root :: w.loose)
  let lost := w.root.preorder.filter fun n => n.label?.any fun l => !kept.contains l
  { root, loose := w.loose ++ lost }

/-- Make room for the labels of new nodes. -/
def makeRoom (w : Workspace) (nodes : List Node) : Workspace :=
  let taken := labels nodes
  { root := w.root.unlabel taken, loose := Node.unlabelIn taken w.loose }

def keep (w : Workspace) (nodes : List Node) : Workspace := { w with loose := w.loose ++ nodes }

/-- Edit the children of the node that a label means; says whether the edit found its child. -/
def apply (w : Workspace) (label : Text) (e : Edit) : Workspace × Bool :=
  let w := w.makeRoom e.nodes
  match (w.find? label).bind fun n => e.childrenAfter? n.children with
  | none => (w.keep e.nodes, false)
  | some _ =>
    let edited (n : Node) := n.editChildren label fun children =>
      (e.childrenAfter? children).getD children
    ({ w with loose := w.loose.map edited }.withRoot (edited w.root), true)

/-- The position of a child below the node that a label means. -/
def position? (w : Workspace) (label child : Text) : Option Nat :=
  (w.find? label).bind fun n => n.children.findIdx? (Edit.isNamed child)

end Workspace

end IR

end TemplateCompiler
