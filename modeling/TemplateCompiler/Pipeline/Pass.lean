import TemplateCompiler.Pipeline.Document
import TemplateCompiler.Syntax.Normalize

/-!
# Passes

A pass has a name and an order.  The passes of a phase run in ascending order; of equal ones the
first registered runs first.  A pass that fails says why in a text.
-/

namespace TemplateCompiler

/-- A pass whose work is an action of some type. -/
structure Pass (α : Type) where
  name : Text
  order : Int
  /-- What is noted in the journal of a run when the pass is executed. -/
  note? : Option Text := none
  action : α

/-- The order of passes that have no reason to run earlier or later than the rest. -/
def Pass.defaultOrder : Int := 1000

/-- Passes of one kind in the order of their registration.  They run in the order of their numbers,
and passes with the same number in that of their registration. -/
structure PassRegistry (α : Type) where
  items : List (Pass α) := []

namespace PassRegistry

variable {α : Type}

/-- Add passes behind the others. -/
def add (r : PassRegistry α) (passes : List (Pass α)) : PassRegistry α := ⟨r.items ++ passes⟩

def lookup? (r : PassRegistry α) (name : Text) : Option (Pass α) :=
  r.items.find? fun p => p.name == name

/-- Put a pass in the place of the first one of a name; nothing if there is none. -/
def replace? (r : PassRegistry α) (name : Text) (pass : Pass α) : Option (PassRegistry α) :=
  match r.items.findIdx? fun p => p.name == name with
  | some i => some ⟨r.items.set i pass⟩
  | none => none

/-- Remove the first pass of a name; nothing if there is none. -/
def remove? (r : PassRegistry α) (name : Text) : Option (PassRegistry α) :=
  match r.items.findIdx? fun p => p.name == name with
  | some i => some ⟨r.items.eraseIdx i⟩
  | none => none

/-- The passes in the order in which they run. -/
def ordered (r : PassRegistry α) : List (Pass α) :=
  r.items.mergeSort fun p q => p.order ≤ q.order

end PassRegistry

/-- The work of a pass on syntax trees.  A tree shares the bodies below its top level with the trees
made from it, so what a pass does to them also shows in the tree it was given. -/
structure SyntaxAction where
  run : Syntax.Tree → Except Text Syntax.Tree
  /-- The tree that a pass was given, after it has run. -/
  leaves : Syntax.Tree → Syntax.Tree := id

namespace SyntaxAction

def mergeText : SyntaxAction where
  run tree := .ok tree.mergeText.1
  leaves tree := { tree with body := tree.body.map fun n => (Syntax.Node.merge n).1 }

/-- The node that trimming leaves where it was: a directive at the top level keeps its tokens. -/
def trimmedBelow : Syntax.Node → Syntax.Node
  | .directive span head body => .directive span head (Syntax.Node.trimAll body).1
  | n => (Syntax.Node.trim n).1

def trimTokens : SyntaxAction where
  run tree := .ok tree.trimTokens.1
  leaves tree := { tree with body := tree.body.map trimmedBelow }

end SyntaxAction

/-- The work of a pass on the intermediate tree of a document. -/
abbrev DocumentAction := CodeDocument → IR.Document → Except Text IR.Document

/-- The action that always succeeds with a change of the intermediate tree. -/
def DocumentAction.ofChange (f : IR.Document → IR.Document) : DocumentAction :=
  fun _ d => .ok (f d)

/-- Callbacks that adjust what a classifier has made, in the order of their registration. -/
structure ClassifierSettings where
  namespaceName : List (Text → Text) := []
  classShape : List (IR.ClassShape → IR.ClassShape) := []
  methodShape : List (IR.MethodShape → IR.MethodShape) := []

/-- The work of a classifier: which documents it accepts, and how it shapes them. -/
structure ClassifierAction where
  accepts : CodeDocument → IR.Document → Bool
  run : ClassifierSettings → CodeDocument → IR.Document → Except Text IR.Document

end TemplateCompiler
