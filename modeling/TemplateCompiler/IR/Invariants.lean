import TemplateCompiler.IR.Walk
import TemplateCompiler.Source.FileTree

/-!
# Checks of a finished document

A finished document has no missing child, every span in it is ordered and lies inside a file of the
file set, and at most one namespace, one class and one method are primary.
-/

namespace TemplateCompiler

namespace IR

/-- What is wrong with a document that a pass has left behind.  Every case names the kind of the
node that it is about, so that its text says where to look. -/
inductive Defect where
  | noDocument
  | reversedSpan (kind : Text) (span : Span)
  | unknownFile (kind : Text) (span : Span)
  | beyondContent (kind : Text) (span : Span) (size : Nat)
  | absentChild (kind : Text) (position : Nat)
  | primaries (count : Nat) (kind : Text)
  deriving DecidableEq, Repr

def Defect.message : Defect → Text
  | noDocument => "document has no IR"
  | reversedSpan kind span => kind ++ ": span " ++ span.text ++ " ends before it starts"
  | unknownFile kind span => kind ++ ": span " ++ span.text ++ " names an unknown file"
  | beyondContent kind span size =>
    kind ++ ": span " ++ span.text ++ " ends beyond content (" ++ Text.ofNat size ++ ")"
  | absentChild kind position => kind ++ ": child " ++ Text.ofNat position ++ " is nil"
  | primaries count kind => Text.ofNat count ++ " primary " ++ kind ++ " nodes"

/-- What is wrong with a span of a node: it ends before it starts, names no file of the set, or ends
behind the content of its file. -/
def spanDefect? (files : FileSet) (kind : Text) (span : Span) : Option Defect :=
  if span.stop < span.start then some (.reversedSpan kind span)
  else match files.get? span.file with
    | none => some (.unknownFile kind span)
    | some file =>
      if file.content.length < span.stop then
        some (.beyondContent kind span file.content.length)
      else none

namespace Node

mutual

/-- The defects of a tree: of its spans, and its missing children. -/
def defects (files : FileSet) : Node → List Defect
  | absent => []
  | node head children =>
    (head.span?.bind (spanDefect? files head.content.kindName)).toList
      ++ childDefects files head.content.kindName 0 children

/-- The defects of the children of a node, from a position on. -/
def childDefects (files : FileSet) (kind : Text) (position : Nat) : List Node → List Defect
  | [] => []
  | absent :: ns => .absentChild kind position :: childDefects files kind (position + 1) ns
  | node head children :: ns =>
    defects files (node head children) ++ childDefects files kind (position + 1) ns

end

end Node

/-- The defect of having several primary declarations of a kind. -/
def primaryDefect? (kind : Text) (count : Nat) : Option Defect :=
  if 1 < count then some (.primaries count kind) else none

/-- The defects of a document: all that spans and children have, or else the first kind of which
there are several primary declarations. -/
def Document.defects (d : Document) (files : FileSet) : List Defect :=
  match d.toNode.defects files with
  | [] =>
    let count (p : Node → Bool) := d.nodes.countP p
    ((primaryDefect? "namespace" (count Node.isPrimaryNamespace)).orElse fun _ =>
      (primaryDefect? "class" (count Node.isPrimaryClass)).orElse fun _ =>
        primaryDefect? "method" (count Node.isPrimaryMethod)).toList
  | found => found

/-- The text of defects, one on a line. -/
def Defect.report (defects : List Defect) : Text :=
  Text.join "\n" (defects.map Defect.message)

end IR

end TemplateCompiler
