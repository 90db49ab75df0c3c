import TemplateCompiler.IR.Walk
import TemplateCompiler.Text.Quoted

/-!
# The written form of the intermediate tree

One line for each node, indented by its depth: the kind, then the fields in a fixed order.  What
was found about a node follows it, marked with an exclamation mark.
-/

namespace TemplateCompiler

namespace IR

/-- The written form of a truth value. -/
def truth (b : Bool) : Text := if b then "true" else "false"

/-- Whether a declaration is primary, as a field. -/
def primaryField (isPrimary : Bool) : Text := " primary=" ++ truth isPrimary

namespace ClassShape

/-- The written form of a type parameter. -/
def dumpParameter (p : TypeParameter) : Text :=
  " <" ++ p.name ++ Text.when (!p.constraint.isEmpty) (" " ++ p.constraint.quoted) ++ ">"

def dump (c : ClassShape) : Text :=
  " " ++ Text.join " " c.modifiers ++ " " ++ c.name.quoted
    ++ Text.when (!c.baseType.isEmpty) (" : " ++ c.baseType.quoted)
    ++ c.interfaces.flatMap (fun i => Text.ofString " +" ++ i.quoted)
    ++ c.typeParameters.flatMap dumpParameter ++ primaryField c.isPrimary

end ClassShape

namespace MethodShape

/-- The written form of a parameter. -/
def dumpParameter (p : MethodParameter) : Text :=
  (Text.join " " p.modifiers ++ " " ++ p.typeName ++ " " ++ p.name).trimBlank

def dump (m : MethodShape) : Text :=
  " " ++ Text.join " " m.modifiers ++ " " ++ m.returnType ++ " " ++ m.name ++ "("
    ++ Text.join ", " (m.parameters.map dumpParameter) ++ ")" ++ primaryField m.isPrimary

end MethodShape

/-- The fields of a node in their fixed order, each after a blank. -/
def Content.dump : Content → Text
  | document header => " kind=" ++ header.kind.quoted
  | namespaceDecl name isPrimary => " " ++ name.quoted ++ primaryField isPrimary
  | classDecl shape => shape.dump
  | methodDecl shape => shape.dump
  | usingDecl name => " " ++ name.quoted
  | directive name _ | malformedDirective name _ => " @" ++ name
  | directiveToken text slot => " " ++ slot.kind.name ++ " " ++ text.quoted
  | markupAttribute name opening closing =>
    " " ++ name ++ " prefix=" ++ opening.quoted ++ " suffix=" ++ closing.quoted
  | attributeText opening => " prefix=" ++ opening.quoted
  | token language text => " " ++ language.name ++ " " ++ text.quoted
  | helper name mode helpers =>
    " <" ++ name ++ "> " ++ mode.name ++ " ["
      ++ Text.join ", " (helpers.map TagHelper.displayName) ++ "]"
  | helperProperty name form owner bound indexer =>
    " " ++ name ++ " -> " ++ owner.displayName ++ "." ++ bound.name ++ " " ++ form.name
      ++ " indexer=" ++ truth indexer
  | helperMarkupAttribute name form => " " ++ name ++ " " ++ form.name
  | helperDirective _ written form owner _ =>
    " " ++ written ++ " -> " ++ owner.displayName ++ " " ++ form.name
  | helperParameter _ written form owner _ parameter =>
    " " ++ written ++ " -> " ++ owner.displayName ++ ":" ++ parameter.name ++ " " ++ form.name
  | field modifiers typeName name =>
    " " ++ Text.join " " modifiers ++ " " ++ typeName ++ " " ++ name
  | sectionDecl name => " " ++ name.quoted
  | typeAlias name target => " " ++ name ++ " = " ++ target.quoted
  | markup | expression | statement | helperBody => []

namespace Head

/-- The line of a node without its indentation. -/
def line (h : Head) : Text := h.content.kindName ++ h.content.dump

/-- The line of a finding without its indentation. -/
def finding (d : Diagnostic) : Text := "! " ++ d.code.id ++ " " ++ d.message

end Head

def dumpLine (depth : Nat) (line : Text) : Text :=
  Text.replicate (2 * depth) ' '.toUInt8 ++ line ++ "\n"

namespace Node

mutual

/-- The lines of a tree at a depth, in order. -/
def dumpAt (depth : Nat) : Node → List Text
  | absent => []
  | node head children =>
    dumpLine depth head.line
      :: (head.diagnostics.map fun d => dumpLine (depth + 1) (Head.finding d))
      ++ dumpAllAt (depth + 1) children

/-- The lines of a list of trees at a depth, in order. -/
def dumpAllAt (depth : Nat) : List Node → List Text
  | [] => []
  | n :: ns => dumpAt depth n ++ dumpAllAt depth ns

end

/-- The written form of a tree. -/
def dump (n : Node) : Text := Text.concat (dumpAt 0 n)

end Node

def Document.dump (d : Document) : Text := d.toNode.dump

end IR

end TemplateCompiler
