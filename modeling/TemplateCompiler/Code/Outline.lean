import TemplateCompiler.Code.Line
import TemplateCompiler.IR.Walk
import TemplateCompiler.Text.Quoted

/-!
# The outline of a document

The outline writes the namespace, the class and its members, and one call for each piece of
content.  It is the same for equal documents, but it is not a program that a compiler accepts.

Every node becomes whole lines that depend only on the node, its level and the document's header,
so the outline of a list of nodes is the outlines of its members one after another.  Extensions
are asked before the rules below.
-/

namespace TemplateCompiler

namespace Code

/-- A rule that writes some nodes in its own way. -/
structure TargetExtension where
  name : Text
  /-- The lines of a node at a level, if the extension writes it. -/
  lines? : Nat → IR.Node → Option (List Line)

/-- The extension that writes one line for every node of a kind. -/
def TargetExtension.ofKind (kind line : Text) : TargetExtension :=
  { name := "ext-" ++ kind
    lines? := fun level n => if n.kindName == kind then some [.plain level line] else none }

namespace Outline

/-- The texts that are not empty, separated by blanks. -/
def joinPresent (parts : List Text) : Text := Text.join " " (parts.filter fun p => !p.isEmpty)

def call (name : Text) (arguments : List Text) : Text :=
  name ++ "(" ++ Text.join ", " (arguments.map Text.quoted) ++ ");"

/-- Text that can stand in an attribute of markup. -/
def escapeMarkup (t : Text) : Text :=
  t.flatMap fun b =>
    if b == '&'.toUInt8 then "&amp;"
    else if b == '\''.toUInt8 then "&#39;"
    else if b == '<'.toUInt8 then "&lt;"
    else if b == '>'.toUInt8 then "&gt;"
    else if b == '"'.toUInt8 then "&#34;"
    else if b == 0x0D then "&#13;"
    else [b]

/-- The part of a value that a node stands for: code as it is, anything else quoted. -/
def valuePart (n : IR.Node) : Text :=
  match n.content? with
  | some .expression | some .statement => n.text
  | _ => n.text.quoted

/-- The value of an attribute; one without parts is true. -/
def value (parts : List IR.Node) : Text :=
  if parts.isEmpty then "true" else Text.join " + " (parts.map valuePart)

def tokenList (children : List IR.Node) : Text :=
  Text.join " " ((IR.Node.synthetic .markup children).tokens.map Prod.fst)

/-- A block in braces around lines. -/
def braced (level : Nat) (lines : List Line) : List Line :=
  .plain level "\x7b" :: lines ++ [.plain level "\x7d"]

/-! ## Declarations -/

/-- The line of a class with its base type and interfaces. -/
def classLine (level : Nat) (c : IR.ClassShape) : Line :=
  let parameters : Text := if c.typeParameters.isEmpty then []
    else "<" ++ Text.join ", " (c.typeParameters.map (·.name)) ++ ">"
  let head := joinPresent [Text.join " " c.modifiers, "class", c.name] ++ parameters
  let interfaces := Text.join ", " c.interfaces
  if !c.baseType.isEmpty then
    .around level (head ++ " : ") c.baseType c.baseTypeSpan?
      (Text.when (!c.interfaces.isEmpty) (", " ++ interfaces))
  else if !c.interfaces.isEmpty then .plain level (head ++ " : " ++ interfaces)
  else .plain level head

/-- The lines of a class before its block. -/
def classHead (header : IR.DocumentHeader) (o : CodeOptions) (level : Nat) (c : IR.ClassShape) :
    List Line :=
  (if !o.suppressMetadata && !header.kind.isEmpty then
    [.plain level ("[QuillDocument(" ++ header.kind.quoted ++ ", " ++ header.sourcePath.quoted
      ++ ")]")] else [])
    ++ c.attributes.map (.plain level)
    ++ [classLine level c]
    ++ (c.typeParameters.filter fun p => !p.constraint.isEmpty).map fun p =>
      .plain (level + 1) p.constraint

def methodLine (m : IR.MethodShape) : Text :=
  let parameters := m.parameters.map fun p =>
    joinPresent [Text.join " " p.modifiers, p.typeName, p.name]
  joinPresent [Text.join " " m.modifiers, m.returnType, m.name]
    ++ "(" ++ Text.join ", " parameters ++ ")"

/-! ## Content -/

/-- The lines of a statement; blanks around each line are dropped. -/
def statementLines (level : Nat) (code : Text) : List Line :=
  code.trimBlank.lines.map fun line => .plain level line.trimBlank

def attributePart (level : Nat) (n : IR.Node) : List Line :=
  match n with
  | .node { content := .attributeText opening, .. } _ =>
    [.plain level (call "WriteAttributeValue" [opening, n.text])]
  | .node { content := .expression, span?, .. } _ =>
    [.around level "WriteAttributeValue(" n.text span? ");"]
  | _ => []

def attributeLines (level : Nat) (name opening closing : Text) (parts : List IR.Node) :
    List Line :=
  .plain level (call "BeginWriteAttribute" [name, opening, closing])
    :: parts.flatMap (attributePart level) ++ [.plain level "EndWriteAttribute();"]

/-- The line of an attribute of a tag helper; nothing for other nodes. -/
def helperAttribute? (level : Nat) (n : IR.Node) : Option Line :=
  match n with
  | .node { content := .helperProperty _ _ helper bound _, span?, .. } parts =>
    some (.around level
      ("SetProperty(" ++ helper.displayName.quoted ++ ", " ++ bound.name.quoted ++ ", ")
      (value parts) span? ");")
  | .node { content := .helperMarkupAttribute name form, .. } _ =>
    some (.plain level (call "AddHTMLAttribute"
      (if form == .minimized then [name] else [name, escapeMarkup n.text])))
  | .node { content := .helperDirective _ written .., span?, .. } parts =>
    some (.around level ("SetDirectiveAttribute(" ++ written.quoted ++ ", ") (value parts) span?
      ");")
  | .node { content := .helperParameter _ written .., span?, .. } parts =>
    some (.around level ("SetDirectiveAttributeParameter(" ++ written.quoted ++ ", ")
      (value parts) span? ");")
  | _ => none

def creation (d : TagHelper) : Text :=
  "CreateTagHelper<" ++ (if d.typeName.isEmpty then d.name else d.typeName) ++ ">();"

/-- What the outline of a node depends on, apart from the node and its level. -/
structure Setting where
  header : IR.DocumentHeader
  options : CodeOptions
  extensions : List TargetExtension

/-- The lines of the first extension that writes a node. -/
def Setting.extended? (s : Setting) (level : Nat) (n : IR.Node) : Option (List Line) :=
  s.extensions.findSome? fun e => e.lines? level n

mutual

def lines (s : Setting) (level : Nat) : IR.Node → List Line
  | .absent => (s.extended? level .absent).getD []
  | .node head children =>
    match s.extended? level (.node head children) with
    | some written => written
    | none =>
      match head.content with
      | .namespaceDecl name _ =>
        .plain level ("namespace " ++ name) :: braced level (linesAll s (level + 1) children)
      | .usingDecl name => [⟨level, [⟨"using " ++ name ++ ";", head.span?⟩]⟩]
      | .typeAlias name target => [.plain level ("using " ++ name ++ " = " ++ target ++ ";")]
      | .classDecl shape =>
        classHead s.header s.options level shape
          ++ braced level (linesAll s (level + 1) children)
      | .methodDecl shape =>
        .plain level (methodLine shape) :: braced level (linesAll s (level + 1) children)
      | .field modifiers typeName name =>
        [.plain level (joinPresent [Text.join " " modifiers, typeName, name] ++ ";")]
      | .markup => [.plain level (call "WriteLiteral" [(IR.Node.node head children).text])]
      | .expression =>
        [.around level "Write(" (IR.Node.node head children).text head.span? ");"]
      | .statement => statementLines level (IR.Node.node head children).text
      | .markupAttribute name opening closing => attributeLines level name opening closing children
      | .sectionDecl name =>
        .plain level ("DefineSection(" ++ name.quoted ++ ", () =>")
          :: .plain level "\x7b" :: linesAll s (level + 1) children ++ [.plain level "\x7d);"]
      | .helper name mode helpers =>
        .plain level ("// <" ++ name ++ "> " ++ mode.name)
          :: braced level ((helpers.map fun d => .plain (level + 1) (creation d))
            ++ helperLines s (level + 1) children)
      | .directive name _ =>
        .plain level ("// @" ++ name ++ " " ++ tokenList children) :: blockLines s level children
      | .malformedDirective name _ =>
        [.plain level ("// malformed @" ++ name ++ " " ++ tokenList children)]
      | _ => linesAll s level children

def linesAll (s : Setting) (level : Nat) : List IR.Node → List Line
  | [] => []
  | n :: ns => lines s level n ++ linesAll s level ns

/-- The lines of the children of a directive that are no tokens. -/
def blockLines (s : Setting) (level : Nat) : List IR.Node → List Line
  | [] => []
  | n :: ns => (if n.isToken then [] else lines s level n) ++ blockLines s level ns

/-- The lines of the children of a tag helper. -/
def helperLines (s : Setting) (level : Nat) : List IR.Node → List Line
  | [] => []
  | .node head children :: ns =>
    (match head.content with
      | .helperBody =>
        .plain level "BeginTagHelperBody();"
          :: linesAll s level children ++ [.plain level "EndTagHelperBody();"]
      | _ => match helperAttribute? level (.node head children) with
        | some line => [line]
        | none => lines s level (.node head children))
      ++ helperLines s level ns
  | .absent :: ns => helperLines s level ns

end

def documentLines (s : Setting) (d : IR.Document) : List Line :=
  (if !s.options.suppressChecksum && !d.header.sourceDigest.isZero then
    [.plain 0 ("// checksum sha256 " ++ d.header.sourceDigest.hex ++ " "
      ++ d.header.sourcePath.quoted)] else [])
    ++ linesAll s 0 d.children

end Outline

/-- A way to write documents: the outline of the generated code, with extensions that are asked
first how a node is written.  Writing in this way never fails. -/
structure Target where
  name : Text
  extensions : List TargetExtension

def Target.outline (extensions : List TargetExtension) : Target := ⟨"outline", extensions⟩

def Target.write (t : Target) (o : CodeOptions) (d : IR.Document) : Output :=
  let lines := Outline.documentLines ⟨d.header, o, t.extensions⟩ d
  { text := textOf o lines, mappings := mappingsOf o 0 lines, diagnostics := d.allDiagnostics
    options := o }

/-- What an engine writes its documents with.  Writing may fail, with a text that says why; then
there is no output. -/
structure Backend where
  name : Text
  write : CodeOptions → IR.Document → Except Text Output

/-- The outline as what an engine writes with.  It never fails. -/
def Backend.outline (extensions : List TargetExtension) : Backend where
  name := (Target.outline extensions).name
  write o d := .ok ((Target.outline extensions).write o d)

end Code

end TemplateCompiler
