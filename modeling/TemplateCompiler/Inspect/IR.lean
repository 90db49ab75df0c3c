import TemplateCompiler.Code.Outline
import TemplateCompiler.IR.Dump
import TemplateCompiler.Inspect.Diagnostic
import TemplateCompiler.Inspect.Input

/-!
# Intermediate trees described in JSON, and views of output
-/

namespace TemplateCompiler

namespace IR

/-- What descriptions of nodes refer to. -/
structure DescriptionContext where
  helpers : List TagHelper
  options : CodeOptions
  sourceDigest : Digest

def ClassShape.ofJson (j : Json) : ClassShape :=
  { name := j.str "name", isPrimary := j.flag "primary", modifiers := j.texts "mods"
    baseType := j.str "base", baseTypeSpan? := (j.get "baseSpan").span?
    interfaces := j.texts "interfaces", attributes := j.texts "attrs"
    typeParameters := (j.all "typeParams").map fun p => ⟨p.textAt 0, p.textAt 1⟩ }

def MethodShape.ofJson (j : Json) : MethodShape :=
  { name := j.str "name", returnType := j.str "type", modifiers := j.texts "mods"
    isPrimary := j.flag "primary"
    parameters := (j.all "params").map fun p => ⟨p.texts "mods", p.str "type", p.str "name"⟩ }

def Content.ofJson? (c : DescriptionContext) (j : Json) : Option Content := do
  let name := j.str "name"
  let type := j.str "type"
  let form : AttributeForm := .ofOrdinal (j.ordinal "structure")
  let known? := if j.has "directive" then (DirectiveDescriptor.ofJson (j.get "directive")).toOption
    else none
  let helpers := (j.all "helpers").filterMap fun i => c.helpers[i.natural]?
  let helper? := helpers.head?
  let bound? := helper?.bind fun h => h.attributes[j.nat "attr"]?
  let plain := name.dropStart "@"
  match j.word "k" with
  | "Document" =>
    pure (.document ⟨name, j.str "base", c.options, type, c.sourceDigest⟩)
  | "Namespace" => pure (.namespaceDecl name (j.flag "primary"))
  | "Class" => pure (.classDecl (.ofJson j))
  | "Method" => pure (.methodDecl (.ofJson j))
  | "Using" => pure (.usingDecl name)
  | "Directive" => pure (.directive name known?)
  | "MalformedDirective" => pure (.malformedDirective name known?)
  | "DirectiveToken" =>
    pure (.directiveToken (j.str "text") ⟨.ofOrdinal (j.ordinal "tokenKind"), [], false⟩)
  | "HTMLContent" => pure .markup
  | "HTMLAttribute" => pure (.markupAttribute name (j.str "prefix") (j.str "suffix"))
  | "HTMLAttributeValue" => pure (.attributeText (j.str "prefix"))
  | "CodeExpression" => pure .expression
  | "CodeStatement" => pure .statement
  | "html" => pure (.token .markup (j.str "text"))
  | "code" => pure (.token .code (j.str "text"))
  | "TagHelper" => pure (.helper name (.ofOrdinal (j.ordinal "mode")) helpers)
  | "TagHelperBody" => pure .helperBody
  | "TagHelperProperty" =>
    pure (.helperProperty name form (← helper?) (← bound?) (j.flag "indexer"))
  | "TagHelperHTMLAttribute" => pure (.helperMarkupAttribute name form)
  | "TagHelperDirectiveAttribute" =>
    pure (.helperDirective plain name form (← helper?) (← bound?))
  | "TagHelperDirectiveAttributeParameter" =>
    pure (.helperParameter plain name form (← helper?) (← bound?)
      (← (← bound?).parameters[j.nat "param"]?))
  | "FieldDeclaration" => pure (.field (j.texts "mods") type name)
  | "Section" => pure (.sectionDecl name)
  | "TypeAlias" => pure (.typeAlias name type)
  | _ => none

namespace Node

def ofDescription (c : DescriptionContext) (j : Json) (children : List Node) : Node :=
  match Content.ofJson? c j with
  | none => .absent
  | some content =>
    .node { content, span? := (j.get "s").span?
            diagnostics := (j.all "diags").map Diagnostic.ofJson
            label? := if j.has "id" then some (j.str "id") else none } children

mutual

def ofJson (c : DescriptionContext) : Json → Node
  | .object members => ofDescription c (.object members) (ofMembers c members)
  | _ => .absent

/-- The children that the members of a description give a node. -/
def ofMembers (c : DescriptionContext) : List (Text × Json) → List Node
  | [] => []
  | (key, j) :: ms => if key == "c" then ofItems c j else ofMembers c ms

/-- The nodes that the items of a value describe. -/
def ofItems (c : DescriptionContext) : Json → List Node
  | .array items => ofList c items
  | _ => []

def ofList (c : DescriptionContext) : List Json → List Node
  | [] => []
  | j :: js => ofJson c j :: ofList c js

end

/-- The view of a node: its dump. -/
def view (n : Node) : Json := .string n.dump

end Node

end IR

def Code.Output.view (o : Code.Output) : Json := .record
  [("text", o.text), ("diags", Diagnostic.viewAll o.diagnostics),
   ("mappings", Json.list o.mappings fun m =>
      .array [m.source.view, .ofNat m.offset, .ofNat m.length])]

end TemplateCompiler
