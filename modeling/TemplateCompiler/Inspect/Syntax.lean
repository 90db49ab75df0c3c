import TemplateCompiler.Directive.Basic
import TemplateCompiler.Inspect.TagHelper
import TemplateCompiler.Language.Version
import TemplateCompiler.Source.File
import TemplateCompiler.Syntax.Node

/-!
# Views of the language and of syntax trees

The spans of nodes are shown without their file, since all nodes of a tree have the same one.
-/

namespace TemplateCompiler

/-! ## Files, directives and language versions -/

def SourceFile.view (f : SourceFile) : Json := .record
  [("id", .ofNat f.id), ("path", f.path), ("rel", f.relative), ("text", f.content),
   ("lines", Json.list f.lineFeeds Json.ofNat), ("flags", .ofNat f.flags.bits.toNat),
   ("sum", f.digest.view)]

/-- The view of a slot: kind, name and whether it is optional. -/
def DirectiveSlot.view (s : DirectiveSlot) : List Json :=
  [.string s.kind.name, .string s.name, .bool s.optional]

def DirectiveDescriptor.view (d : DirectiveDescriptor) : Json := .record
  [("keyword", d.keyword), ("string", d.text), ("kind", d.kind.name), ("usage", d.usage.name),
   ("fileScoped", d.usage.isFileScoped), ("display", d.displayName),
   ("desc", d.grammar.description),
   ("tokens", Json.list d.slots fun s => .array s.view), ("count", .ofNat d.slots.length),
   ("required", .ofNat d.requiredSlots), ("sum", d.digest.view)]

def LanguageVersion.view (v : LanguageVersion) : Json :=
  let f := v.features
  .record
    [("n", .ofNat v.ordinal.toNat), ("name", v.name), ("valid", v.isValid),
     ("atLeast3", v.atLeast .v3_0),
     ("features", .array [f.minimizedBooleanAttributes, f.commentsInTagHelpers, f.componentFiles,
        f.conditionalDataAttributes, f.codeInAttributeArea, f.nullForgiving])]

/-! ## Syntax trees -/

namespace Syntax

/-- The view of a span inside a known file. -/
def extent (s : Span) : Json := .array [.ofNat s.start, .ofNat s.stop]

/-- The view of a node of a kind. -/
def kindView (kind : String) (span : Span) (more : List (String × Json)) : Json :=
  .record (([("k", kind), ("s", extent span)] : List (String × Json)) ++ more)

def ValuePart.view : ValuePart → Json
  | .text s t => kindView "MarkupText" s [("text", t)]
  | .transition s => kindView "Transition" s []
  | .code s c explicit => kindView "CodeExpression" s [("code", c), ("explicit", explicit)]

def valueView (parts : List ValuePart) : Json := Json.list parts ValuePart.view

/-- The view of a value's literal text, if it has one. -/
def literalView (parts : List ValuePart) : Json :=
  Json.orNull ((literalValue? parts).map Json.string)

/-- The view of the quotation mark around a value. -/
def quoteView (quote? : Option UInt8) : Json := .string quote?.toList

def Attribute.view (a : Attribute) : Json := kindView "MarkupAttribute" a.span
  [("name", a.name), ("min", a.minimized), ("quote", quoteView a.quote?), ("isCode", a.isCode),
   ("nameSpan", extent a.nameSpan), ("value", valueView a.value), ("literal", literalView a.value)]

def HelperAttribute.view (a : HelperAttribute) : Json := kindView "TagHelperAttribute" a.span
  [("name", a.name), ("min", a.minimized), ("quote", quoteView a.quote?),
   ("bound", Json.list a.bound fun b => .record
      [("helper", b.helper.displayName), ("match", b.governs.view)]),
   ("directive", a.isDirectiveAttribute), ("value", valueView a.value),
   ("literal", literalView a.value)]

def DirectiveToken.view (t : DirectiveToken) : Json := .record
  [("kind", t.slot.kind.name), ("content", t.content), ("value", t.value), ("s", extent t.span)]

namespace Node

mutual

def view : Node → Json
  | text s t => kindView "MarkupText" s [("text", t)]
  | markupComment s t => kindView "MarkupComment" s [("text", t)]
  | comment s t => kindView "Comment" s [("text", t)]
  | transition s => kindView "Transition" s []
  | expression s c explicit => kindView "CodeExpression" s [("code", c), ("explicit", explicit)]
  | codeBlock s c statement => kindView "CodeBlock" s [("code", c), ("statement", statement)]
  | element s tag endTag? body => kindView "MarkupElement" s
      [("name", tag.name), ("optOut", tag.optOut), ("selfClosing", tag.selfClosing),
       ("void", tag.void), ("hasEnd", endTag?.isSome), ("start", extent tag.span),
       ("endTag", extent (endTag?.getD .none)), ("attrs", Json.list tag.attributes Attribute.view),
       ("body", .array (viewAll body))]
  | directive s head body => kindView "Directive" s
      [("keyword", head.keyword), ("tokens", Json.list head.tokens DirectiveToken.view),
       ("code", head.code), ("nested", head.nested), ("malformed", head.isMalformed),
       ("body", .array (viewAll body)), ("diags", Diagnostic.viewAll head.diagnostics)]
  | helper s head body => kindView "TagHelperElement" s
      [("name", head.name), ("mode", head.mode.name),
       ("helpers", Json.list head.binding.helpers fun d => .string d.displayName),
       ("attributeMatch", head.binding.isAttributeMatch),
       ("structure", head.binding.tagStructure.name), ("start", extent head.startTag),
       ("attrs", Json.list head.attributes HelperAttribute.view), ("body", .array (viewAll body))]

def viewAll : List Node → List Json
  | [] => []
  | n :: ns => view n :: viewAll ns

end

end Node

def Tree.view (t : Tree) : List (String × Json) :=
  [("tree", .array (Node.viewAll t.body)), ("end", .ofNat t.span.stop),
   ("diags", Diagnostic.viewAll t.diagnostics), ("all", .ofNat t.allDiagnostics.length),
   ("nodes", .ofNat t.size)]

end Syntax

end TemplateCompiler
