import TemplateCompiler.Binding.Binder
import TemplateCompiler.Inspect.Diagnostic
import TemplateCompiler.Inspect.Input
import TemplateCompiler.TagHelper.Basic

/-!
# Views of tag helpers and bindings

Drafts are changed and binders are asked by values that describe the change and the question.
-/

namespace TemplateCompiler

def Metadata.view (m : Metadata) : Json :=
  Json.list m.entries fun e => .array [.string e.1, .string e.2]

def Digest.view (d : Digest) : Json := .string d.hex

namespace TagHelper

def findings (ds : List Diagnostic) : Json := .ofNat ds.length

def Parameter.view (p : Parameter) : Json := .record
  [("kind", p.kind), ("name", p.name), ("type", p.typeName), ("display", p.displayName),
   ("doc", p.documentation), ("flags", .ofNat p.flags.bits), ("meta", p.metadata.view),
   ("sum", p.digest.view), ("diags", findings p.diagnostics)]

def BoundAttribute.view (a : BoundAttribute) : Json := .record
  [("kind", a.kind), ("name", a.name), ("type", a.typeName), ("prefix", a.indexerStart),
   ("indexerType", a.indexerTypeName), ("display", a.displayName), ("doc", a.documentation),
   ("flags", .ofNat a.flags.bits), ("prop", a.metadata.value Metadata.propertyName),
   ("params", Json.list a.parameters Parameter.view), ("meta", a.metadata.view),
   ("sum", a.digest.view), ("diags", findings a.diagnostics)]

def RequiredAttribute.view (a : RequiredAttribute) : Json := .record
  [("name", a.name), ("nc", a.nameComparison.name), ("value", a.value),
   ("vc", a.valueComparison.name), ("display", a.displayName), ("cs", a.caseSensitive),
   ("directive", a.isDirectiveAttribute), ("meta", a.metadata.view), ("sum", a.digest.view),
   ("diags", findings a.diagnostics)]

def Rule.view (r : Rule) : Json := .record
  [("tag", r.tagName), ("parent", r.parentTag), ("structure", r.structure'.name),
   ("cs", r.caseSensitive), ("all", r.isCatchAll),
   ("attrs", Json.list r.attributes RequiredAttribute.view), ("sum", r.digest.view),
   ("diags", findings r.diagnostics)]

def ChildTag.view (c : ChildTag) : Json := .record
  [("name", c.name), ("display", c.displayName), ("sum", c.digest.view),
   ("diags", findings c.diagnostics)]

def view (d : TagHelper) : Json := .record
  [("kind", d.kind), ("name", d.name), ("assembly", d.assembly), ("display", d.displayName),
   ("doc", d.documentation), ("hint", d.outputHint), ("flags", .ofNat d.flagBits),
   ("cs", d.caseSensitive), ("fqn", d.fullyQualified), ("type", d.typeName),
   ("component", d.isComponent), ("child", d.isChildContent),
   ("family", isComponentKind d.kind), ("errors", d.hasErrors),
   ("diags", Diagnostic.viewAll d.allDiagnostics), ("own", findings d.diagnostics),
   ("meta", d.metadata.view), ("sum", d.digest.view), ("string", d.displayName),
   ("rules", Json.list d.rules Rule.view), ("attrs", Json.list d.attributes BoundAttribute.view),
   ("children", Json.list d.childTags ChildTag.view)]

end TagHelper

/-- The view of what governs a written attribute. -/
def Binding.AttributeMatch.view (m : Binding.AttributeMatch) : Json := .record (
  ([("attr", m.bound.name), ("indexer", m.indexer), ("string", m.expectsString),
    ("bool", m.expectsBoolean), ("type", m.typeName)] : List (String × Json))
    ++ Json.optional "param" (m.parameter?.map fun p => .string p.name))

/-- The places at which the rules of a tag helper occur among its rules. -/
def ElementBinding.rulePlaces (helper : TagHelper) (rules : List TagHelper.Rule) : List Nat :=
  (List.range helper.rules.length).filter fun i =>
    match helper.rules[i]? with
    | some r => rules.contains r
    | none => false

def ElementBinding.view (b : ElementBinding) : Json := .record
  [("tag", b.tagName), ("parent", b.parentTag), ("prefix", b.tagStart),
   ("attrs", .ofNat b.attributes.length),
   ("helpers", Json.list b.matched fun m => .record
      [("name", m.1.name), ("rules", Json.list (rulePlaces m.1 m.2) Json.ofNat)]),
   ("attributeMatch", b.isAttributeMatch), ("structure", b.tagStructure.name)]

/-! ## Changes of a draft -/

namespace TagHelper.Draft

/-- The draft after the change that a value describes. -/
def editJson (d : Draft) (j : Json) : Draft :=
  let value := j.str "value"
  let extra := j.get "extra"
  let on := j.flag "on"
  match j.word "do" with
  | "set" => match j.word "key" with
    | "kind" => { d with kind := value }
    | "name" => { d with name := value }
    | "assembly" => { d with assembly := value }
    | "display" => { d with displayName := value }
    | "doc" => { d with documentation := value }
    | "hint" => { d with outputHint := value }
    | "type" => { d with metadata := d.metadata.set Metadata.typeName value }
    | "cs" => { d with caseSensitive := on }
    | "fqn" => { d with fullyQualified := on }
    | key => { d with metadata := d.metadata.set key value }
  | "rule" => { d with rules := d.rules ++ [{
      tagName := value, parentTag := extra.str "parent"
      structure' := .ofOrdinal (j.ordinal "n")
      attributes := if extra.has "require" then
        [{ name := extra.str "require", isDirectiveAttribute := on }] else [] }] }
  | "attr" =>
    let property : Metadata := if extra.has "prop" then
      Metadata.ofEntries [(Metadata.propertyName, extra.str "prop"), ("k", "v")] else {}
    { d with attributes := d.attributes ++ [{
      name := value, isDirectiveAttribute := on, typeName := extra.str "type"
      indexerStart := extra.str "prefix", indexerTypeName := extra.str "indexerType"
      metadata := property
      parameters := if extra.has "param" then
        [{ name := extra.str "param", typeName := extra.str "paramType"
           metadata := Metadata.ofEntries [(Metadata.propertyName, "P")] }] else [] }] }
  | "child" => { d with childTags := d.childTags ++ [⟨value, extra.str "display"⟩] }
  | "reset" => {}
  | _ => d

end TagHelper.Draft

/-! ## Questions to a binder -/

def Binding.WrittenAttribute.ofJson (j : Json) : Binding.WrittenAttribute :=
  ⟨j.str "name", j.str "value", j.flag "dynamic", j.flag "minimized"⟩

/-- The answer of a binder to a described question. -/
def Binder.answer (b : Binder) (j : Json) : Json :=
  let name := j.str "name"
  let tag := j.str "tag"
  let attrs := (j.all "attrs").map Binding.WrittenAttribute.ofJson
  let helper := b.helpers[j.nat "d"]?
  match j.word "q" with
  | "bind" => Json.orNull ((b.bind? tag attrs (j.str "parent") (j.flag "parentIsHelper")).map
      ElementBinding.view)
  | "strip" => .array [.string (b.strip tag), (b.strip? tag).isSome]
  | "split" =>
    let (base, parameter) := Binding.splitParameter name
    .array [.string base, .string (parameter.getD []), parameter.isSome]
  | "bound" => Json.orNull (helper.map fun d => Json.list (Binding.governing d name) (·.view))
  | "resolve" => Json.orNull ((Binding.resolve? b.helpers name).map (·.view))
  | "attr" => Json.orNull ((helper.bind fun d => d.attributes[j.nat "a"]?).map fun a =>
      .record ([("name", .bool (Binding.matchesName a name)),
        ("indexerName", .bool (Binding.startsLikeEntry a name)),
        ("indexer", .bool (Binding.matchesIndexer a name)),
        ("missingKey", .bool (Binding.missesKey a name)),
        ("string", .bool (Binding.expectsString a name)),
        ("bool", .bool (Binding.expectsBoolean a name))]
        ++ Json.optional "param" ((a.parameters[j.nat "p"]?).map fun p =>
          .bool (Binding.matchesParameter a p name))))
  | "rule" => Json.orNull ((helper.bind fun d => d.rules[j.nat "a"]?).map fun r =>
      let parent := j.str "parent"
      .record [("tag", Binding.acceptsTag r tag), ("parent", Binding.acceptsParent r parent),
        ("attrs", Binding.acceptsAttributes r attrs), ("all", Binding.selects r tag parent attrs),
        ("each", .array (r.attributes.flatMap fun required =>
          attrs.map fun w => .bool (Binding.acceptsAttribute required w)))])
  | _ => .null

end TemplateCompiler
