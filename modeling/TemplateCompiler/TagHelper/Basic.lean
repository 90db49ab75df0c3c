import TemplateCompiler.TagHelper.Validation

/-!
# Tag helpers

A tag helper selects elements by its rules and gives meaning to their attributes.  Descriptors are
built from drafts and never change; each part carries the digest of everything in it that matters
for compilation, and the findings of the checks.
-/

namespace TemplateCompiler

namespace TagHelper

/-- What is known about the values of an attribute or a parameter. -/
structure AttributeFlags where
  caseSensitive : Bool := false
  isEnum : Bool := false
  isString : Bool := false
  isBoolean : Bool := false
  hasIndexer : Bool := false
  isIndexerString : Bool := false
  isIndexerBoolean : Bool := false
  isDirectiveAttribute : Bool := false
  isEditorRequired : Bool := false
  deriving DecidableEq, Repr, Inhabited

/-- The flags as a number, one bit each in the order of the fields. -/
def AttributeFlags.bits (f : AttributeFlags) : Nat :=
  let flags := [f.caseSensitive, f.isEnum, f.isString, f.isBoolean, f.hasIndexer,
    f.isIndexerString, f.isIndexerBoolean, f.isDirectiveAttribute, f.isEditorRequired]
  flags.foldr (fun flag n => 2 * n + flag.toNat) 0

/-- A parameter of a directive attribute, written after a colon. -/
structure Parameter where
  kind : Text
  name : Text
  typeName : Text
  displayName : Text
  documentation : Text
  flags : AttributeFlags
  metadata : Metadata
  diagnostics : List Diagnostic
  digest : Digest
  deriving DecidableEq

/-- An attribute that markup can set on an element of a tag helper, by its name or by a name with
the start of an indexer. -/
structure BoundAttribute where
  kind : Text
  name : Text
  typeName : Text
  indexerStart : Text
  indexerTypeName : Text
  displayName : Text
  documentation : Text
  flags : AttributeFlags
  parameters : List Parameter
  metadata : Metadata
  diagnostics : List Diagnostic
  digest : Digest
  deriving DecidableEq

/-- An attribute that a rule requires.  Its name and its value are compared in full or by how they
start, as the two comparisons say. -/
structure RequiredAttribute where
  name : Text
  nameComparison : NameComparison
  value : Text
  valueComparison : ValueComparison
  displayName : Text
  caseSensitive : Bool
  isDirectiveAttribute : Bool
  metadata : Metadata
  diagnostics : List Diagnostic
  digest : Digest
  deriving DecidableEq

/-- A rule that selects elements by their names, by the names of their parents, and by the
attributes that they have to have.  All of these have to hold together. -/
structure Rule where
  tagName : Text
  parentTag : Text
  structure' : TagStructure
  caseSensitive : Bool
  attributes : List RequiredAttribute
  diagnostics : List Diagnostic
  digest : Digest
  deriving DecidableEq

/-- Whether the rule selects elements of every name. -/
def Rule.isCatchAll (r : Rule) : Bool := r.tagName == catchAll

/-- A tag that may occur directly inside the tag helper's element. -/
structure ChildTag where
  name : Text
  displayName : Text
  diagnostics : List Diagnostic
  digest : Digest
  deriving DecidableEq

end TagHelper

/-- A tag helper: a type that takes part in writing the elements that one of its rules selects.  The
digest is computed from all other fields, and the findings are those about the descriptor itself. -/
structure TagHelper where
  kind : Text
  name : Text
  assembly : Text
  displayName : Text
  documentation : Text
  outputHint : Text
  caseSensitive : Bool
  fullyQualified : Bool
  rules : List TagHelper.Rule
  attributes : List TagHelper.BoundAttribute
  childTags : List TagHelper.ChildTag
  metadata : Metadata
  diagnostics : List Diagnostic
  digest : Digest
  deriving DecidableEq

namespace TagHelper

def typeName (d : TagHelper) : Text := d.metadata.value Metadata.typeName

def isComponent (d : TagHelper) : Bool := d.kind == "Components.Component"

/-- Whether the tag helper stands for content passed to a component. -/
def isChildContent (d : TagHelper) : Bool := d.kind == "Components.ChildContent"

/-- The flags of the tag helper as a number. -/
def flagBits (d : TagHelper) : Nat := d.caseSensitive.toNat + 2 * d.fullyQualified.toNat

/-- All findings: those about the tag helper, its child tags, its attributes with their parameters
and its rules with their required attributes. -/
def allDiagnostics (d : TagHelper) : List Diagnostic :=
  d.diagnostics
    ++ d.childTags.flatMap ChildTag.diagnostics
    ++ d.attributes.flatMap (fun a => a.diagnostics ++ a.parameters.flatMap Parameter.diagnostics)
    ++ d.rules.flatMap (fun r => r.diagnostics ++ r.attributes.flatMap RequiredAttribute.diagnostics)

def hasErrors (d : TagHelper) : Bool := Diagnostic.anyError d.allDiagnostics

/-! ## Building -/

def isStringType (typeName : Text) : Bool :=
  typeName == "string" || typeName == "System.String" || typeName == "global::System.String"

/-- The names of the truth type. -/
def isBooleanType (typeName : Text) : Bool :=
  typeName == "bool" || typeName == "System.Boolean" || typeName == "global::System.Boolean"

def firstGiven : List Text → Text
  | [] => []
  | t :: ts => if t.isEmpty then firstGiven ts else t

def ParameterDraft.build (p : ParameterDraft) (ownerKind ownerName : Text) (caseSensitive : Bool) :
    Parameter :=
  let kind := firstGiven [p.kind, ownerKind]
  let displayName := firstGiven [p.displayName, ":" ++ p.name]
  let flags : AttributeFlags :=
    { caseSensitive, isEnum := p.isEnum, isString := isStringType p.typeName
      isBoolean := isBooleanType p.typeName }
  { kind, name := p.name, typeName := p.typeName, displayName
    documentation := p.documentation, flags, metadata := p.metadata
    diagnostics := p.check ownerName
    digest := .ofFields ([.record 'P'.toUInt8, .text kind, .text p.name, .optional p.typeName,
      .text displayName, .optional p.documentation, .ordinal flags.bits] ++ p.metadata.fields) }

def AttributeDraft.flags (a : AttributeDraft) (caseSensitive : Bool) : AttributeFlags :=
  let hasIndexer := !a.indexerStart.isEmpty || !a.indexerTypeName.isEmpty
  { caseSensitive, isEnum := a.isEnum, isString := isStringType a.typeName
    isBoolean := isBooleanType a.typeName, hasIndexer
    isIndexerString := hasIndexer && isStringType a.indexerTypeName
    isIndexerBoolean := hasIndexer && isBooleanType a.indexerTypeName
    isDirectiveAttribute := a.isDirectiveAttribute, isEditorRequired := a.isEditorRequired }

/-- The name shown for an attribute whose property is known, and the type that has it; empty
otherwise. -/
def derivedName (typeName containing property : Text) : Text :=
  if property.isEmpty || containing.isEmpty then []
  else typeName ++ " " ++ containing ++ "." ++ property

def AttributeDraft.build (a : AttributeDraft) (owner : Draft) : BoundAttribute :=
  let kind := firstGiven [a.kind, owner.kind]
  let flags := a.flags owner.caseSensitive
  let derived := derivedName a.typeName (owner.metadata.value Metadata.typeName)
    (a.metadata.value Metadata.propertyName)
  let displayName := firstGiven [a.displayName, derived, a.name]
  let parameters := a.parameters.map fun p => p.build kind a.name owner.caseSensitive
  { kind, name := a.name, typeName := a.typeName, indexerStart := a.indexerStart
    indexerTypeName := a.indexerTypeName, displayName, documentation := a.documentation
    flags, parameters, metadata := a.metadata, diagnostics := a.check owner
    digest := .ofFields ([.record 'A'.toUInt8, .text kind, .optional a.name, .optional a.typeName,
        .optional a.indexerStart, .optional a.indexerTypeName, .text displayName,
        .optional a.documentation, .ordinal flags.bits, .size parameters.length]
      ++ parameters.map (fun p => .digest p.digest) ++ a.metadata.fields) }

def RequiredAttributeDraft.build (a : RequiredAttributeDraft) (caseSensitive : Bool) :
    RequiredAttribute :=
  let derived : Text := match a.nameComparison with
    | .leading => a.name ++ "..."
    | _ => a.name
  let displayName := firstGiven [a.displayName, derived]
  { name := a.name, nameComparison := a.nameComparison, value := a.value
    valueComparison := a.valueComparison, displayName, caseSensitive
    isDirectiveAttribute := a.isDirectiveAttribute, metadata := a.metadata
    diagnostics := a.check
    digest := .ofFields ([.record 'R'.toUInt8, .text a.name, .ordinal a.nameComparison.ordinal,
      .optional a.value, .ordinal a.valueComparison.ordinal, .text displayName,
      .bool caseSensitive, .bool a.isDirectiveAttribute] ++ a.metadata.fields) }

def RuleDraft.build (r : RuleDraft) (caseSensitive : Bool) : Rule :=
  let attributes := r.attributes.map fun a => a.build caseSensitive
  { tagName := r.tagName, parentTag := r.parentTag, structure' := r.structure', caseSensitive
    attributes, diagnostics := r.check
    digest := .ofFields ([.record 'M'.toUInt8, .text r.tagName, .optional r.parentTag,
        .ordinal r.structure'.ordinal, .bool caseSensitive, .size attributes.length]
      ++ attributes.map fun a => .digest a.digest) }

def ChildTagDraft.build (c : ChildTagDraft) (owner : Draft) : ChildTag :=
  let displayName := firstGiven [c.displayName, c.name]
  { name := c.name, displayName, diagnostics := c.check owner
    digest := .ofFields [.record 'C'.toUInt8, .text c.name, .text displayName] }

/-- Build a tag helper: check the draft, complete it and compute its digest.  Building never
fails. -/
def Draft.build (d : Draft) : TagHelper :=
  let displayName := firstGiven [d.displayName, d.metadata.value Metadata.typeName, d.name]
  let rules := d.rules.map fun r => r.build d.caseSensitive
  let attributes := d.attributes.map fun a => a.build d
  let childTags := d.childTags.map fun c => c.build d
  let bits := d.caseSensitive.toNat + 2 * d.fullyQualified.toNat
  { kind := d.kind, name := d.name, assembly := d.assembly, displayName
    documentation := d.documentation, outputHint := d.outputHint
    caseSensitive := d.caseSensitive, fullyQualified := d.fullyQualified
    rules, attributes, childTags, metadata := d.metadata, diagnostics := d.check
    digest := .ofFields ([.record 'T'.toUInt8, .text d.kind, .text d.name, .optional d.assembly,
        .text displayName, .optional d.documentation, .optional d.outputHint, .ordinal bits,
        .size rules.length]
      ++ rules.map (fun r => .digest r.digest)
      ++ .size attributes.length :: attributes.map (fun a => .digest a.digest)
      ++ .size childTags.length :: childTags.map (fun c => .digest c.digest)
      ++ d.metadata.fields) }

/-! ## Drafts of descriptors -/

/-- The draft from which a parameter can be built again. -/
def Parameter.toDraft (p : Parameter) : ParameterDraft :=
  { kind := p.kind, name := p.name, typeName := p.typeName, displayName := p.displayName
    documentation := p.documentation, isEnum := p.flags.isEnum, metadata := p.metadata }

/-- The draft from which an attribute can be built again. -/
def BoundAttribute.toDraft (a : BoundAttribute) : AttributeDraft :=
  { kind := a.kind, name := a.name, typeName := a.typeName, indexerStart := a.indexerStart
    indexerTypeName := a.indexerTypeName, displayName := a.displayName
    documentation := a.documentation, isEnum := a.flags.isEnum
    isDirectiveAttribute := a.flags.isDirectiveAttribute
    isEditorRequired := a.flags.isEditorRequired
    parameters := a.parameters.map Parameter.toDraft, metadata := a.metadata }

/-- The draft from which an allowed child tag can be built again. -/
def ChildTag.toDraft (c : ChildTag) : ChildTagDraft := ⟨c.name, c.displayName⟩

end TagHelper

/-! ## Sets -/

/-- A collection of tag helpers in order.  A union of such collections has each digest once, where
the first member that has it counts. -/
structure TagHelperSet where
  items : List TagHelper := []

namespace TagHelperSet

instance : Inhabited TagHelperSet := ⟨{}⟩

def digest (s : TagHelperSet) : Digest :=
  .ofFields ([.record 'S'.toUInt8, .size s.items.length] ++ s.items.map fun d => .digest d.digest)

/-- The members that none of `seen` equals by digest, each once. -/
def distinctFrom (seen : List Digest) : List TagHelper → List TagHelper
  | [] => []
  | d :: rest =>
    if seen.contains d.digest then distinctFrom seen rest
    else d :: distinctFrom (d.digest :: seen) rest

/-- The members of both, each digest once; the first occurrence counts. -/
def union (s t : TagHelperSet) : TagHelperSet := ⟨distinctFrom [] (s.items ++ t.items)⟩

/-- The members that satisfy a test. -/
def filter (s : TagHelperSet) (keep : TagHelper → Bool) : TagHelperSet := ⟨s.items.filter keep⟩

/-- The findings about all members. -/
def diagnostics (s : TagHelperSet) : List Diagnostic := s.items.flatMap TagHelper.allDiagnostics

end TagHelperSet

end TemplateCompiler
