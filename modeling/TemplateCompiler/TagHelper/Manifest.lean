import TemplateCompiler.Json.Reader
import TemplateCompiler.Json.Record
import TemplateCompiler.Json.Writer
import TemplateCompiler.Msgpack.Basic
import TemplateCompiler.TagHelper.Pool

/-!
# Manifests

A manifest is the stored form of a set of tag helpers: a version and an entry for each member, which
fills in a draft.  Structures and comparisons are stored by their names.  Digests are not stored;
reading builds every descriptor anew.  Manifests are written as JSON for people and as MessagePack
for caches.
-/

namespace TemplateCompiler

namespace TagHelper

namespace Manifest

/-- The stored form of a required attribute. -/
structure RequiredEntry where
  name : Text := []
  nameComparison : Text := []
  value : Text := []
  valueComparison : Text := []
  displayName : Text := []
  isDirectiveAttribute : Bool := false
  metadata : Metadata := {}
  deriving DecidableEq, Repr, Inhabited

/-- The stored form of a rule. -/
structure RuleEntry where
  tagName : Text := []
  parentTag : Text := []
  structure' : Text := []
  attributes : List RequiredEntry := []
  deriving DecidableEq, Repr, Inhabited

/-- The stored form of a parameter. -/
structure ParameterEntry where
  kind : Text := []
  name : Text := []
  typeName : Text := []
  displayName : Text := []
  documentation : Text := []
  isEnum : Bool := false
  metadata : Metadata := {}
  deriving DecidableEq, Repr, Inhabited

/-- The stored form of an attribute that markup can set. -/
structure AttributeEntry where
  kind : Text := []
  name : Text := []
  typeName : Text := []
  indexerStart : Text := []
  indexerTypeName : Text := []
  displayName : Text := []
  documentation : Text := []
  isEnum : Bool := false
  isDirectiveAttribute : Bool := false
  isEditorRequired : Bool := false
  parameters : List ParameterEntry := []
  metadata : Metadata := {}
  deriving DecidableEq, Repr, Inhabited

/-- The stored form of a child tag that is allowed. -/
structure ChildTagEntry where
  name : Text := []
  displayName : Text := []
  deriving DecidableEq, Repr, Inhabited

/-- The stored form of a tag helper.  It has all that a builder can be told about one, and neither a
digest nor findings, which are computed anew when the entry is read. -/
structure Entry where
  kind : Text := []
  name : Text := []
  assembly : Text := []
  displayName : Text := []
  documentation : Text := []
  outputHint : Text := []
  caseSensitive : Bool := false
  fullyQualified : Bool := false
  rules : List RuleEntry := []
  attributes : List AttributeEntry := []
  childTags : List ChildTagEntry := []
  metadata : Metadata := {}
  deriving DecidableEq, Repr, Inhabited

end Manifest

/-- The stored form of a set of tag helpers. -/
structure Manifest where
  version : Int := 0
  helpers : List Manifest.Entry := []
  deriving DecidableEq, Repr, Inhabited

namespace Manifest

def currentVersion : Int := 1

/-- Why a manifest cannot be used. -/
inductive ReadError where
  | notJson (cause : Json.Fault)
  /-- A value has not the shape that its place asks for. -/
  | mismatch (cause : Json.Mismatch)
  /-- The bytes are not the packed form of a manifest. -/
  | notPacked
  | unsupportedVersion (version : Int)

namespace ReadError

/-- Whether there is no manifest at all, not even one of another version. -/
def isMalformed : ReadError → Bool
  | unsupportedVersion _ => false
  | _ => true

def message (e : ReadError) : Text :=
  "tag helper manifest: " ++ match e with
    | notJson cause => cause.message
    | mismatch cause => cause.message
    | notPacked => "not packed"
    | unsupportedVersion version => "unsupported version " ++ Text.ofInt version

end ReadError

/-! ## Storing -/

def RequiredEntry.ofAttribute (a : RequiredAttribute) : RequiredEntry :=
  { name := a.name, nameComparison := a.nameComparison.name, value := a.value
    valueComparison := a.valueComparison.name, displayName := a.displayName
    isDirectiveAttribute := a.isDirectiveAttribute, metadata := a.metadata }

def RuleEntry.ofRule (r : Rule) : RuleEntry :=
  { tagName := r.tagName, parentTag := r.parentTag, structure' := r.structure'.name
    attributes := r.attributes.map .ofAttribute }

def ParameterEntry.ofParameter (p : Parameter) : ParameterEntry :=
  { kind := p.kind, name := p.name, typeName := p.typeName, displayName := p.displayName
    documentation := p.documentation, isEnum := p.flags.isEnum, metadata := p.metadata }

/-- The entry of a bound attribute.  Its flags are stored one by one. -/
def AttributeEntry.ofAttribute (a : BoundAttribute) : AttributeEntry :=
  { kind := a.kind, name := a.name, typeName := a.typeName, indexerStart := a.indexerStart
    indexerTypeName := a.indexerTypeName, displayName := a.displayName
    documentation := a.documentation, isEnum := a.flags.isEnum
    isDirectiveAttribute := a.flags.isDirectiveAttribute
    isEditorRequired := a.flags.isEditorRequired
    parameters := a.parameters.map .ofParameter, metadata := a.metadata }

def ChildTagEntry.ofChildTag (c : ChildTag) : ChildTagEntry :=
  { name := c.name, displayName := c.displayName }

/-- The entry of a tag helper.  The names shown are always given. -/
def Entry.ofHelper (d : TagHelper) : Entry :=
  { kind := d.kind, name := d.name, assembly := d.assembly, displayName := d.displayName
    documentation := d.documentation, outputHint := d.outputHint
    caseSensitive := d.caseSensitive, fullyQualified := d.fullyQualified
    rules := d.rules.map .ofRule, attributes := d.attributes.map .ofAttribute
    childTags := d.childTags.map .ofChildTag, metadata := d.metadata }

def ofSet (s : TagHelperSet) : Manifest := ⟨currentVersion, s.items.map .ofHelper⟩

/-! ## Building -/

def RequiredEntry.toDraft (a : RequiredEntry) : RequiredAttributeDraft :=
  { name := a.name, nameComparison := .ofName a.nameComparison, value := a.value
    valueComparison := .ofName a.valueComparison, displayName := a.displayName
    isDirectiveAttribute := a.isDirectiveAttribute, metadata := a.metadata }

def RuleEntry.toDraft (r : RuleEntry) : RuleDraft :=
  { tagName := r.tagName, parentTag := r.parentTag, structure' := .ofName r.structure'
    attributes := r.attributes.map RequiredEntry.toDraft }

def ParameterEntry.toDraft (p : ParameterEntry) : ParameterDraft :=
  { kind := p.kind, name := p.name, typeName := p.typeName, displayName := p.displayName
    documentation := p.documentation, isEnum := p.isEnum, metadata := p.metadata }

def AttributeEntry.toDraft (a : AttributeEntry) : AttributeDraft :=
  { kind := a.kind, name := a.name, typeName := a.typeName, indexerStart := a.indexerStart
    indexerTypeName := a.indexerTypeName, displayName := a.displayName
    documentation := a.documentation, isEnum := a.isEnum
    isDirectiveAttribute := a.isDirectiveAttribute, isEditorRequired := a.isEditorRequired
    parameters := a.parameters.map ParameterEntry.toDraft, metadata := a.metadata }

def ChildTagEntry.toDraft (c : ChildTagEntry) : ChildTagDraft :=
  { name := c.name, displayName := c.displayName }

/-- Fill in a draft: what is stored takes the place of single fields, and is added to lists. -/
def Entry.fill (e : Entry) (d : Draft) : Draft :=
  { kind := e.kind, name := e.name, assembly := e.assembly, displayName := e.displayName
    documentation := e.documentation, outputHint := e.outputHint
    caseSensitive := e.caseSensitive, fullyQualified := e.fullyQualified
    rules := d.rules ++ e.rules.map RuleEntry.toDraft
    attributes := d.attributes ++ e.attributes.map AttributeEntry.toDraft
    childTags := d.childTags ++ e.childTags.map ChildTagEntry.toDraft
    metadata := d.metadata.setAll e.metadata.entries }

/-- Build the members of a manifest with drafts of a pool. -/
def buildAll (pool : Pool) : List Entry → Pool × List TagHelper
  | [] => (pool, [])
  | e :: es =>
    let (pool, helper) := pool.build e.fill
    let (pool, helpers) := buildAll pool es
    (pool, helper :: helpers)

def build (m : Manifest) (pool : Pool) : Pool × Except ReadError TagHelperSet :=
  if m.version != currentVersion then (pool, .error (.unsupportedVersion m.version))
  else
    let (pool, helpers) := buildAll pool m.helpers
    (pool, .ok ⟨helpers⟩)

/-! ## JSON -/

/-- The name of a kind of record of manifests. -/
def recordName (name : String) : Json.RecordName := ⟨"taghelper", name⟩

/-- Read metadata; pairs are added to those that were there. -/
def readMetadata (old : Metadata) (j : Json) : Except Json.Mismatch Metadata :=
  match j with
  | .null => .ok {}
  | _ => (Json.readTexts j).map old.setAll

def parameterFields : List (Json.RecordField ParameterEntry) :=
  [("kind", fun p j => (Json.readText p.kind j).map fun v => { p with kind := v }),
   ("name", fun p j => (Json.readText p.name j).map fun v => { p with name := v }),
   ("typeName", fun p j => (Json.readText p.typeName j).map fun v => { p with typeName := v }),
   ("displayName", fun p j =>
      (Json.readText p.displayName j).map fun v => { p with displayName := v }),
   ("documentation", fun p j =>
      (Json.readText p.documentation j).map fun v => { p with documentation := v }),
   ("isEnum", fun p j => (Json.readBool p.isEnum j).map fun v => { p with isEnum := v }),
   ("metadata", fun p j => (readMetadata p.metadata j).map fun v => { p with metadata := v })]

def attributeFields : List (Json.RecordField AttributeEntry) :=
  [("kind", fun a j => (Json.readText a.kind j).map fun v => { a with kind := v }),
   ("name", fun a j => (Json.readText a.name j).map fun v => { a with name := v }),
   ("typeName", fun a j => (Json.readText a.typeName j).map fun v => { a with typeName := v }),
   ("indexerPrefix", fun a j =>
      (Json.readText a.indexerStart j).map fun v => { a with indexerStart := v }),
   ("indexerTypeName", fun a j =>
      (Json.readText a.indexerTypeName j).map fun v => { a with indexerTypeName := v }),
   ("displayName", fun a j =>
      (Json.readText a.displayName j).map fun v => { a with displayName := v }),
   ("documentation", fun a j =>
      (Json.readText a.documentation j).map fun v => { a with documentation := v }),
   ("isEnum", fun a j => (Json.readBool a.isEnum j).map fun v => { a with isEnum := v }),
   ("isDirectiveAttribute", fun a j =>
      (Json.readBool a.isDirectiveAttribute j).map fun v => { a with isDirectiveAttribute := v }),
   ("isEditorRequired", fun a j =>
      (Json.readBool a.isEditorRequired j).map fun v => { a with isEditorRequired := v }),
   ("parameters", fun a j =>
      (Json.readRecords (recordName "ParameterDTO") {} parameterFields a.parameters j).map
        fun v => { a with parameters := v }),
   ("metadata", fun a j => (readMetadata a.metadata j).map fun v => { a with metadata := v })]

def requiredFields : List (Json.RecordField RequiredEntry) :=
  [("name", fun a j => (Json.readText a.name j).map fun v => { a with name := v }),
   ("nameComparison", fun a j =>
      (Json.readText a.nameComparison j).map fun v => { a with nameComparison := v }),
   ("value", fun a j => (Json.readText a.value j).map fun v => { a with value := v }),
   ("valueComparison", fun a j =>
      (Json.readText a.valueComparison j).map fun v => { a with valueComparison := v }),
   ("displayName", fun a j =>
      (Json.readText a.displayName j).map fun v => { a with displayName := v }),
   ("isDirectiveAttribute", fun a j =>
      (Json.readBool a.isDirectiveAttribute j).map fun v => { a with isDirectiveAttribute := v }),
   ("metadata", fun a j => (readMetadata a.metadata j).map fun v => { a with metadata := v })]

def ruleFields : List (Json.RecordField RuleEntry) :=
  [("tagName", fun r j => (Json.readText r.tagName j).map fun v => { r with tagName := v }),
   ("parentTag", fun r j => (Json.readText r.parentTag j).map fun v => { r with parentTag := v }),
   ("tagStructure", fun r j =>
      (Json.readText r.structure' j).map fun v => { r with structure' := v }),
   ("attributes", fun r j =>
      (Json.readRecords (recordName "RequiredAttributeDTO") {} requiredFields r.attributes j).map
        fun v => { r with attributes := v })]

def childTagFields : List (Json.RecordField ChildTagEntry) :=
  [("name", fun c j => (Json.readText c.name j).map fun v => { c with name := v }),
   ("displayName", fun c j =>
      (Json.readText c.displayName j).map fun v => { c with displayName := v })]

def helperFields : List (Json.RecordField Entry) :=
  [("kind", fun d j => (Json.readText d.kind j).map fun v => { d with kind := v }),
   ("name", fun d j => (Json.readText d.name j).map fun v => { d with name := v }),
   ("assembly", fun d j => (Json.readText d.assembly j).map fun v => { d with assembly := v }),
   ("displayName", fun d j =>
      (Json.readText d.displayName j).map fun v => { d with displayName := v }),
   ("documentation", fun d j =>
      (Json.readText d.documentation j).map fun v => { d with documentation := v }),
   ("tagOutputHint", fun d j =>
      (Json.readText d.outputHint j).map fun v => { d with outputHint := v }),
   ("caseSensitive", fun d j =>
      (Json.readBool d.caseSensitive j).map fun v => { d with caseSensitive := v }),
   ("fullyQualifiedNameMatch", fun d j =>
      (Json.readBool d.fullyQualified j).map fun v => { d with fullyQualified := v }),
   ("rules", fun d j =>
      (Json.readRecords (recordName "RuleDTO") {} ruleFields d.rules j).map
        fun v => { d with rules := v }),
   ("attributes", fun d j =>
      (Json.readRecords (recordName "AttributeDTO") {} attributeFields d.attributes j).map
        fun v => { d with attributes := v }),
   ("allowedChildTags", fun d j =>
      (Json.readRecords (recordName "ChildTagDTO") {} childTagFields d.childTags j).map
        fun v => { d with childTags := v }),
   ("metadata", fun d j => (readMetadata d.metadata j).map fun v => { d with metadata := v })]

def fields : List (Json.RecordField Manifest) :=
  [("version", fun m j => (Json.readInt m.version j).map fun v => { m with version := v }),
   ("tagHelpers", fun m j =>
      (Json.readRecords (recordName "DescriptorDTO") {} helperFields m.helpers j).map
        fun v => { m with helpers := v })]

def ofJson (j : Json) : Except Json.Mismatch Manifest :=
  Json.readInto (recordName "Manifest") fields {} j

/-- The set of a JSON text; what follows the first value is ignored.  Every member is built anew
with a draft of the pool, so that findings and digests never come from the text. -/
def readJson (t : Text) (pool : Pool) : Pool × Except ReadError TagHelperSet :=
  match Json.readPart t with
  | .error e => (pool, .error (.notJson e))
  | .ok (j, _) =>
    match ofJson j with
    | .error e => (pool, .error (.mismatch e))
    | .ok m => m.build pool

/-- A member for a text that is not empty. -/
def givenText (key : String) (t : Text) : List (String × Json) :=
  if t.isEmpty then [] else [(key, .string t)]

/-- A member for a truth value that holds. -/
def givenBool (key : String) (b : Bool) : List (String × Json) := if b then [(key, .bool b)] else []

/-- A member for a list that is not empty. -/
def givenList {α : Type} (key : String) (items : List α) (f : α → Json) : List (String × Json) :=
  if items.isEmpty then [] else [(key, Json.list items f)]

/-- A member for metadata that is not empty. -/
def givenMetadata (key : String) (m : Metadata) : List (String × Json) :=
  if m.entries.isEmpty then []
  else [(key, .object (m.entries.map fun e => (e.1, .string e.2)))]

def parameterJson (p : ParameterEntry) : Json := .record (
  givenText "kind" p.kind ++ [("name", .string p.name)] ++ givenText "typeName" p.typeName
    ++ givenText "displayName" p.displayName ++ givenText "documentation" p.documentation
    ++ givenBool "isEnum" p.isEnum ++ givenMetadata "metadata" p.metadata)

def attributeJson (a : AttributeEntry) : Json := .record (
  givenText "kind" a.kind ++ [("name", .string a.name)] ++ givenText "typeName" a.typeName
    ++ givenText "indexerPrefix" a.indexerStart ++ givenText "indexerTypeName" a.indexerTypeName
    ++ givenText "displayName" a.displayName ++ givenText "documentation" a.documentation
    ++ givenBool "isEnum" a.isEnum ++ givenBool "isDirectiveAttribute" a.isDirectiveAttribute
    ++ givenBool "isEditorRequired" a.isEditorRequired
    ++ givenList "parameters" a.parameters parameterJson ++ givenMetadata "metadata" a.metadata)

def requiredJson (a : RequiredEntry) : Json := .record (
  [("name", .string a.name)] ++ givenText "nameComparison" a.nameComparison
    ++ givenText "value" a.value ++ givenText "valueComparison" a.valueComparison
    ++ givenText "displayName" a.displayName
    ++ givenBool "isDirectiveAttribute" a.isDirectiveAttribute
    ++ givenMetadata "metadata" a.metadata)

def ruleJson (r : RuleEntry) : Json := .record (
  [("tagName", .string r.tagName)] ++ givenText "parentTag" r.parentTag
    ++ givenText "tagStructure" r.structure'
    ++ givenList "attributes" r.attributes requiredJson)

/-- The JSON form of an allowed child tag. -/
def childTagJson (c : ChildTagEntry) : Json := .record (
  [("name", .string c.name)] ++ givenText "displayName" c.displayName)

def helperJson (d : Entry) : Json := .record (
  [("kind", .string d.kind), ("name", .string d.name)] ++ givenText "assembly" d.assembly
    ++ givenText "displayName" d.displayName ++ givenText "documentation" d.documentation
    ++ givenText "tagOutputHint" d.outputHint ++ givenBool "caseSensitive" d.caseSensitive
    ++ givenBool "fullyQualifiedNameMatch" d.fullyQualified
    ++ givenList "rules" d.rules ruleJson ++ givenList "attributes" d.attributes attributeJson
    ++ givenList "allowedChildTags" d.childTags childTagJson
    ++ givenMetadata "metadata" d.metadata)

def toJson (m : Manifest) : Json :=
  .record [("version", .ofInt m.version), ("tagHelpers", Json.list m.helpers helperJson)]

def writeJson (s : TagHelperSet) : Text := (ofSet s).toJson.indented ++ "\n"

/-! ## MessagePack -/

/-- An entry for a text that is not empty. -/
def packedText (key : String) (t : Text) : List (Msgpack × Msgpack) :=
  if t.isEmpty then [] else [(.text key, .text t)]

/-- An entry for a truth value that holds. -/
def packedBool (key : String) (b : Bool) : List (Msgpack × Msgpack) :=
  if b then [(.text key, .bool b)] else []

/-- An entry for a list that is not empty. -/
def packedList {α : Type} (key : String) (items : List α) (f : α → Msgpack) :
    List (Msgpack × Msgpack) :=
  if items.isEmpty then [] else [(.text key, .array (items.map f))]

/-- An entry for metadata that is not empty. -/
def packedMetadata (key : String) (m : Metadata) : List (Msgpack × Msgpack) :=
  if m.entries.isEmpty then []
  else [(.text key, .map (m.entries.map fun e => (.text e.1, .text e.2)))]

def packParameter (p : ParameterEntry) : Msgpack := .map (
  packedText "k" p.kind ++ [(.text "n", .text p.name)] ++ packedText "t" p.typeName
    ++ packedText "dn" p.displayName ++ packedText "doc" p.documentation
    ++ packedBool "e" p.isEnum ++ packedMetadata "m" p.metadata)

def packAttribute (a : AttributeEntry) : Msgpack := .map (
  packedText "k" a.kind ++ [(.text "n", .text a.name)] ++ packedText "t" a.typeName
    ++ packedText "ip" a.indexerStart ++ packedText "it" a.indexerTypeName
    ++ packedText "dn" a.displayName ++ packedText "doc" a.documentation
    ++ packedBool "e" a.isEnum ++ packedBool "d" a.isDirectiveAttribute
    ++ packedBool "er" a.isEditorRequired ++ packedList "p" a.parameters packParameter
    ++ packedMetadata "m" a.metadata)

def packRequired (a : RequiredEntry) : Msgpack := .map (
  [(.text "n", .text a.name)] ++ packedText "nc" a.nameComparison ++ packedText "v" a.value
    ++ packedText "vc" a.valueComparison ++ packedText "dn" a.displayName
    ++ packedBool "d" a.isDirectiveAttribute ++ packedMetadata "m" a.metadata)

def packRule (r : RuleEntry) : Msgpack := .map (
  [(.text "t", .text r.tagName)] ++ packedText "p" r.parentTag
    ++ packedText "s" r.structure' ++ packedList "a" r.attributes packRequired)

/-- The packed form of an allowed child tag. -/
def packChildTag (c : ChildTagEntry) : Msgpack := .map (
  [(.text "n", .text c.name)] ++ packedText "dn" c.displayName)

def packHelper (d : Entry) : Msgpack := .map (
  [(.text "k", .text d.kind), (.text "n", .text d.name)] ++ packedText "a" d.assembly
    ++ packedText "dn" d.displayName ++ packedText "doc" d.documentation
    ++ packedText "oh" d.outputHint ++ packedBool "cs" d.caseSensitive
    ++ packedBool "fq" d.fullyQualified ++ packedList "r" d.rules packRule
    ++ packedList "at" d.attributes packAttribute ++ packedList "ch" d.childTags packChildTag
    ++ packedMetadata "m" d.metadata)

def pack (m : Manifest) : Msgpack :=
  .map [(.text "v", .int m.version), (.text "th", .array (m.helpers.map packHelper))]

def writePacked (s : TagHelperSet) : Text := (ofSet s).pack.write

def unpackMetadata (v : Msgpack) : Option Metadata := v.texts?.map Metadata.ofEntries

def unpackParameter : Msgpack → Option ParameterEntry :=
  Msgpack.record? {}
    [("k", fun p v => v.text?.map fun x => { p with kind := x }),
     ("n", fun p v => v.text?.map fun x => { p with name := x }),
     ("t", fun p v => v.text?.map fun x => { p with typeName := x }),
     ("dn", fun p v => v.text?.map fun x => { p with displayName := x }),
     ("doc", fun p v => v.text?.map fun x => { p with documentation := x }),
     ("e", fun p v => v.bool?.map fun x => { p with isEnum := x }),
     ("m", fun p v => (unpackMetadata v).map fun x => { p with metadata := x })]

def unpackAttribute : Msgpack → Option AttributeEntry :=
  Msgpack.record? {}
    [("k", fun a v => v.text?.map fun x => { a with kind := x }),
     ("n", fun a v => v.text?.map fun x => { a with name := x }),
     ("t", fun a v => v.text?.map fun x => { a with typeName := x }),
     ("ip", fun a v => v.text?.map fun x => { a with indexerStart := x }),
     ("it", fun a v => v.text?.map fun x => { a with indexerTypeName := x }),
     ("dn", fun a v => v.text?.map fun x => { a with displayName := x }),
     ("doc", fun a v => v.text?.map fun x => { a with documentation := x }),
     ("e", fun a v => v.bool?.map fun x => { a with isEnum := x }),
     ("d", fun a v => v.bool?.map fun x => { a with isDirectiveAttribute := x }),
     ("er", fun a v => v.bool?.map fun x => { a with isEditorRequired := x }),
     ("p", fun a v => (v.list? unpackParameter).map fun x => { a with parameters := x }),
     ("m", fun a v => (unpackMetadata v).map fun x => { a with metadata := x })]

def unpackRequired : Msgpack → Option RequiredEntry :=
  Msgpack.record? {}
    [("n", fun a v => v.text?.map fun x => { a with name := x }),
     ("nc", fun a v => v.text?.map fun x => { a with nameComparison := x }),
     ("v", fun a v => v.text?.map fun x => { a with value := x }),
     ("vc", fun a v => v.text?.map fun x => { a with valueComparison := x }),
     ("dn", fun a v => v.text?.map fun x => { a with displayName := x }),
     ("d", fun a v => v.bool?.map fun x => { a with isDirectiveAttribute := x }),
     ("m", fun a v => (unpackMetadata v).map fun x => { a with metadata := x })]

def unpackRule : Msgpack → Option RuleEntry :=
  Msgpack.record? {}
    [("t", fun r v => v.text?.map fun x => { r with tagName := x }),
     ("p", fun r v => v.text?.map fun x => { r with parentTag := x }),
     ("s", fun r v => v.text?.map fun x => { r with structure' := x }),
     ("a", fun r v => (v.list? unpackRequired).map fun x => { r with attributes := x })]

def unpackChildTag : Msgpack → Option ChildTagEntry :=
  Msgpack.record? {}
    [("n", fun c v => v.text?.map fun x => { c with name := x }),
     ("dn", fun c v => v.text?.map fun x => { c with displayName := x })]

def unpackHelper : Msgpack → Option Entry :=
  Msgpack.record? {}
    [("k", fun d v => v.text?.map fun x => { d with kind := x }),
     ("n", fun d v => v.text?.map fun x => { d with name := x }),
     ("a", fun d v => v.text?.map fun x => { d with assembly := x }),
     ("dn", fun d v => v.text?.map fun x => { d with displayName := x }),
     ("doc", fun d v => v.text?.map fun x => { d with documentation := x }),
     ("oh", fun d v => v.text?.map fun x => { d with outputHint := x }),
     ("cs", fun d v => v.bool?.map fun x => { d with caseSensitive := x }),
     ("fq", fun d v => v.bool?.map fun x => { d with fullyQualified := x }),
     ("r", fun d v => (v.list? unpackRule).map fun x => { d with rules := x }),
     ("at", fun d v => (v.list? unpackAttribute).map fun x => { d with attributes := x }),
     ("ch", fun d v => (v.list? unpackChildTag).map fun x => { d with childTags := x }),
     ("m", fun d v => (unpackMetadata v).map fun x => { d with metadata := x })]

def unpack? : Msgpack → Option Manifest :=
  Msgpack.record? {}
    [("v", fun m v => v.int?.map fun x => { m with version := x }),
     ("th", fun m v => (v.list? unpackHelper).map fun x => { m with helpers := x })]

def readPacked (t : Text) (pool : Pool) : Pool × Except ReadError TagHelperSet :=
  match (Msgpack.read? t).bind unpack? with
  | some m => m.build pool
  | none => (pool, .error .notPacked)

end Manifest

end TagHelper

end TemplateCompiler
