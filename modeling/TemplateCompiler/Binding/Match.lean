import TemplateCompiler.TagHelper.Basic

/-!
# Matching names and rules

Which elements a rule selects, and which bound attribute gives meaning to a written attribute.
Names are compared without regard to case unless a descriptor asks for it; values always with
regard to it.
-/

namespace TemplateCompiler

namespace Binding

/-- An attribute of a start tag as the rules of tag helpers see it: its name as it is written, and
its value where that is known without running the template. -/
structure WrittenAttribute where
  name : Text
  value : Text := []
  /-- The value is computed and not known when binding. -/
  dynamic : Bool := false
  minimized : Bool := false
  deriving DecidableEq, Repr

def equalName (a b : Text) (caseSensitive : Bool) : Bool :=
  if caseSensitive then a == b else a.equalFold b

/-- Whether a name starts with another one.  The comparison takes as many bytes of the name as the
other one has. -/
def nameStartsWith (name start : Text) (caseSensitive : Bool) : Bool :=
  start.length ≤ name.length && equalName (name.take start.length) start caseSensitive

/-- The parts of an attribute name before and after its first colon. -/
def splitParameter (name : Text) : Text × Option Text :=
  match name.cutAtByte? ':'.toUInt8 with
  | some (base, parameter) => (base, some parameter)
  | none => (name, none)

/-! ## Rules -/

/-- Whether a rule accepts a tag name.  A rule with a blank name accepts none. -/
def acceptsTag (rule : TagHelper.Rule) (tagName : Text) : Bool :=
  if rule.tagName.isAllBlank then false
  else rule.isCatchAll || equalName tagName rule.tagName rule.caseSensitive

/-- Whether a rule accepts the name of the parent. -/
def acceptsParent (rule : TagHelper.Rule) (parentTag : Text) : Bool :=
  rule.parentTag.isEmpty || equalName parentTag rule.parentTag rule.caseSensitive

/-- Whether a written attribute has the name that is required. -/
def acceptsName (required : TagHelper.RequiredAttribute) (name : Text) : Bool :=
  match required.nameComparison with
  | .full =>
    let name := if required.isDirectiveAttribute then (splitParameter name).1 else name
    equalName name required.name required.caseSensitive
  | .leading =>
    required.name.length < name.length && nameStartsWith name required.name required.caseSensitive
  | .unknown .. => true

/-- Whether a written attribute has the value that is required.  A computed value is accepted only
where any value is. -/
def acceptsValue (required : TagHelper.RequiredAttribute) (written : WrittenAttribute) : Bool :=
  match required.valueComparison with
  | .none => true
  | .full => !written.dynamic && written.value == required.value
  | .leading => !written.dynamic && written.value.startsWith required.value
  | .trailing => !written.dynamic && written.value.endsWith required.value
  | .unknown .. => false

def acceptsAttribute (required : TagHelper.RequiredAttribute) (written : WrittenAttribute) : Bool :=
  acceptsName required written.name && acceptsValue required written

/-- Whether every required attribute is written. -/
def acceptsAttributes (rule : TagHelper.Rule) (written : List WrittenAttribute) : Bool :=
  rule.attributes.all fun required => written.any (acceptsAttribute required)

def selects (rule : TagHelper.Rule) (tagName parentTag : Text) (written : List WrittenAttribute) :
    Bool :=
  acceptsTag rule tagName && acceptsParent rule parentTag && acceptsAttributes rule written

/-! ## Bound attributes -/

/-- The part of a written name that the names of an attribute are compared with. -/
def comparedName (bound : TagHelper.BoundAttribute) (written : Text) : Text :=
  if bound.flags.isDirectiveAttribute then (splitParameter written).1 else written

def matchesName (bound : TagHelper.BoundAttribute) (written : Text) : Bool :=
  !bound.name.isEmpty &&
    equalName (comparedName bound written) bound.name bound.flags.caseSensitive

/-- Whether a written name starts like the entries of an attribute's dictionary. -/
def startsLikeEntry (bound : TagHelper.BoundAttribute) (written : Text) : Bool :=
  bound.flags.hasIndexer && !bound.indexerStart.isEmpty &&
    nameStartsWith (comparedName bound written) bound.indexerStart
      bound.flags.caseSensitive

/-- Whether a written name is an entry of an attribute's dictionary, and not its name. -/
def matchesIndexer (bound : TagHelper.BoundAttribute) (written : Text) : Bool :=
  !matchesName bound written && startsLikeEntry bound written

/-- Whether a written name is the start of a dictionary's entries without a key. -/
def missesKey (bound : TagHelper.BoundAttribute) (written : Text) : Bool :=
  matchesIndexer bound written && written.length == bound.indexerStart.length

/-- Whether a written name has a parameter of an attribute. -/
def matchesParameter (bound : TagHelper.BoundAttribute) (parameter : TagHelper.Parameter)
    (written : Text) : Bool :=
  match (splitParameter written).2 with
  | some name => equalName name parameter.name bound.flags.caseSensitive
  | none => false

/-- Whether the values written under a name are texts. -/
def expectsString (bound : TagHelper.BoundAttribute) (written : Text) : Bool :=
  if matchesIndexer bound written then bound.flags.isIndexerString
  else bound.flags.isString

/-- Whether the values written under a name are truth values. -/
def expectsBoolean (bound : TagHelper.BoundAttribute) (written : Text) : Bool :=
  if matchesIndexer bound written then bound.flags.isIndexerBoolean
  else bound.flags.isBoolean

/-- What governs a written attribute: a bound attribute, one of its parameters, or an entry of its
dictionary. -/
structure AttributeMatch where
  bound : TagHelper.BoundAttribute
  parameter? : Option TagHelper.Parameter := none
  indexer : Bool := false
  deriving DecidableEq

namespace AttributeMatch

def expectsString (m : AttributeMatch) : Bool :=
  match m.parameter? with
  | some p => p.flags.isString
  | none => if m.indexer then m.bound.flags.isIndexerString else m.bound.flags.isString

def expectsBoolean (m : AttributeMatch) : Bool :=
  match m.parameter? with
  | some p => p.flags.isBoolean
  | none => if m.indexer then m.bound.flags.isIndexerBoolean else m.bound.flags.isBoolean

def typeName (m : AttributeMatch) : Text :=
  match m.parameter? with
  | some p => p.typeName
  | none => if m.indexer then m.bound.indexerTypeName else m.bound.typeName

end AttributeMatch

/-- How an attribute governs a written name that is its own, if it does: with a parameter in the
name, a directive attribute needs that parameter. -/
def namedMatch? (bound : TagHelper.BoundAttribute) (written : Text) : Option AttributeMatch :=
  if !matchesName bound written then none
  else if (splitParameter written).2.isSome && bound.flags.isDirectiveAttribute then
    (bound.parameters.find? fun p => matchesParameter bound p written).map
      fun p => ⟨bound, some p, false⟩
  else some ⟨bound, none, false⟩

/-- What governs a written name among the attributes of a tag helper: the attributes of that name,
or, if there are none, the dictionaries it is an entry of. -/
def governing (helper : TagHelper) (written : Text) : List AttributeMatch :=
  match helper.attributes.filterMap fun a => namedMatch? a written with
  | [] => (helper.attributes.filter fun a => matchesIndexer a written).map fun a => ⟨a, none, true⟩
  | named => named

/-- The first match among tag helpers. -/
def resolve? (helpers : List TagHelper) (written : Text) : Option AttributeMatch :=
  (helpers.flatMap fun d => governing d written).head?

end Binding

end TemplateCompiler
