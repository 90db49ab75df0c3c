import TemplateCompiler.Diagnostic.Basic
import TemplateCompiler.TagHelper.Draft
import TemplateCompiler.Text.Case
import TemplateCompiler.Text.Quoted

/-!
# Checks of drafts

Names that markup could never write, blank names and names reserved for the browser are reported.
A check never refuses a draft: its findings are attached to the descriptor that is built.
-/

namespace TemplateCompiler

namespace TagHelper

def isComponentKind (kind : Text) : Bool := kind.startsWith "Components."

/-- The tag name that selects every element. -/
def catchAll : Text := "*"

/-- The characters that no bindable name contains. -/
def forbiddenCharacters : List Char := "@!</?[>]=\"'*".toList

/-- The first character of a name that markup cannot write. -/
def firstInvalid? (name : Text) : Option Char :=
  name.chars.find? fun c => Text.isBlank c || forbiddenCharacters.contains c

/-- The start of the names that are reserved for the browser. -/
def reservedStart : Text := "data-"

/-- Whether a name is reserved for the browser, in any case. -/
def isReserved (name : Text) : Bool :=
  reservedStart.length ≤ name.length && Text.equalFold (name.take reservedStart.length) reservedStart

/-- The sentence that a character is not allowed. -/
def notAllowed (c : Char) : Text := Text.quotedChar c ++ " is not allowed."

/-- Findings about the tag helper itself. -/
def Draft.check (d : Draft) : List Diagnostic :=
  if d.name.isAllBlank then
    [.unlocated .emptyHelperName ("Tag helper name cannot be null or whitespace (type "
      ++ (d.metadata.value Metadata.typeName).quoted ++ ").")]
  else []

/-- Findings about the tag name of a rule.  The name that selects every element is fine; any other
one must not be blank or have characters that no tag name has. -/
def checkTagName (name : Text) : List Diagnostic :=
  if name.isAllBlank then
    [.unlocated .emptyTagName "Tag name cannot be null or whitespace."]
  else if name == catchAll then []
  else match firstInvalid? name with
    | some c => [.unlocated .invalidTagName
        ("Invalid tag helper bound tag name " ++ name.quoted ++ ": " ++ notAllowed c)]
    | none => []

/-- Findings about the parent tag of a rule.  An empty one asks for nothing; any other one must not
be blank or have characters that no tag name has. -/
def checkParentTag (name : Text) : List Diagnostic :=
  if name.isEmpty then []
  else if name.isAllBlank then
    [.unlocated .invalidParentTag "Parent tag name cannot be whitespace."]
  else match firstInvalid? name with
    | some c => [.unlocated .invalidParentTag
        ("Invalid parent tag " ++ name.quoted ++ ": " ++ notAllowed c)]
    | none => []

def RuleDraft.check (r : RuleDraft) : List Diagnostic :=
  checkTagName r.tagName ++ checkParentTag r.parentTag

def RequiredAttributeDraft.check (a : RequiredAttributeDraft) : List Diagnostic :=
  if a.name.isAllBlank then
    [.unlocated .emptyRequiredAttribute "Required attribute name cannot be null or whitespace."]
  else
    match if a.isDirectiveAttribute then a.name.stripStart? "@" else some a.name with
    | none => [.unlocated .missingSigil
        ("Required directive attribute " ++ a.name.quoted ++ " must start with '@'.")]
    | some name =>
      match firstInvalid? name with
      | some c => [.unlocated .invalidRequiredAttribute
          ("Invalid required attribute " ++ a.name.quoted ++ ": " ++ notAllowed c)]
      | none => []

/-- Findings about an allowed child tag. -/
def ChildTagDraft.check (c : ChildTagDraft) (owner : Draft) : List Diagnostic :=
  if c.name.isAllBlank then
    [.unlocated .emptyChildTag ("Tag helper " ++ owner.name.quoted
      ++ " has an allowed child tag that is null or whitespace.")]
  else match firstInvalid? c.name with
    | some bad => [.unlocated .invalidChildTag ("Tag helper " ++ owner.name.quoted
        ++ " allows invalid child tag " ++ c.name.quoted ++ ": " ++ notAllowed bad)]
    | none => []

/-- Findings about the name, or the indexer start, of a bound attribute.  The sigil of a directive
attribute is not part of the name that is checked. -/
def checkAttributeName (name : Text) (isDirective mayBeReserved : Bool) (owner : Text)
    (reservedCode characterCode : DiagnosticCode) : List Diagnostic :=
  let characters (checked : Text) : List Diagnostic :=
    match firstInvalid? checked with
    | some c => [.unlocated characterCode ("Invalid bound attribute " ++ name.quoted
        ++ " on tag helper " ++ owner.quoted ++ ": " ++ notAllowed c)]
    | none => []
  if isDirective then
    match name.stripStart? "@" with
    | none => [.unlocated .missingSigil ("Directive attribute " ++ name.quoted
        ++ " on tag helper " ++ owner.quoted ++ " must start with '@'.")]
    | some rest => characters rest
  else if !mayBeReserved && isReserved name then
    .unlocated reservedCode ("Invalid bound attribute " ++ name.quoted ++ " on tag helper "
      ++ owner.quoted ++ ": names starting with " ++ reservedStart.quoted ++ " are reserved.")
      :: characters name
  else characters name

/-- Findings about a bound attribute. -/
def AttributeDraft.check (a : AttributeDraft) (owner : Draft) : List Diagnostic :=
  let mayBeReserved := isComponentKind owner.kind
  (if a.name.isAllBlank then
    if a.indexerStart.isEmpty then
      [.unlocated .emptyAttributeName ("Bound attribute on tag helper " ++ owner.name.quoted
        ++ " has a null or whitespace name.")]
    else []
   else checkAttributeName a.name a.isDirectiveAttribute mayBeReserved owner.name
      .dataAttribute .invalidAttributeName)
  ++
  (if a.indexerStart.isEmpty then []
   else if a.indexerStart.isAllBlank then
    [.unlocated .invalidIndexer ("Indexer prefix of bound attribute " ++ a.name.quoted
      ++ " on tag helper " ++ owner.name.quoted ++ " is whitespace.")]
   else checkAttributeName a.indexerStart a.isDirectiveAttribute mayBeReserved owner.name
      .dataIndexer .invalidIndexer)

/-- Findings about a parameter of the attribute named `owner`. -/
def ParameterDraft.check (p : ParameterDraft) (owner : Text) : List Diagnostic :=
  if p.name.isAllBlank then
    [.unlocated .emptyParameterName ("Parameter of bound attribute " ++ owner.quoted
      ++ " has a null or whitespace name.")]
  else match firstInvalid? p.name with
    | some c => [.unlocated .invalidParameterName ("Invalid parameter " ++ p.name.quoted
        ++ " of bound attribute " ++ owner.quoted ++ ": " ++ notAllowed c)]
    | none => []

end TagHelper

end TemplateCompiler
