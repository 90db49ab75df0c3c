import TemplateCompiler.Directive.Standard
import TemplateCompiler.Pipeline.Document
import TemplateCompiler.Text.Quoted

/-!
# Which tag helpers are in scope

A component sees every tag helper of a component kind.  Any other document sees what its directives
select: they are followed one after another, those of the imports first, and each one that adds or
removes tag helpers changes the selection.
-/

namespace TemplateCompiler

namespace Discovery

/-- What a directive selects: tag helpers of an assembly, by a pattern for their type. -/
structure Lookup where
  /-- A star, a type name, or the start of type names followed by a star. -/
  pattern : Text
  assembly : Text
  deriving DecidableEq, Repr

namespace Lookup

def accepts (pattern typeName : Text) : Bool :=
  if pattern == "*" then true
  else match pattern.stripEnd? "*" with
    | some start => typeName.startsWith start
    | none => typeName == pattern

def selects (l : Lookup) (h : TagHelper) : Bool :=
  h.assembly.equalFold l.assembly
    && accepts l.pattern (if h.typeName.isEmpty then h.name else h.typeName)

/-- The lookup that a text describes: a pattern and an assembly, separated by a comma. -/
def read? (text : Text) : Option Lookup :=
  match text.cutAtByte? ','.toUInt8 with
  | none => none
  | some (pattern, assembly) =>
    let pattern := pattern.trimBlank
    let assembly := assembly.trimBlank
    if pattern.isEmpty || assembly.isEmpty then none else some ⟨pattern, assembly⟩

end Lookup

/-- The characters that the start of tag names cannot have. -/
def isInvalidInStart (c : Char) : Bool :=
  " \t\n\r!@<>/?[]=\"'*".toList.contains c

/-- What the directives have selected so far, in the order in which they come: first those of the
imports and then those of the document. -/
structure Selection where
  tagStart : Text := []
  selected : List TagHelper := []
  found : List Diagnostic := []

namespace Selection

/-- Add the tag helpers that a lookup selects and that are not selected yet. -/
def add (s : Selection) (available : List TagHelper) (l : Lookup) : Selection :=
  { s with selected := TagHelperSet.distinctFrom [] (s.selected ++ available.filter l.selects) }

/-- Remove the tag helpers that a lookup selects. -/
def remove (s : Selection) (l : Lookup) : Selection :=
  { s with selected := s.selected.filter fun h => !l.selects h }

/-- Follow a lookup, or report that its text describes none.  A text that is reported leaves the
selection as it is. -/
def lookup (s : Selection) (token : Syntax.DirectiveToken) (follow : Selection → Lookup → Selection) :
    Selection :=
  let text := token.value.trimBlank
  match Lookup.read? text with
  | some l => follow s l
  | none =>
    { s with found := s.found ++ [.error .lookupMissing token.span
        ("invalid tag helper lookup text " ++ text.quoted
          ++ ": expected \"<type pattern>, <assembly>\"")] }

/-- Require tag names to start with a text, or report why they cannot.  The last valid requirement
holds for the whole document. -/
def requireStart (s : Selection) (token : Syntax.DirectiveToken) : Selection :=
  let start := token.value.trimBlank
  match start.chars.find? isInvalidInStart with
  | some c =>
    { s with found := s.found ++ [.error .helperPrefixInvalid token.span
        ("invalid tag helper prefix " ++ start.quoted ++ ": character " ++ Text.quotedChar c
          ++ " is not allowed")] }
  | none => { s with tagStart := start }

/-- Follow a directive.  Malformed ones and those without tokens are passed over, and so is any
directive that says nothing about tag helpers. -/
def follow (available : List TagHelper) (s : Selection) (d : Syntax.DirectiveHead) : Selection :=
  match d.tokens with
  | [] => s
  | token :: _ =>
    if d.isMalformed then s
    else if d.keyword == DirectiveDescriptor.addTagHelper.keyword then
      s.lookup token fun s l => s.add available l
    else if d.keyword == DirectiveDescriptor.removeTagHelper.keyword then
      s.lookup token remove
    else if d.keyword == DirectiveDescriptor.tagHelperPrefix.keyword then s.requireStart token
    else s

end Selection

/-- The tag helpers in scope of a document with the given tag helpers to choose from, and what was
found about the directives. -/
def discover (all : List TagHelper) (kind : FileKind) (tree : Syntax.Tree)
    (imports : List Syntax.Tree) : HelperScope × List Diagnostic :=
  if kind.isComponent then
    ({ helpers := all.filter fun h => TagHelper.isComponentKind h.kind }, [])
  else
    let available := all.filter fun h => !TagHelper.isComponentKind h.kind
    let directives := imports.flatMap Syntax.Tree.directives ++ tree.directives
    let s := directives.foldl (Selection.follow available) {}
    ({ tagStart := s.tagStart, helpers := s.selected }, s.found)

end Discovery

end TemplateCompiler
