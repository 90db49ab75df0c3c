import TemplateCompiler.Text.Basic

/-!
# Diagnostic codes

Every diagnostic carries a number.  Its thousands say where it comes from: template text, tag
helpers, the intermediate representation, input and output, or measurements.
-/

namespace TemplateCompiler

/-- The number of a kind of diagnostic.  Numbers are grouped by thousands according to where
findings come from, and each has a stable written form and a title. -/
structure DiagnosticCode where
  number : Nat
  deriving DecidableEq, Repr, Inhabited

namespace DiagnosticCode

/-- Directive may only occur once per document. -/
def duplicateDirective : DiagnosticCode := ⟨2101⟩

/-- Directive is missing a required token. -/
def missingToken : DiagnosticCode := ⟨2102⟩

/-- Unexpected content after directive. -/
def trailingContent : DiagnosticCode := ⟨2103⟩

/-- Unterminated code block. -/
def unterminatedBlock : DiagnosticCode := ⟨2104⟩

/-- Unterminated explicit expression. -/
def unterminatedExpression : DiagnosticCode := ⟨2105⟩

/-- End tag has no matching start tag. -/
def unmatchedEndTag : DiagnosticCode := ⟨2106⟩

/-- Unterminated template comment. -/
def unterminatedComment : DiagnosticCode := ⟨2107⟩

/-- Unexpected character after transition. -/
def unexpectedAfterAt : DiagnosticCode := ⟨2108⟩

/-- Directive expects a block. -/
def missingBlock : DiagnosticCode := ⟨2109⟩

/-- Directive must appear at the top level. -/
def notTopLevel : DiagnosticCode := ⟨2110⟩

/-- Tag helper directive requires a lookup text. -/
def lookupMissing : DiagnosticCode := ⟨2111⟩

/-- Invalid tag helper prefix. -/
def helperPrefixInvalid : DiagnosticCode := ⟨2112⟩

/-- Directive token has the wrong shape. -/
def invalidToken : DiagnosticCode := ⟨2113⟩

/-- Unterminated string directive token. -/
def unterminatedString : DiagnosticCode := ⟨2114⟩

/-- Unterminated start tag. -/
def unterminatedStartTag : DiagnosticCode := ⟨2115⟩

/-- Bound attribute name is empty. -/
def emptyAttributeName : DiagnosticCode := ⟨3001⟩

/-- Bound attribute name contains an invalid character. -/
def invalidAttributeName : DiagnosticCode := ⟨3002⟩

/-- Bound attribute name starts with data-. -/
def dataAttribute : DiagnosticCode := ⟨3003⟩

/-- Bound attribute indexer prefix contains an invalid character. -/
def invalidIndexer : DiagnosticCode := ⟨3004⟩

/-- Bound attribute indexer prefix starts with data-. -/
def dataIndexer : DiagnosticCode := ⟨3005⟩

/-- Directive attribute name must start with @. -/
def missingSigil : DiagnosticCode := ⟨3006⟩

/-- Bound attribute parameter name is empty. -/
def emptyParameterName : DiagnosticCode := ⟨3007⟩

/-- Bound attribute parameter name contains an invalid character. -/
def invalidParameterName : DiagnosticCode := ⟨3008⟩

/-- Tag matching rule has an empty tag name. -/
def emptyTagName : DiagnosticCode := ⟨3009⟩

/-- Tag matching rule tag name contains an invalid character. -/
def invalidTagName : DiagnosticCode := ⟨3010⟩

/-- Tag matching rule parent tag contains an invalid character. -/
def invalidParentTag : DiagnosticCode := ⟨3011⟩

/-- Required attribute name is empty. -/
def emptyRequiredAttribute : DiagnosticCode := ⟨3012⟩

/-- Required attribute name contains an invalid character. -/
def invalidRequiredAttribute : DiagnosticCode := ⟨3013⟩

/-- Allowed child tag name is empty. -/
def emptyChildTag : DiagnosticCode := ⟨3014⟩

/-- Allowed child tag name contains an invalid character. -/
def invalidChildTag : DiagnosticCode := ⟨3015⟩

/-- Tag helper name is empty. -/
def emptyHelperName : DiagnosticCode := ⟨3016⟩

/-- Minimized attribute is bound to a non-boolean property. -/
def minimizedNonBoolean : DiagnosticCode := ⟨3101⟩

/-- Bound attribute value is empty. -/
def emptyBoundValue : DiagnosticCode := ⟨3102⟩

/-- Tag is not allowed as a child of the tag helper. -/
def invalidNestedTag : DiagnosticCode := ⟨3103⟩

/-- Tag helpers disagree on tag structure. -/
def inconsistentStructure : DiagnosticCode := ⟨3104⟩

/-- Tag helper element is missing an end tag. -/
def missingEndTag : DiagnosticCode := ⟨3105⟩

/-- Indexer attribute is missing a key. -/
def indexerMissingKey : DiagnosticCode := ⟨3106⟩

/-- Unknown directive attribute parameter. -/
def unknownParameter : DiagnosticCode := ⟨3107⟩

/-- Comments are not allowed inside tag helpers that restrict children. -/
def commentInTagHelper : DiagnosticCode := ⟨3108⟩

/-- Tag helper start tag contains code in the attribute area. -/
def codeInAttributeArea : DiagnosticCode := ⟨3109⟩

/-- Malformed directive. -/
def malformedDirective : DiagnosticCode := ⟨4001⟩

/-- Sections cannot be nested. -/
def nestedSection : DiagnosticCode := ⟨4002⟩

/-- @page must precede all other content. -/
def pageMisplaced : DiagnosticCode := ⟨4003⟩

/-- Section is already defined. -/
def duplicateSection : DiagnosticCode := ⟨4004⟩

/-- Information about reading and writing. -/
def ioInformation : DiagnosticCode := ⟨5000⟩

/-- Failed to load source. -/
def loadFailed : DiagnosticCode := ⟨5001⟩

/-- Import document could not be read. -/
def importUnavailable : DiagnosticCode := ⟨5002⟩

/-- Tag helper manifest is invalid. -/
def manifestInvalid : DiagnosticCode := ⟨5003⟩

/-- Pipeline timings. -/
def timings : DiagnosticCode := ⟨6001⟩

/-- The titles of the known codes. -/
def titles : List (Nat × String) :=
  [(0, "Unknown error"),
   (2100, "Template syntax information"),
   (2101, "Directive may only occur once per document"),
   (2102, "Directive is missing a required token"),
   (2103, "Unexpected content after directive"),
   (2104, "Unterminated code block"),
   (2105, "Unterminated explicit expression"),
   (2106, "End tag has no matching start tag"),
   (2107, "Unterminated template comment"),
   (2108, "Unexpected character after transition"),
   (2109, "Directive expects a block"),
   (2110, "Directive must appear at the top level"),
   (2111, "Tag helper directive requires a lookup text"),
   (2112, "Invalid tag helper prefix"),
   (2113, "Directive token has the wrong shape"),
   (2114, "Unterminated string directive token"),
   (2115, "Unterminated start tag"),
   (3000, "Tag helper information"),
   (3001, "Bound attribute name is empty"),
   (3002, "Bound attribute name contains an invalid character"),
   (3003, "Bound attribute name starts with data-"),
   (3004, "Bound attribute indexer prefix contains an invalid character"),
   (3005, "Bound attribute indexer prefix starts with data-"),
   (3006, "Directive attribute name must start with @"),
   (3007, "Bound attribute parameter name is empty"),
   (3008, "Bound attribute parameter name contains an invalid character"),
   (3009, "Tag matching rule has an empty tag name"),
   (3010, "Tag matching rule tag name contains an invalid character"),
   (3011, "Tag matching rule parent tag contains an invalid character"),
   (3012, "Required attribute name is empty"),
   (3013, "Required attribute name contains an invalid character"),
   (3014, "Allowed child tag name is empty"),
   (3015, "Allowed child tag name contains an invalid character"),
   (3016, "Tag helper name is empty"),
   (3101, "Minimized attribute is bound to a non-boolean property"),
   (3102, "Bound attribute value is empty"),
   (3103, "Tag is not allowed as a child of the tag helper"),
   (3104, "Tag helpers disagree on tag structure"),
   (3105, "Tag helper element is missing an end tag"),
   (3106, "Indexer attribute is missing a key"),
   (3107, "Unknown directive attribute parameter"),
   (3108, "Comments are not allowed inside tag helpers that restrict children"),
   (3109, "Tag helper start tag contains code in the attribute area"),
   (4000, "Intermediate representation information"),
   (4001, "Malformed directive"),
   (4002, "Sections cannot be nested"),
   (4003, "@page must precede all other content"),
   (4004, "Section is already defined"),
   (5000, "I/O information"),
   (5001, "Failed to load source"),
   (5002, "Import document could not be read"),
   (5003, "Tag helper manifest is invalid"),
   (6000, "Observability information"),
   (6001, "Pipeline timings")]

/-- The title of a code; codes that are not known share one. -/
def title (c : DiagnosticCode) : Text :=
  match titles.find? fun entry => entry.1 == c.number with
  | some entry => entry.2
  | none => "Unknown error"

/-- The families of codes by their thousands. -/
def familyName? (thousands : Nat) : Option String :=
  match thousands with
  | 2 => some "SYN"
  | 3 => some "THL"
  | 4 => some "IRL"
  | 5 => some "IO"
  | 6 => some "OBS"
  | _ => none

/-- The identifier of a code: the name of its family and four digits. -/
def id (c : DiagnosticCode) : Text :=
  match familyName? (c.number / 1000) with
  | some family => Text.ofString family ++ Text.ofNatPadded 4 c.number
  | none => "E0000"

/-- The written form of a code. -/
def text (c : DiagnosticCode) : Text := "[" ++ c.id ++ "]: " ++ c.title

end DiagnosticCode

end TemplateCompiler
