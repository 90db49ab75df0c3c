import TemplateCompiler.Digest.Fields
import TemplateCompiler.Text.Quoted

/-!
# Directive descriptors

A directive is a keyword after an at sign, followed by tokens and possibly a block.  A descriptor
says which tokens a keyword takes, what body follows them and how often the directive may occur.
Descriptors are made by `DirectiveDescriptor.make`, which refuses grammars that could not be read:
keywords are words of letters, and no required token follows an optional one.
-/

namespace TemplateCompiler

/-- The shape of a directive's body: what may follow its tokens, and so where the directive ends. -/
inductive DirectiveKind where
  /-- Tokens only; the directive ends at the line break. -/
  | singleLine
  /-- Tokens followed by a block of markup. -/
  | markupBlock
  /-- Tokens followed by a block of code. -/
  | codeBlock
  /-- A kind this language does not define. -/
  | unknown (ordinal : UInt8)
  deriving DecidableEq, Repr

namespace DirectiveKind

def ofOrdinal (n : UInt8) : DirectiveKind :=
  if n == 0 then singleLine else if n == 1 then markupBlock else if n == 2 then codeBlock
  else unknown n

def ordinal : DirectiveKind → Nat
  | singleLine => 0
  | markupBlock => 1
  | codeBlock => 2
  | unknown n => n.toNat

def name : DirectiveKind → Text
  | singleLine => "single-line"
  | markupBlock => "razor-block"
  | codeBlock => "code-block"
  | unknown _ => "unknown"

end DirectiveKind

/-- How often and where a directive may occur in one file. -/
inductive DirectiveUsage where
  | unrestricted
  /-- At the top level, at most once. -/
  | fileScopedOnce
  /-- At the top level, any number of times. -/
  | fileScopedMany
  /-- A usage this language does not define; it counts as restricted to the top level. -/
  | unknown (ordinal : UInt8)
  deriving DecidableEq, Repr

namespace DirectiveUsage

def ofOrdinal (n : UInt8) : DirectiveUsage :=
  if n == 0 then unrestricted else if n == 1 then fileScopedOnce else if n == 2 then fileScopedMany
  else unknown n

def ordinal : DirectiveUsage → Nat
  | unrestricted => 0
  | fileScopedOnce => 1
  | fileScopedMany => 2
  | unknown n => n.toNat

/-- Whether the directive has to be at the top level. -/
def isFileScoped (u : DirectiveUsage) : Bool := u != unrestricted

def name : DirectiveUsage → Text
  | unrestricted => "unrestricted"
  | fileScopedOnce => "file-scoped-single"
  | fileScopedMany => "file-scoped-multiple"
  | unknown _ => "unknown"

end DirectiveUsage

/-- The lexical shape of a directive token, which decides how many bytes the token takes and whether
it is well-formed. -/
inductive DirectiveTokenKind where
  | type
  | namespaceName
  | member
  | string
  | attributeSection
  | boolean
  | genericConstraint
  | identifierOrExpression
  /-- A shape this language does not define. -/
  | unknown (ordinal : UInt8)
  deriving DecidableEq, Repr

namespace DirectiveTokenKind

/-- The defined kinds in the order of their ordinals. -/
def defined : List DirectiveTokenKind :=
  [type, namespaceName, member, string, attributeSection, boolean, genericConstraint,
    identifierOrExpression]

def ofOrdinal (n : UInt8) : DirectiveTokenKind := (defined[n.toNat]?).getD (unknown n)

def ordinal : DirectiveTokenKind → Nat
  | type => 0
  | namespaceName => 1
  | member => 2
  | string => 3
  | attributeSection => 4
  | boolean => 5
  | genericConstraint => 6
  | identifierOrExpression => 7
  | unknown n => n.toNat

def name : DirectiveTokenKind → Text
  | type => "type"
  | namespaceName => "namespace"
  | member => "member"
  | string => "string"
  | attributeSection => "attribute"
  | boolean => "boolean"
  | genericConstraint => "generic-constraint"
  | identifierOrExpression => "identifier-or-expression"
  | unknown _ => "unknown"

end DirectiveTokenKind

/-- One token slot of a directive's grammar: the shape that is expected there, its name in messages,
and whether a directive may end in front of it. -/
structure DirectiveSlot where
  kind : DirectiveTokenKind
  name : Text
  optional : Bool := false
  deriving DecidableEq, Repr

/-- What a directive takes after its keyword, slot by slot, together with how often it may occur in
a document and how it is described to users. -/
structure DirectiveGrammar where
  usage : DirectiveUsage := .unrestricted
  displayName : Text := []
  description : Text := []
  slots : List DirectiveSlot := []
  deriving DecidableEq, Repr

/-- A directive of the language: its keyword, the shape of its body and its grammar, with a digest
that tells it from others.  The parser knows no other directives than those it is given. -/
structure DirectiveDescriptor where
  keyword : Text
  kind : DirectiveKind
  grammar : DirectiveGrammar
  digest : Digest
  deriving DecidableEq

namespace DirectiveDescriptor

/-- The tokens that the directive takes. -/
def slots (d : DirectiveDescriptor) : List DirectiveSlot := d.grammar.slots

/-- How often the directive may occur. -/
def usage (d : DirectiveDescriptor) : DirectiveUsage := d.grammar.usage

/-- The name shown for the directive, its keyword unless another was given. -/
def displayName (d : DirectiveDescriptor) : Text :=
  if d.grammar.displayName.isEmpty then d.keyword else d.grammar.displayName

/-- The number of required tokens, which all come before the optional ones. -/
def requiredSlots (d : DirectiveDescriptor) : Nat :=
  (d.slots.takeWhile fun s => !s.optional).length

def text (d : DirectiveDescriptor) : Text := "@" ++ d.keyword

def fields (keyword : Text) (kind : DirectiveKind) (grammar : DirectiveGrammar) :
    List Digest.Field :=
  [.record 'D'.toUInt8, .text keyword, .ordinal kind.ordinal, .ordinal grammar.usage.ordinal,
    .size grammar.slots.length]
    ++ grammar.slots.flatMap fun slot =>
      [.ordinal slot.kind.ordinal, .optional slot.name, .bool slot.optional]

end DirectiveDescriptor

/-- Why a directive cannot be defined.  A keyword has to be a name, and a slot that may be left out
can only be followed by others of this kind. -/
inductive DirectiveError where
  | emptyKeyword
  | invalidKeyword (keyword : Text)
  | requiredAfterOptional (keyword : Text) (index : Nat) (kind : DirectiveTokenKind)
  deriving DecidableEq, Repr

def DirectiveError.message : DirectiveError → Text
  | .emptyKeyword => "directive keyword is empty"
  | .invalidKeyword keyword =>
    "directive keyword must contain letters only: " ++ keyword.quoted
  | .requiredAfterOptional keyword index kind =>
    "@" ++ keyword ++ " token " ++ Text.ofNat index ++ " (" ++ kind.name
      ++ "): required directive token follows an optional token"

namespace DirectiveDescriptor

/-- The first required slot that follows an optional one, with its place. -/
def misplacedSlot? (slots : List DirectiveSlot) : Option (Nat × DirectiveSlot) :=
  let fixed := slots.takeWhile fun s => !s.optional
  let rest := slots.dropWhile fun s => !s.optional
  match rest.findIdx? fun s => !s.optional with
  | some i => (rest[i]?).map fun slot => (fixed.length + i, slot)
  | none => none

/-- Define a directive, or say what is wrong with it. -/
def make (keyword : Text) (kind : DirectiveKind) (grammar : DirectiveGrammar) :
    Except DirectiveError DirectiveDescriptor :=
  if keyword.isEmpty then .error .emptyKeyword
  else if !keyword.chars.all Text.isLetter then .error (.invalidKeyword keyword)
  else match misplacedSlot? grammar.slots with
    | some (index, slot) => .error (.requiredAfterOptional keyword index slot.kind)
    | none => .ok ⟨keyword, kind, grammar, .ofFields (fields keyword kind grammar)⟩

/-- A directive of the language itself, whose grammar is known to be sound. -/
def builtin (keyword : String) (kind : DirectiveKind) (description : String)
    (slots : List DirectiveSlot) (usage : DirectiveUsage := .unrestricted)
    (displayName : String := "") : DirectiveDescriptor :=
  let grammar : DirectiveGrammar :=
    { usage, slots, displayName := Text.ofString displayName
      description := Text.ofString description }
  ⟨keyword, kind, grammar, .ofFields (fields keyword kind grammar)⟩

end DirectiveDescriptor

end TemplateCompiler
