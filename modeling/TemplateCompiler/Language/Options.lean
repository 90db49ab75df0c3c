import TemplateCompiler.Directive.Basic
import TemplateCompiler.Language.FileKind
import TemplateCompiler.Language.Version

/-!
# Options of the parser and of the code writer
-/

namespace TemplateCompiler

/-- What the parser is told about a file: the version of the language, the kind of the file and the
directives that are known, and whether it has to read the whole of it. -/
structure ParserOptions where
  version : LanguageVersion := .latest
  fileKind : FileKind := .legacy
  directives : List DirectiveDescriptor := []
  designTime : Bool := false
  /-- Read only the directives before the first content. -/
  leadingDirectivesOnly : Bool := false

namespace ParserOptions

def features (o : ParserOptions) : LanguageFeatures := o.version.features

/-- Why the parser cannot honor its options. -/
inductive Conflict where
  | invalidVersion (ordinal : Nat)
  /-- Leading-directive parsing and design time exclude each other. -/
  | leadingAtDesignTime
  | componentNeedsVersion (kind : FileKind)
  deriving DecidableEq, Repr

def Conflict.message : Conflict → Text
  | .invalidVersion ordinal => "parser options: invalid language version " ++ Text.ofNat ordinal
  | .leadingAtDesignTime =>
    "conflicting options: ParseLeadingDirectives and DesignTime cannot both be enabled"
  | .componentNeedsVersion kind =>
    "parser options: file kind " ++ kind.name ++ " requires language version 3.0 or later"

/-- The first conflict among the options. -/
def conflict? (o : ParserOptions) : Option Conflict :=
  if !o.version.isValid then some (.invalidVersion o.version.ordinal.toNat)
  else if o.leadingDirectivesOnly && o.designTime then some .leadingAtDesignTime
  else if o.fileKind.isComponent && !o.features.componentFiles then
    some (.componentNeedsVersion o.fileKind)
  else none

end ParserOptions

/-- The line terminator of generated code. -/
inductive LineEnd where
  | lineFeed
  | carriageReturnLineFeed
  /-- A mode that is not defined; it is written as a line feed and refused by validation. -/
  | unknown (ordinal : UInt8) (undefined : 1 < ordinal)
  deriving Repr, Inhabited

namespace LineEnd

def ofOrdinal (n : UInt8) : LineEnd :=
  if h : 1 < n then unknown n h else if n == 0 then lineFeed else carriageReturnLineFeed

def ordinal : LineEnd → Nat
  | lineFeed => 0
  | carriageReturnLineFeed => 1
  | unknown n _ => n.toNat

theorem ordinal_lt (x : LineEnd) : x.ordinal < 256 := by
  cases x with
  | unknown n _ => exact n.toNat_lt
  | _ => decide

theorem ordinal_injective {x y : LineEnd} (same : x.ordinal = y.ordinal) : x = y := by
  cases x <;> cases y <;> grind [ordinal, UInt8.lt_iff_toNat_lt, UInt8.toNat_inj]

instance : DecidableEq LineEnd := fun x y =>
  decidable_of_iff (x.ordinal = y.ordinal) ⟨ordinal_injective, congrArg ordinal⟩

def text : LineEnd → Text
  | carriageReturnLineFeed => "\r\n"
  | _ => "\n"

end LineEnd

/-- What the code writer is told: how lines are indented and ended, the namespace of generated code,
and which parts of it are left out. -/
structure CodeOptions where
  indentSize : Int64 := 4
  indentWithTabs : Bool := false
  lineEnd : LineEnd := .lineFeed
  designTime : Bool := false
  rootNamespace : Text := []
  suppressChecksum : Bool := false
  suppressMetadata : Bool := false
  suppressBody : Bool := false
  deriving DecidableEq, Repr, Inhabited

namespace CodeOptions

/-- Why the code writer cannot honor its options. -/
inductive Conflict where
  | negativeIndent (size : Int)
  | unknownLineEnd (ordinal : Nat)
  deriving DecidableEq, Repr

def Conflict.message : Conflict → Text
  | .negativeIndent size => "codegen options: negative indent size " ++ Text.ofInt size
  | .unknownLineEnd ordinal => "codegen options: unknown newline mode " ++ Text.ofNat ordinal

/-- The first conflict among the options. -/
def conflict? (o : CodeOptions) : Option Conflict :=
  if o.indentSize < 0 then some (.negativeIndent o.indentSize.toInt)
  else match o.lineEnd with
    | .unknown n _ => some (.unknownLineEnd n.toNat)
    | _ => none

end CodeOptions

end TemplateCompiler
