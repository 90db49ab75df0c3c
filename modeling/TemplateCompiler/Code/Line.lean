import TemplateCompiler.Diagnostic.Basic
import TemplateCompiler.Language.Options

/-!
# Lines of generated code

Generated code is a list of lines.  A line has an indentation level and pieces; a piece that was
written in a template remembers where.  Laying lines out turns levels into blanks or tabs, ends
every line as the options say, and records at which offset each remembered piece came to stand.

Since lines are independent of each other, laying out a list of lines is laying out each of them at
the offset where the ones before it end.
-/

namespace TemplateCompiler

namespace Code

/-- A stretch of generated text that came from a template, with its place in the template.  Its
offset counts the bytes of the generated text. -/
structure Mapping where
  /-- The place in the template. -/
  source : Span
  offset : Nat
  length : Nat
  deriving DecidableEq, Repr

/-- A part of a line. -/
structure Piece where
  text : Text
  /-- The place in the template that the part came from. -/
  span? : Option Span := none
  deriving DecidableEq, Repr

/-- A line of generated code before it is written: the level that it is indented by, and the parts
that it is put together from, each of which may have come from a place in the template. -/
structure Line where
  level : Nat
  pieces : List Piece
  deriving DecidableEq, Repr

namespace Line

/-- A line that came from no place. -/
def plain (level : Nat) (text : Text) : Line := ⟨level, [⟨text, none⟩]⟩

/-- A line with a part that came from a place, between two that did not. -/
def around (level : Nat) (before text : Text) (span? : Option Span) (after : Text) : Line :=
  ⟨level, [⟨before, none⟩, ⟨text, span?⟩, ⟨after, none⟩]⟩

/-- The text of a line without its indentation and end. -/
def content (l : Line) : Text := l.pieces.flatMap Piece.text

def indentation (o : CodeOptions) (level : Nat) : Text :=
  if o.indentWithTabs then Text.replicate level '\t'.toUInt8
  else Text.replicate (level * o.indentSize.toNatClampNeg) ' '.toUInt8

/-- The indentation of a line; a line without text has none. -/
def margin (o : CodeOptions) (l : Line) : Text :=
  if l.content.isEmpty then [] else indentation o l.level

def text (o : CodeOptions) (l : Line) : Text := l.margin o ++ l.content ++ o.lineEnd.text

/-- The places of pieces that are written from an offset on. -/
def pieceMappings : Nat → List Piece → List Mapping
  | _, [] => []
  | offset, p :: ps =>
    (p.span?.map fun span => ⟨span, offset, p.text.length⟩).toList
      ++ pieceMappings (offset + p.text.length) ps

/-- The places of a line that is written at an offset. -/
def mappings (o : CodeOptions) (offset : Nat) (l : Line) : List Mapping :=
  pieceMappings (offset + (l.margin o).length) l.pieces

end Line

def textOf (o : CodeOptions) (lines : List Line) : Text := lines.flatMap (Line.text o)

/-- The places of lines that are written from an offset on. -/
def mappingsOf (o : CodeOptions) : Nat → List Line → List Mapping
  | _, [] => []
  | offset, l :: ls => l.mappings o offset ++ mappingsOf o (offset + (l.text o).length) ls

/-- Generated code, with the mappings that lead from its text back into the template, what was found
while it was written, and the options that the writer was given. -/
structure Output where
  text : Text
  mappings : List Mapping
  diagnostics : List Diagnostic
  options : CodeOptions

end Code

end TemplateCompiler
