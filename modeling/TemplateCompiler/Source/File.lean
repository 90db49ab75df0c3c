import TemplateCompiler.Digest.Basic
import TemplateCompiler.Source.Span
import TemplateCompiler.Text.Composition
import TemplateCompiler.Text.Path

/-!
# Source files

A file holds the normalized content of a template or an import: no byte order mark, line feeds
only, composed characters.  What normalization had to change is recorded in the file's flags.
The positions of the line feeds turn offsets into lines and columns.
-/

namespace TemplateCompiler

/-- A set of facts about a file, one bit each. -/
structure FileFlags where
  bits : UInt8
  deriving DecidableEq, Repr

namespace FileFlags

def none : FileFlags := ⟨0⟩

/-- The content never came from a file system. -/
def inMemory : FileFlags := ⟨1⟩

def hadByteOrderMark : FileFlags := ⟨2⟩

/-- Pairs of carriage return and line feed were folded. -/
def foldedLineEnds : FileFlags := ⟨4⟩

def composed : FileFlags := ⟨8⟩

def union (a b : FileFlags) : FileFlags := ⟨a.bits ||| b.bits⟩

/-- Whether all facts of `b` are in `a`. -/
def has (a b : FileFlags) : Bool := a.bits &&& b.bits == b.bits

def when (condition : Bool) (flag : FileFlags) : FileFlags := if condition then flag else none

end FileFlags

/-! ## Normalization -/

namespace Normalization

def byteOrderMark : Text := [0xEF, 0xBB, 0xBF]

/-- Each carriage return that a line feed follows is dropped; a lone one is kept. -/
def foldLineEnds : Text → Text
  | [] => []
  | b :: rest =>
    if b == '\r'.toUInt8 && rest.head? == some '\n'.toUInt8 then foldLineEnds rest
    else b :: foldLineEnds rest

/-- The content without byte order mark, with line feeds only and composed characters, and what
had to be changed for that. -/
def normalize (content : Text) : Text × FileFlags :=
  let unmarked := content.dropStart byteOrderMark
  let folded := foldLineEnds unmarked
  let composed := Text.compose folded
  (composed,
    (FileFlags.when (content.startsWith byteOrderMark) .hadByteOrderMark).union
      ((FileFlags.when (folded.length != unmarked.length) .foldedLineEnds).union
        (FileFlags.when (composed != folded) .composed)))

end Normalization

/-! ## Files -/

/-- A line and a column, both counted from one, as words. -/
structure Position where
  line : UInt32
  column : UInt32
  deriving DecidableEq, Repr

/-- The offsets of the line feeds of a text that starts at offset `start`. -/
def lineFeedsFrom (start : Nat) : Text → List Nat
  | [] => []
  | b :: rest =>
    if b == '\n'.toUInt8 then start :: lineFeedsFrom (start + 1) rest
    else lineFeedsFrom (start + 1) rest

/-- One source document.  Its content is in normal form, and whatever is computed from the content
is kept beside it: where lines end, the digest, and what normalizing has changed. -/
structure SourceFile where
  id : Nat
  path : Text
  /-- The rooted path inside the project; empty if unknown. -/
  relative : Text
  content : Text
  lineFeeds : List Nat
  digest : Digest
  flags : FileFlags

namespace SourceFile

/-- The file of a content that still has to be normalized. -/
def ofContent (id : Nat) (path : Text) (content : Text) (flags : FileFlags) : SourceFile :=
  let (normal, changes) := Normalization.normalize content
  { id, path := Path.clean path, relative := [], content := normal
    lineFeeds := lineFeedsFrom 0 normal, digest := .ofBytes normal, flags := flags.union changes }

/-- The number of lines; a final line feed is followed by one more, empty line. -/
def lineCount (f : SourceFile) : Nat := f.lineFeeds.length + 1

/-- The offset at which a line, counted from zero, starts. -/
def lineStart (f : SourceFile) (index : Nat) : Nat :=
  match index with
  | 0 => 0
  | k + 1 => ((f.lineFeeds[k]?).map (· + 1)).getD 0

/-- The position of an offset: its line is one more than the number of line feeds before it. -/
def position (f : SourceFile) (offset : Nat) : Position :=
  let line := (f.lineFeeds.takeWhile (· < offset)).length
  ⟨line.toUInt32 + 1, offset.toUInt32 - (f.lineStart line).toUInt32 + 1⟩

/-- The line of a number, counted from one, without its line feed; empty if there is none. -/
def line (f : SourceFile) (number : Nat) : Text :=
  if number == 0 || number > f.lineCount then []
  else
    let stop := (f.lineFeeds[number - 1]?).getD f.content.length
    f.content.slice (f.lineStart (number - 1)) stop

/-- The content a span covers, cut back to the end of the file. -/
def slice (f : SourceFile) (span : Span) : Text :=
  f.content.slice span.start span.stop

end SourceFile

/-! ## File sets -/

/-- The files of a compilation in the order of their addition.  A file's number is its place. -/
structure FileSet where
  files : Array SourceFile := #[]

namespace FileSet

instance : Inhabited FileSet := ⟨{}⟩

def empty : FileSet := {}

def size (s : FileSet) : Nat := s.files.size

def get? (s : FileSet) (id : Nat) : Option SourceFile := s.files[id]?

/-- The set with one more file, and its number. -/
def add (s : FileSet) (path content : Text) (flags : FileFlags) : FileSet × Nat :=
  (⟨s.files.push (.ofContent s.size path content flags)⟩, s.size)

/-- The set with one more file whose place in the project is known. -/
def addRelative (s : FileSet) (path relative content : Text) (flags : FileFlags) : FileSet × Nat :=
  let file := { SourceFile.ofContent s.size path content flags with
    relative := Path.rooted relative }
  (⟨s.files.push file⟩, s.size)

def lookup? (s : FileSet) (path : Text) : Option SourceFile :=
  let wanted := Path.clean path
  s.files.toList.reverse.find? fun f => f.path == wanted

/-- The positions of both ends of a span. -/
def resolve? (s : FileSet) (span : Span) : Option (Position × Position) :=
  (s.get? span.file).map fun f => (f.position span.start, f.position span.stop)

end FileSet

end TemplateCompiler
