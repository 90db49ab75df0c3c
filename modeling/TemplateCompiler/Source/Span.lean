import TemplateCompiler.Text.Basic

/-!
# Spans

A span is a half-open range of bytes in one file of a file set.  Offsets are measured from the
start of the file's normalized content.  Lengths and columns are 32-bit words, because that is how
positions are reported: a span that ends before it starts has a length that wraps around.
-/

namespace TemplateCompiler

/-- A half-open range of bytes in a file, from which lines and columns are computed when a finding
is shown. -/
structure Span where
  file : Nat
  start : Nat
  stop : Nat
  deriving DecidableEq, Repr, Inhabited

namespace Span

/-- The span of no file position, used where a position is not known. -/
def none : Span := ⟨0, 0, 0⟩

/-- Whether the span covers no bytes. -/
def isEmpty (s : Span) : Bool := s.start == s.stop

/-- The number of bytes covered, as a word. -/
def length (s : Span) : UInt32 := s.stop.toUInt32 - s.start.toUInt32

/-- Whether an offset lies inside the span. -/
def contains (s : Span) (offset : Nat) : Bool := s.start ≤ offset && offset < s.stop

/-- The smallest span that covers both, if they are in one file; otherwise the first. -/
def cover (s t : Span) : Span :=
  if s.file == t.file then ⟨s.file, min s.start t.start, max s.stop t.stop⟩ else s

/-- The written form, `file:start-stop`. -/
def text (s : Span) : Text :=
  Text.ofNat s.file ++ ":" ++ Text.ofNat s.start ++ "-" ++ Text.ofNat s.stop

end Span

end TemplateCompiler
