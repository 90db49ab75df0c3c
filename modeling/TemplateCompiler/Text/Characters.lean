import TemplateCompiler.Text.Basic

/-!
# Texts as sequences of characters

A text is read as UTF-8 one character at a time.  Bytes that do not form a well-formed sequence
are read singly, each as the replacement character; a `Glyph` remembers the bytes it was read
from, so an ill-formed byte can still be told from a written replacement character.
-/

namespace TemplateCompiler

namespace Text

/-- The character that stands for an ill-formed byte. -/
def replacement : Char := Char.ofNat 0xFFFD

/-- Whether a byte continues a multi-byte sequence. -/
def isContinuation (b : UInt8) : Bool := 0x80 ≤ b && b ≤ 0xBF

/-- Whether a byte can start a character; ill-formed bytes can, continuation bytes cannot. -/
def isCharacterStart (b : UInt8) : Bool := !isContinuation b

/-- The least and the greatest byte that may follow a leading byte, with the number of bytes of
the whole sequence; nothing if no multi-byte sequence starts with it. -/
def leadingByte? (b : UInt8) : Option (Nat × UInt8 × UInt8) :=
  if 0xC2 ≤ b && b ≤ 0xDF then some (2, 0x80, 0xBF)
  else if b == 0xE0 then some (3, 0xA0, 0xBF)
  else if b == 0xED then some (3, 0x80, 0x9F)
  else if 0xE1 ≤ b && b ≤ 0xEF then some (3, 0x80, 0xBF)
  else if b == 0xF0 then some (4, 0x90, 0xBF)
  else if 0xF1 ≤ b && b ≤ 0xF3 then some (4, 0x80, 0xBF)
  else if b == 0xF4 then some (4, 0x80, 0x8F)
  else none

/-- One character read from a text: the character and how many bytes it took.  An ill-formed byte
is read as the replacement character of one byte. -/
structure Glyph where
  char : Char
  bytes : Text
  deriving Repr

namespace Glyph

/-- Whether the glyph stands for a byte that is not part of a well-formed sequence. -/
def illFormed (g : Glyph) : Bool := g.char == replacement && g.bytes.length == 1

def ofByte (b : UInt8) : Glyph :=
  if b < 0x80 then ⟨Char.ofNat b.toNat, [b]⟩ else ⟨replacement, [b]⟩

/-- The glyph of a well-formed two-byte sequence. -/
def ofTwo (b c : UInt8) : Glyph :=
  ⟨Char.ofNat ((b.toNat % 32) * 64 + c.toNat % 64), [b, c]⟩

/-- The glyph of a well-formed three-byte sequence. -/
def ofThree (b c d : UInt8) : Glyph :=
  ⟨Char.ofNat ((b.toNat % 16) * 4096 + (c.toNat % 64) * 64 + d.toNat % 64), [b, c, d]⟩

/-- The glyph of a well-formed four-byte sequence. -/
def ofFour (b c d e : UInt8) : Glyph :=
  ⟨Char.ofNat ((b.toNat % 8) * 262144 + (c.toNat % 64) * 4096 + (d.toNat % 64) * 64 + e.toNat % 64),
    [b, c, d, e]⟩

end Glyph

/-- The first glyph of a text that starts with the byte `b`. -/
def glyphAt (b : UInt8) (rest : Text) : Glyph :=
  match leadingByte? b, rest with
  | some (2, low, high), c :: _ =>
    if low ≤ c && c ≤ high then .ofTwo b c else .ofByte b
  | some (3, low, high), c :: d :: _ =>
    if low ≤ c && c ≤ high && isContinuation d then .ofThree b c d else .ofByte b
  | some (4, low, high), c :: d :: e :: _ =>
    if low ≤ c && c ≤ high && isContinuation d && isContinuation e then .ofFour b c d e
    else .ofByte b
  | _, _ => .ofByte b

def firstGlyph? : Text → Option Glyph
  | [] => none
  | b :: rest => some (glyphAt b rest)

/-- The glyphs of a text, each glyph skipping the bytes it was read from. -/
def glyphsFrom : Nat → Text → List Glyph
  | _, [] => []
  | skip + 1, _ :: rest => glyphsFrom skip rest
  | 0, b :: rest =>
    let g := glyphAt b rest
    g :: glyphsFrom (g.bytes.length - 1) rest

def glyphs (t : Text) : List Glyph := glyphsFrom 0 t

/-- The characters of a text, ill-formed bytes as replacement characters. -/
def chars (t : Text) : List Char := t.glyphs.map Glyph.char

/-- The UTF-8 bytes of one character. -/
def ofChar (c : Char) : Text := String.utf8EncodeChar c

/-- The UTF-8 bytes of a sequence of characters. -/
def ofChars (cs : List Char) : Text := cs.flatMap ofChar

/-- Whether a text is well-formed UTF-8. -/
def isWellFormed (t : Text) : Bool := t.glyphs.all fun g => !g.illFormed

/-- The last glyph of a text, read from its end. -/
def lastGlyph? (t : Text) : Option Glyph := t.glyphs.getLast?

/-- Each character replaced; ill-formed bytes become written replacement characters. -/
def mapChars (f : Char → Char) (t : Text) : Text := t.glyphs.flatMap fun g => ofChar (f g.char)

/-- The well-formed text closest to a byte string: ill-formed bytes become replacement
characters. -/
def repaired (t : Text) : Text := mapChars id t

end Text

end TemplateCompiler
