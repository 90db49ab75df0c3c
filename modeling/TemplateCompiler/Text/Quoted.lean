import TemplateCompiler.Text.Classes

/-!
# Quoted texts

A quoted text stands between quotation marks and shows every printable character as itself.  The
mark itself and the backslash are escaped by a backslash, the usual control characters have a
letter of their own, other characters are written by their code point, and a byte that is not
part of a well-formed character by its value.
-/

namespace TemplateCompiler

namespace Text

/-- The letter that follows the backslash for a control character, if it has one. -/
def controlLetter? (c : Char) : Option Char :=
  match c.toNat with
  | 7 => some 'a'
  | 8 => some 'b'
  | 12 => some 'f'
  | 10 => some 'n'
  | 13 => some 'r'
  | 9 => some 't'
  | 11 => some 'v'
  | _ => none

/-- How a character is written between quotation marks `mark`. -/
def escapeChar (mark c : Char) : Text :=
  if c == mark || c == '\\' then '\\'.toUInt8 :: ofChar c
  else if isPrintable c then ofChar c
  else match controlLetter? c with
    | some letter => '\\'.toUInt8 :: ofChar letter
    | none =>
      if c.toNat < 0x20 || c.toNat == 0x7F then "\\x" ++ ofNatHex 2 c.toNat
      else if c.toNat < 0x10000 then "\\u" ++ ofNatHex 4 c.toNat
      else "\\U" ++ ofNatHex 8 c.toNat

/-- How a glyph is written: an ill-formed byte by its value, a character as `escapeChar` says. -/
def escapeGlyph (mark : Char) (g : Glyph) : Text :=
  if g.illFormed then "\\x" ++ toHex g.bytes else escapeChar mark g.char

/-- A text between double quotation marks. -/
def quoted (t : Text) : Text :=
  '"'.toUInt8 :: t.glyphs.flatMap (escapeGlyph '"') ++ ['"'.toUInt8]

/-- A character between single quotation marks. -/
def quotedChar (c : Char) : Text :=
  '\''.toUInt8 :: escapeChar '\'' c ++ ['\''.toUInt8]

end Text

end TemplateCompiler
