import TemplateCompiler.Json.Basic
import TemplateCompiler.Text.Characters

/-!
# Writing JSON

A value is written either on one line or with one member or item on each line.  Characters that
could end a string or a line are escaped; where a document may stand inside a web page, the
characters of markup are escaped too.  Ill-formed bytes are written as replacement characters.
-/

namespace TemplateCompiler

namespace Json

/-- How a string's characters are written. -/
structure Escapes where
  /-- Escape the characters that open tags and entities. -/
  markup : Bool := true
  deriving Repr

/-- How one character of a string is written. -/
def Escapes.char (e : Escapes) (c : Char) : Text :=
  let n := c.toNat
  if c == '"' then "\\\""
  else if c == '\\' then "\\\\"
  else if n == 8 then "\\b"
  else if n == 12 then "\\f"
  else if n == 10 then "\\n"
  else if n == 13 then "\\r"
  else if n == 9 then "\\t"
  else if n < 0x20 || n == 0x2028 || n == 0x2029 then "\\u" ++ Text.ofNatHex 4 n
  else if e.markup && (c == '<' || c == '>' || c == '&') then "\\u" ++ Text.ofNatHex 4 n
  else Text.ofChar c

/-- How one glyph of a string is written. -/
def Escapes.glyph (e : Escapes) (g : Text.Glyph) : Text :=
  if g.illFormed then "\\ufffd" else e.char g.char

def Escapes.string (e : Escapes) (t : Text) : Text :=
  '"'.toUInt8 :: t.glyphs.flatMap e.glyph ++ ['"'.toUInt8]

mutual

def compactWith (e : Escapes) : Json → Text
  | null => "null"
  | bool value => if value then "true" else "false"
  | number literal => literal
  | string value => e.string value
  | array items => "[" ++ compactItems e items ++ "]"
  | object members => "\x7b" ++ compactMembers e members ++ "\x7d"

/-- The items of an array on one line. -/
def compactItems (e : Escapes) : List Json → Text
  | [] => []
  | [v] => compactWith e v
  | v :: vs => compactWith e v ++ "," ++ compactItems e vs

/-- The members of an object on one line. -/
def compactMembers (e : Escapes) : List (Text × Json) → Text
  | [] => []
  | [(k, v)] => e.string k ++ ":" ++ compactWith e v
  | (k, v) :: ms => e.string k ++ ":" ++ compactWith e v ++ "," ++ compactMembers e ms

end

/-- A value on one line, safe inside markup. -/
def compact (v : Json) : Text := compactWith {} v

/-- A new line at a depth of nesting. -/
def newLine (step : Text) (depth : Nat) : Text :=
  '\n'.toUInt8 :: (List.replicate depth step).flatten

mutual

/-- A value with one item on each line. -/
def indentedWith (e : Escapes) (step : Text) (depth : Nat) : Json → Text
  | null => "null"
  | bool value => if value then "true" else "false"
  | number literal => literal
  | string value => e.string value
  | array [] => "[]"
  | array items => "[" ++ indentedItems e step (depth + 1) items ++ newLine step depth ++ "]"
  | object [] => "\x7b\x7d"
  | object members =>
    "\x7b" ++ indentedMembers e step (depth + 1) members ++ newLine step depth ++ "\x7d"

/-- The items of an array, each on its line. -/
def indentedItems (e : Escapes) (step : Text) (depth : Nat) : List Json → Text
  | [] => []
  | [v] => newLine step depth ++ indentedWith e step depth v
  | v :: vs =>
    newLine step depth ++ indentedWith e step depth v ++ "," ++ indentedItems e step depth vs

/-- The members of an object, each on its line. -/
def indentedMembers (e : Escapes) (step : Text) (depth : Nat) : List (Text × Json) → Text
  | [] => []
  | [(k, v)] =>
    newLine step depth ++ e.string k ++ ": " ++ indentedWith e step depth v
  | (k, v) :: ms =>
    newLine step depth ++ e.string k ++ ": " ++ indentedWith e step depth v ++ ","
      ++ indentedMembers e step depth ms

end

/-- A value with one item on each line, indented by two blanks for each depth. -/
def indented (v : Json) (e : Escapes := {}) : Text := indentedWith e "  " 0 v

end Json

end TemplateCompiler
