import TemplateCompiler.Text.Quoted

/-!
# Faults of JSON texts

A text that is no JSON is refused at the first byte that no JSON text can have there.  A fault
names that byte and what the reader was at, or says that the text ends too early.
-/

namespace TemplateCompiler

namespace Json

/-- What a reader is at when it meets a byte that does not belong there. -/
inductive Place where
  | value
  | key
  | afterKey
  | afterMember
  | afterElement
  | string
  | escape
  | hexEscape
  | number
  | fraction
  | exponent
  /-- Inside one of the three words, where a certain letter is due. -/
  | word (name : String) (due : Char)
  /-- At a bracket that opens one level too many. -/
  | depth

def Place.text : Place → Text
  | value => "looking for beginning of value"
  | key => "looking for beginning of object key string"
  | afterKey => "after object key"
  | afterMember => "after object key:value pair"
  | afterElement => "after array element"
  | string => "in string literal"
  | escape => "in string escape code"
  | hexEscape => "in \\u hexadecimal character escape"
  | number => "in numeric literal"
  | fraction => "after decimal point in numeric literal"
  | exponent => "in exponent of numeric literal"
  | word name due =>
    "in literal " ++ Text.ofString name ++ " (expecting " ++ Text.quotedChar due ++ ")"
  | depth => "exceeded max depth"

/-- Why a text is not JSON. -/
inductive Fault where
  /-- There is nothing but white space. -/
  | absent
  /-- The text ends inside a value. -/
  | truncated
  | unexpected (byte : UInt8) (place : Place)

def Fault.message : Fault → Text
  | absent => "EOF"
  | truncated => "unexpected EOF"
  | unexpected byte place =>
    "invalid character " ++ Text.quotedChar (Char.ofNat byte.toNat) ++ " " ++ place.text

end Json

end TemplateCompiler
