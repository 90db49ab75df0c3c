import TemplateCompiler.Digest.Basic

/-!
# Hashed fields

A structured value is hashed field by field.  Every field is written with a leading tag, and a
text with its length, so that the stream of bytes determines the sequence of fields; two values
whose fields differ are hashed from different streams.

A collection is preceded by its size, an enumeration is written as its ordinal, and an absent text
as an explicit null.
-/

namespace TemplateCompiler

namespace Digest

/-- One field of a hashed value.  The bytes of a field say which kind it is and where it ends, so
that different sequences of fields never have the same bytes. -/
inductive Field where
  /-- An explicit absence. -/
  | null
  | text (value : Text)
  | int (value : Int64)
  | nat (value : UInt64)
  | bool (value : Bool)
  /-- The digest of a nested value. -/
  | digest (value : Digest)
  /-- The kind of record that the following fields describe. -/
  | record (kind : UInt8)
  deriving DecidableEq

namespace Field

/-- A number in groups of seven bits, least significant first, each but the last marked by the high
bit.  Ten groups hold any 64-bit number. -/
def groups : Nat → Nat → Text
  | 0, _ => []
  | fuel + 1, n =>
    if n < 128 then [n.toUInt8] else (n % 128 + 128).toUInt8 :: groups fuel (n / 128)

/-- The groups of an unsigned number. -/
def unsigned (n : UInt64) : Text := groups 10 n.toNat

/-- A signed number folded onto the unsigned ones: the sign becomes the lowest bit. -/
def foldSign (n : Int64) : UInt64 :=
  if n < 0 then ~~~(n.toUInt64 <<< 1) else n.toUInt64 <<< 1

def bytes : Field → Text
  | null => [1]
  | text value => 2 :: unsigned value.length.toUInt64 ++ value
  | int value => 3 :: unsigned (foldSign value)
  | nat value => 4 :: unsigned value
  | bool value => [5, if value then 1 else 0]
  | digest value => 6 :: value.bytes
  | record kind => [7, kind]

/-- A text, or null if it is empty. -/
def optional (value : Text) : Field := if value.isEmpty then null else text value

def size (n : Nat) : Field := nat n.toUInt64

def ordinal (n : Nat) : Field := int (Int64.ofNat n)

end Field

/-- The bytes of a sequence of fields, which can be told from those of any other sequence: each
field starts with its kind, and says how long it is if fields of its kind differ in this. -/
def stream (fields : List Field) : Text := fields.flatMap Field.bytes

def ofFields (fields : List Field) : Digest := ofBytes (stream fields)

end Digest

end TemplateCompiler
