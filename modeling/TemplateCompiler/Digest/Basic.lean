import TemplateCompiler.Digest.Sha256
import TemplateCompiler.Text.Quoted

/-!
# Digests

A digest is the identity of a descriptor, a document or a cache entry: thirty-two bytes, shown as
sixty-four lower-case hexadecimal digits.  What is hashed is a sequence of fields
(`TemplateCompiler.Digest.Fields`), raw content, or a list of digests.
-/

namespace TemplateCompiler

/-- A hash of 256 bits, by which values are recognized without being compared.  The digest of zeros
stands for one that was never computed. -/
structure Digest where
  bytes : Text
  length_bytes : bytes.length = 32 := by rfl

namespace Digest

instance : BEq Digest := ⟨fun a b => a.bytes == b.bytes⟩

instance : DecidableEq Digest := fun a b =>
  if h : a.bytes = b.bytes then .isTrue (by cases a; cases b; simp_all)
  else .isFalse fun e => h (by rw [e])

instance : LawfulBEq Digest where
  eq_of_beq {a b} same := by
    rcases a with ⟨bytes, length⟩
    rcases b with ⟨others, _⟩
    cases (LawfulBEq.eq_of_beq same : bytes = others)
    rfl
  rfl {a} := by
    change (a.bytes == a.bytes) = true
    exact beq_self_eq_true a.bytes

/-- The digest that was never computed. -/
def zero : Digest := ⟨List.replicate 32 0, rfl⟩

instance : Inhabited Digest := ⟨zero⟩

def ofBytes (content : Text) : Digest := ⟨Sha256.hash content, Sha256.length_hash content⟩

def hex (d : Digest) : Text := Text.toHex d.bytes

/-- The first eight hexadecimal digits. -/
def short (d : Digest) : Text := Text.toHex (d.bytes.take 4)

/-- Whether the digest was never computed. -/
def isZero (d : Digest) : Bool := d == zero

/-- The hash of a content's digest followed by the digests of what it depends on, in order. -/
def combine (content : Digest) (dependencies : List Digest) : Digest :=
  ofBytes (content.bytes ++ dependencies.flatMap Digest.bytes)

/-- Why a text is not the hexadecimal form of a digest. -/
inductive ReadError where
  /-- A byte is not a hexadecimal digit. -/
  | invalidByte (byte : UInt8)
  /-- The last digit has no partner. -/
  | oddLength
  /-- The number of bytes is not that of a digest. -/
  | wrongLength (bytes : Nat)
  deriving DecidableEq, Repr

/-- The text of a read error.  An invalid byte is shown as the character of its value. -/
def ReadError.message : ReadError → Text
  | .invalidByte byte =>
    "checksum: encoding/hex: invalid byte: U+" ++ (Text.ofNatHex 4 byte.toNat).map
        (fun b => (Char.ofNat b.toNat).toUpper.toUInt8)
      ++ (if Text.isPrintable (Char.ofNat byte.toNat) then
            " '" ++ Text.ofChar (Char.ofNat byte.toNat) ++ "'"
          else [])
  | .oddLength => "checksum: encoding/hex: odd length hex string"
  | .wrongLength bytes => "checksum: want 32 bytes, got " ++ Text.ofNat bytes

/-- The bytes that pairs of hexadecimal digits denote.  The first invalid digit wins over a missing
partner of the last one. -/
def readHex : Text → Except ReadError Text
  | [] => .ok []
  | [a] => if (Text.hexValue? a).isSome then .error .oddLength else .error (.invalidByte a)
  | a :: b :: rest =>
    match Text.hexValue? a, Text.hexValue? b with
    | some x, some y => (readHex rest).map ((16 * x + y).toUInt8 :: ·)
    | none, _ => .error (.invalidByte a)
    | _, none => .error (.invalidByte b)

/-- Read the hexadecimal form of a digest. -/
def read (t : Text) : Except ReadError Digest :=
  match readHex t with
  | .error e => .error e
  | .ok bytes => if h : bytes.length = 32 then .ok ⟨bytes, h⟩ else .error (.wrongLength bytes.length)

end Digest

end TemplateCompiler
