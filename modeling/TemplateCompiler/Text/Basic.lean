/-!
# Byte strings

Templates are read as bytes, and nothing guarantees that the bytes are well-formed UTF-8: an
attribute name, a piece of code or a directive token may be any run of bytes.  A `Text` is
therefore a list of bytes.  String literals are texts through their UTF-8 encoding, so rules can
be written with ordinary literals while offsets always count bytes.

The operations below are the byte-level ones: searching, cutting, joining and replacing.  They
never look at characters; what depends on characters is in `TemplateCompiler.Text.Characters`.
-/

namespace TemplateCompiler

/-- A byte string. -/
abbrev Text := List UInt8

namespace Text

/-- The UTF-8 bytes of a string. -/
def ofString (s : String) : Text := s.toUTF8.data.toList

instance : Coe String Text := ⟨ofString⟩

/-- The bytes gathered in an array, for printing. -/
def toByteArray (t : Text) : ByteArray := ⟨t.toArray⟩

/-! ## Order and equality -/

def compare : Text → Text → Ordering
  | [], [] => .eq
  | [], _ :: _ => .lt
  | _ :: _, [] => .gt
  | a :: s, b :: t => if a < b then .lt else if b < a then .gt else compare s t

theorem eq_of_compare {s t : Text} (same : compare s t = .eq) : s = t := by
  induction s generalizing t with
  | nil => cases t with
    | nil => rfl
    | cons b t => cases same
  | cons a s ih => cases t with
    | nil => cases same
    | cons b t =>
      rw [compare] at same
      split at same
      · cases same
      · split at same
        · cases same
        next low high =>
          have heads : a = b := UInt8.le_antisymm (UInt8.not_lt.mp high) (UInt8.not_lt.mp low)
          rw [heads, ih same]

theorem compare_gt_iff {s t : Text} : compare s t = .gt ↔ compare t s = .lt := by
  induction s generalizing t with
  | nil => cases t <;> simp [compare]
  | cons a s ih => cases t with
    | nil => simp [compare]
    | cons b t =>
      simp only [compare, UInt8.lt_iff_toNat_lt]
      by_cases low : a.toNat < b.toNat
      · have high : ¬ b.toNat < a.toNat := by omega
        simp [low, high]
      · by_cases high : b.toNat < a.toNat <;> simp [low, high, ih]

theorem compare_lt_trans {s t u : Text} (first : compare s t = .lt) (second : compare t u = .lt) :
    compare s u = .lt := by
  induction s generalizing t u with
  | nil => cases t with
    | nil => cases first
    | cons b t => cases u with
      | nil => cases second
      | cons c u => rfl
  | cons a s ih => cases t with
    | nil => cases first
    | cons b t => cases u with
      | nil => cases second
      | cons c u =>
        simp only [compare, UInt8.lt_iff_toNat_lt] at first second ⊢
        split at first <;> split at second <;> grind

/-- The lexicographic order as a test, for sorting. -/
def le (s t : Text) : Bool := compare s t != .gt

/-! ## Cutting -/

/-- The part of a text between two offsets; offsets beyond the end are cut back to it. -/
def slice (t : Text) (start stop : Nat) : Text := (t.drop start).take (stop - start)

def startsWith (t p : Text) : Bool := p.isPrefixOf t

def endsWith (t p : Text) : Bool := p.isSuffixOf t

/-- What follows a leading `p`, or nothing if the text does not start with `p`. -/
def stripStart? (t p : Text) : Option Text :=
  if t.startsWith p then some (t.drop p.length) else none

/-- What precedes a trailing `p`, or nothing if the text does not end with `p`. -/
def stripEnd? (t p : Text) : Option Text :=
  if t.endsWith p then some (t.take (t.length - p.length)) else none

/-- The text without a leading `p`, if it has one. -/
def dropStart (t p : Text) : Text := (t.stripStart? p).getD t

/-- The text without a trailing `p`, if it has one. -/
def dropEnd (t p : Text) : Text := (t.stripEnd? p).getD t

/-- Drop bytes from the end while they satisfy `p`. -/
def dropEndWhile (t : Text) (p : UInt8 → Bool) : Text := (t.reverse.dropWhile p).reverse

/-- Drop bytes from both ends while they satisfy `p`. -/
def trimWhile (t : Text) (p : UInt8 → Bool) : Text := dropEndWhile (t.dropWhile p) p

/-! ## Searching -/

/-- The offset of the first byte that satisfies `p`. -/
def findByte? (p : UInt8 → Bool) (t : Text) : Option Nat := t.findIdx? p

/-- The offset of the first occurrence of a byte. -/
def indexOfByte? (t : Text) (b : UInt8) : Option Nat := t.findIdx? (· == b)

/-- The offset of the first occurrence of `p`. -/
def indexOf? (p : Text) : Text → Option Nat
  | [] => if p.isEmpty then some 0 else none
  | b :: t => if p.isPrefixOf (b :: t) then some 0 else (indexOf? p t).map (· + 1)

/-- The offset of the last occurrence of a byte. -/
def lastIndexOfByte? (t : Text) (b : UInt8) : Option Nat :=
  (t.reverse.findIdx? (· == b)).map fun i => t.length - 1 - i

/-- Whether `p` occurs in the text. -/
def containsText (t p : Text) : Bool := (indexOf? p t).isSome

/-- The parts before and after the first occurrence of a byte. -/
def cutAtByte? (t : Text) (b : UInt8) : Option (Text × Text) :=
  (t.indexOfByte? b).map fun i => (t.take i, t.drop (i + 1))

/-! ## Splitting, joining, replacing -/

/-- The parts of a text between the occurrences of a byte; never empty. -/
def splitOnByte (b : UInt8) : Text → List Text
  | [] => [[]]
  | c :: t =>
    match splitOnByte b t with
    | [] => [[c]]
    | part :: parts => if c == b then [] :: part :: parts else (c :: part) :: parts

/-- The lines of a text, without their line feeds; never empty. -/
def lines (t : Text) : List Text := splitOnByte '\n'.toUInt8 t

def join (separator : Text) : List Text → Text
  | [] => []
  | [t] => t
  | t :: ts => t ++ separator ++ join separator ts

theorem join_concat (separator : Text) (ts : List Text) (t : Text) :
    join separator (ts ++ [t]) =
      join separator ts ++ (if ts.length = 0 then [] else separator) ++ t := by
  induction ts with
  | nil => simp [join]
  | cons u ts ih =>
    cases ts with
    | nil => simp [join]
    | cons v ts =>
      change u ++ separator ++ join separator (v :: ts ++ [t]) =
        u ++ separator ++ join separator (v :: ts) ++ separator ++ t
      rw [ih]
      simp only [List.length_cons, Nat.succ_ne_zero, if_false, List.append_assoc]

/-- Replace each byte by a text. -/
def mapBytes (f : UInt8 → Text) (t : Text) : Text := t.flatMap f

def replaceByte (t : Text) (old new : UInt8) : Text := t.map fun b => if b == old then new else b

/-- Replace the occurrences of a text after some bytes that an occurrence took. -/
def replaceFrom (old new : Text) : Nat → Text → Text
  | _, [] => []
  | skip + 1, _ :: rest => replaceFrom old new skip rest
  | 0, b :: rest =>
    if old.isPrefixOf (b :: rest) then new ++ replaceFrom old new (old.length - 1) rest
    else b :: replaceFrom old new 0 rest

/-- The text with every occurrence of `old`, which is not empty, replaced. -/
def replaceText (t old new : Text) : Text := replaceFrom old new 0 t

def replicate (n : Nat) (b : UInt8) : Text := List.replicate n b

/-- A text if a condition holds, otherwise nothing. -/
def when (condition : Bool) (t : Text) : Text := if condition then t else []

/-- Texts written one after another. -/
def concat (parts : List Text) : Text := parts.flatten

/-! ## Numbers -/

/-- The decimal digits of a natural number. -/
def ofNat (n : Nat) : Text := ofString (toString n)

/-- The decimal digits of an integer, with a leading minus sign if it is negative. -/
def ofInt (n : Int) : Text :=
  match n with
  | .ofNat k => ofNat k
  | .negSucc k => '-'.toUInt8 :: ofNat (k + 1)

/-- The lower-case hexadecimal digit of a number below sixteen. -/
def hexDigit (n : Nat) : UInt8 :=
  if n < 10 then (0x30 + n).toUInt8 else (0x61 + (n - 10)).toUInt8

/-- The value of a hexadecimal digit in either case. -/
def hexValue? (b : UInt8) : Option Nat :=
  if 0x30 ≤ b && b ≤ 0x39 then some (b.toNat - 0x30)
  else if 0x61 ≤ b && b ≤ 0x66 then some (b.toNat - 0x61 + 10)
  else if 0x41 ≤ b && b ≤ 0x46 then some (b.toNat - 0x41 + 10)
  else none

/-- Two lower-case hexadecimal digits for each byte. -/
def toHex (t : Text) : Text := t.flatMap fun b => [hexDigit (b.toNat / 16), hexDigit (b.toNat % 16)]

/-- At least `width` lower-case hexadecimal digits of a number. -/
def ofNatHex (width n : Nat) : Text :=
  let digits : Text := (Nat.toDigits 16 n).map Char.toUInt8
  replicate (width - digits.length) '0'.toUInt8 ++ digits

/-- A decimal number of at least `width` digits, padded with zeros. -/
def ofNatPadded (width n : Nat) : Text :=
  let digits := ofNat n
  replicate (width - digits.length) '0'.toUInt8 ++ digits

/-- The text followed by enough blanks to fill `width` bytes. -/
def padRight (width : Nat) (t : Text) : Text :=
  t ++ replicate (width - t.length) ' '.toUInt8

/-- The text preceded by enough blanks to fill `width` bytes. -/
def padLeft (width : Nat) (t : Text) : Text :=
  replicate (width - t.length) ' '.toUInt8 ++ t

end Text

end TemplateCompiler
