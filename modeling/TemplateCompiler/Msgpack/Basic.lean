import TemplateCompiler.Text.Basic

/-!
# MessagePack

The compact binary form of manifests and cache records.  Values are written in their shortest form;
reading accepts every form of the format.  `Msgpack.read?` reads the first value of a text and
ignores what follows it.
-/

namespace TemplateCompiler

/-- A MessagePack value.  Texts and binary strings are not told apart, since readers accept either
for the other; floating-point numbers and extensions are kept as raw bytes. -/
inductive Msgpack where
  | nil
  | bool (value : Bool)
  | int (value : Int)
  | text (value : Text)
  | raw (bytes : Text)
  | array (items : List Msgpack)
  | map (entries : List (Msgpack × Msgpack))
  deriving Inhabited

namespace Msgpack

/-! ## Writing -/

/-- The bytes of a number, most significant first. -/
def bigEndian : Nat → Nat → Text
  | 0, _ => []
  | k + 1, n => (n / Nat.pow 256 k % 256).toUInt8 :: bigEndian k n

/-- The header of a text of a length. -/
def textHeader (n : Nat) : Text :=
  if n < 32 then [(0xA0 + n).toUInt8]
  else if n < 256 then 0xD9 :: bigEndian 1 n
  else if n < 65536 then 0xDA :: bigEndian 2 n
  else 0xDB :: bigEndian 4 n

/-- The header of a binary string of a length. -/
def binaryHeader (n : Nat) : Text :=
  if n < 256 then 0xC4 :: bigEndian 1 n
  else if n < 65536 then 0xC5 :: bigEndian 2 n
  else 0xC6 :: bigEndian 4 n

/-- The header of an array of a size. -/
def arrayHeader (n : Nat) : Text :=
  if n < 16 then [(0x90 + n).toUInt8]
  else if n < 65536 then 0xDC :: bigEndian 2 n
  else 0xDD :: bigEndian 4 n

/-- The header of a map of a size. -/
def mapHeader (n : Nat) : Text :=
  if n < 16 then [(0x80 + n).toUInt8]
  else if n < 65536 then 0xDE :: bigEndian 2 n
  else 0xDF :: bigEndian 4 n

/-- An unsigned integer in its shortest form. -/
def writeNat (n : Nat) : Text :=
  if n < 128 then [n.toUInt8]
  else if n < 256 then 0xCC :: bigEndian 1 n
  else if n < 65536 then 0xCD :: bigEndian 2 n
  else if n < 4294967296 then 0xCE :: bigEndian 4 n
  else 0xCF :: bigEndian 8 n

/-- An integer in its shortest form. -/
def writeInt (n : Int) : Text :=
  match n with
  | .ofNat k => writeNat k
  | .negSucc k =>
    if k < 32 then [(0xFF - k).toUInt8]
    else if k < 128 then 0xD0 :: bigEndian 1 (255 - k)
    else if k < 32768 then 0xD1 :: bigEndian 2 (65535 - k)
    else if k < 2147483648 then 0xD2 :: bigEndian 4 (4294967295 - k)
    else 0xD3 :: bigEndian 8 (18446744073709551615 - k)

def writeText (t : Text) : Text := textHeader t.length ++ t

def writeBool (b : Bool) : Text := [if b then 0xC3 else 0xC2]

mutual

def write : Msgpack → Text
  | nil => [0xC0]
  | bool value => writeBool value
  | int value => writeInt value
  | text value => writeText value
  | raw bytes => bytes
  | array items => arrayHeader items.length ++ writeItems items
  | map entries => mapHeader entries.length ++ writeEntries entries

/-- The bytes of an array's items. -/
def writeItems : List Msgpack → Text
  | [] => []
  | v :: vs => write v ++ writeItems vs

/-- The bytes of a map's entries. -/
def writeEntries : List (Msgpack × Msgpack) → Text
  | [] => []
  | (k, v) :: es => write k ++ write v ++ writeEntries es

end

/-! ## Reading -/

/-- The number that `k` bytes denote, and the rest. -/
def natOf? (k : Nat) (t : Text) : Option (Nat × Text) :=
  if t.length < k then none
  else some ((t.take k).foldl (fun n b => 256 * n + b.toNat) 0, t.drop k)

/-- The signed number of `k` bytes, and the rest. -/
def intOf? (k : Nat) (t : Text) : Option (Int × Text) :=
  (natOf? k t).map fun (n, rest) =>
    (if 2 * n < Nat.pow 256 k then (n : Int) else (n : Int) - Nat.pow 256 k, rest)

/-- The first `n` bytes and the rest. -/
def take? (n : Nat) (t : Text) : Option (Text × Text) :=
  if t.length < n then none else some (t.take n, t.drop n)

/-- A text whose length is written in `k` bytes. -/
def sizedText? (k : Nat) (t : Text) : Option (Msgpack × Text) := do
  let (n, t) ← natOf? k t
  let (bytes, t) ← take? n t
  return (text bytes, t)

/-- Raw bytes of a given number. -/
def raw? (n : Nat) (t : Text) : Option (Msgpack × Text) :=
  (take? n t).map fun (bytes, rest) => (raw bytes, rest)

/-- An extension whose length is written in `k` bytes; its type follows the length. -/
def extension? (k : Nat) (t : Text) : Option (Msgpack × Text) := do
  let (n, t) ← natOf? k t
  raw? (n + 1) t

/-- A value that holds no other values, after its leading byte. -/
def scalar? (code : Nat) (t : Text) : Option (Msgpack × Text) :=
  if code < 0x80 then some (int code, t)
  else if 0xE0 ≤ code then some (int ((code : Int) - 256), t)
  else if 0xA0 ≤ code && code < 0xC0 then
    (take? (code - 0xA0) t).map fun (bytes, rest) => (text bytes, rest)
  else match code with
    | 0xC0 => some (nil, t)
    | 0xC2 => some (bool false, t)
    | 0xC3 => some (bool true, t)
    | 0xC4 | 0xD9 => sizedText? 1 t
    | 0xC5 | 0xDA => sizedText? 2 t
    | 0xC6 | 0xDB => sizedText? 4 t
    | 0xC7 => extension? 1 t
    | 0xC8 => extension? 2 t
    | 0xC9 => extension? 4 t
    | 0xCA => raw? 4 t
    | 0xCB => raw? 8 t
    | 0xCC => (natOf? 1 t).map fun (n, rest) => (int n, rest)
    | 0xCD => (natOf? 2 t).map fun (n, rest) => (int n, rest)
    | 0xCE => (natOf? 4 t).map fun (n, rest) => (int n, rest)
    | 0xCF | 0xD3 => (intOf? 8 t).map fun (n, rest) => (int n, rest)
    | 0xD0 => (intOf? 1 t).map fun (n, rest) => (int n, rest)
    | 0xD1 => (intOf? 2 t).map fun (n, rest) => (int n, rest)
    | 0xD2 => (intOf? 4 t).map fun (n, rest) => (int n, rest)
    | 0xD4 => raw? 2 t
    | 0xD5 => raw? 3 t
    | 0xD6 => raw? 5 t
    | 0xD7 => raw? 9 t
    | 0xD8 => raw? 17 t
    | _ => none

/-- The size of an array after its leading byte, and the rest. -/
def arraySize? (code : Nat) (t : Text) : Option (Nat × Text) :=
  if 0x90 ≤ code && code < 0xA0 then some (code - 0x90, t)
  else if code == 0xDC then natOf? 2 t
  else if code == 0xDD then natOf? 4 t
  else none

/-- The size of a map after its leading byte, and the rest. -/
def mapSize? (code : Nat) (t : Text) : Option (Nat × Text) :=
  if 0x80 ≤ code && code < 0x90 then some (code - 0x80, t)
  else if code == 0xDE then natOf? 2 t
  else if code == 0xDF then natOf? 4 t
  else none

mutual

/-- A value at the front of a text, and the rest.  Every value takes at least one byte, so the
number of bytes bounds the recursion. -/
def value? : Nat → Text → Option (Msgpack × Text)
  | 0, _ => none
  | _ + 1, [] => none
  | fuel + 1, b :: t =>
    match arraySize? b.toNat t, mapSize? b.toNat t with
    | some (n, rest), _ => (items? fuel n rest).map fun (xs, rest) => (array xs, rest)
    | _, some (n, rest) => (entries? fuel n rest).map fun (es, rest) => (map es, rest)
    | none, none => scalar? b.toNat t

def items? : Nat → Nat → Text → Option (List Msgpack × Text)
  | _, 0, t => some ([], t)
  | 0, _, _ => none
  | fuel + 1, n + 1, t => do
    let (v, t) ← value? fuel t
    let (vs, t) ← items? fuel n t
    return (v :: vs, t)

def entries? : Nat → Nat → Text → Option (List (Msgpack × Msgpack) × Text)
  | _, 0, t => some ([], t)
  | 0, _, _ => none
  | fuel + 1, n + 1, t => do
    let (k, t) ← value? fuel t
    let (v, t) ← value? fuel t
    let (es, t) ← entries? fuel n t
    return ((k, v) :: es, t)

end

/-- The first value of a text. -/
def read? (t : Text) : Option Msgpack := (value? (2 * t.length + 2) t).map Prod.fst

/-! ## Fields -/

/-- The text of a value; an absent one is empty. -/
def text? : Msgpack → Option Text
  | text value => some value
  | nil => some []
  | _ => none

/-- The truth of a value; an absent one is false. -/
def bool? : Msgpack → Option Bool
  | bool value => some value
  | nil => some false
  | _ => none

/-- The integer of a value; an absent one is zero. -/
def int? : Msgpack → Option Int
  | int value => some value
  | nil => some 0
  | _ => none

/-- Read a record of named fields into a value.  The fields come as a map, in any order, with
unknown ones ignored, or as an array of exactly all fields in their order; an absent record or an
empty array leaves the zero value. -/
def record? {α : Type} (zero : α) (fields : List (String × (α → Msgpack → Option α))) :
    Msgpack → Option α
  | nil => some zero
  | array [] => some zero
  | array items =>
    if items.length == fields.length then
      (fields.zip items).foldlM (fun a (f, v) => f.2 a v) zero
    else none
  | map entries =>
    entries.foldlM (fun a (k, v) => do
      let name ← k.text?
      match fields.find? fun f => Text.ofString f.1 == name with
      | some f => f.2 a v
      | none => some a) zero
  | _ => none

/-- Read the items of an array; an absent array is empty. -/
def list? {α : Type} (item : Msgpack → Option α) : Msgpack → Option (List α)
  | nil => some []
  | array items => items.mapM item
  | _ => none

/-- Read a map of texts; an absent map is empty. -/
def texts? : Msgpack → Option (List (Text × Text))
  | nil => some []
  | map entries => entries.mapM fun (k, v) => do return (← k.text?, ← v.text?)
  | _ => none

end Msgpack

end TemplateCompiler
