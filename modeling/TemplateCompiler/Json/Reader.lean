import TemplateCompiler.Json.Basic
import TemplateCompiler.Json.Fault

/-!
# Except Fault (JSON × Text)

`Json.readPart` reads the first value of a text and returns what follows it.  Strings are read as
UTF-8: ill-formed bytes and unpaired surrogate escapes become replacement characters.  A text that
is not JSON is refused at its first fault.

The recursion is bounded by the number of bytes: every nested value takes at least one.
-/

namespace TemplateCompiler

namespace Json

namespace Reader

/-- The fault of a text that cannot go on as it does. -/
def refuse {α : Type} (place : Place) : Text → Except Fault (α × Text)
  | [] => .error .truncated
  | b :: _ => .error (.unexpected b place)

/-- Whether a byte is white space between tokens. -/
def isSpace (b : UInt8) : Bool := b == 0x20 || b == 0x09 || b == 0x0A || b == 0x0D

/-- The text after leading white space. -/
def skipSpace (t : Text) : Text := t.dropWhile isSpace

/-- Whether a byte is a decimal digit. -/
def isDigit (b : UInt8) : Bool := 0x30 ≤ b && b ≤ 0x39

/-- The leading digits of a text, at least one, and the rest. -/
def digits (place : Place) (t : Text) : Except Fault (Text × Text) :=
  let ds := t.takeWhile isDigit
  if ds.isEmpty then refuse place t else .ok (ds, t.drop ds.length)

/-- The integer part of a number: zero, or digits that do not start with zero. -/
def integerPart (place : Place) (t : Text) : Except Fault (Text × Text) :=
  match t with
  | 0x30 :: rest => .ok ([0x30], rest)
  | _ => digits place t

def fraction (t : Text) : Except Fault (Text × Text) :=
  match t with
  | 0x2E :: rest => (digits .fraction rest).map fun (ds, rest) => (0x2E :: ds, rest)
  | _ => .ok ([], t)

def exponent (t : Text) : Except Fault (Text × Text) :=
  match t with
  | b :: rest =>
    if b == 'e'.toUInt8 || b == 'E'.toUInt8 then
      match rest with
      | s :: after =>
        if s == '+'.toUInt8 || s == '-'.toUInt8 then
          (digits .exponent after).map fun (ds, rest) => (b :: s :: ds, rest)
        else (digits .exponent rest).map fun (ds, rest) => (b :: ds, rest)
      | [] => .error .truncated
    else .ok ([], t)
  | [] => .ok ([], t)

/-- The sign and the integer part of a number. -/
def signedPart : Text → Except Fault (Text × Text)
  | 0x2D :: t => (integerPart .number t).map fun (ds, rest) => (0x2D :: ds, rest)
  | t => integerPart .value t

def number (t : Text) : Except Fault (Text × Text) := do
  let (whole, t) ← signedPart t
  let (fraction, t) ← fraction t
  let (exponent, t) ← exponent t
  return (whole ++ fraction ++ exponent, t)

/-- What follows the letters `due` of a word. -/
def word (name : String) : List Char → Text → Except Fault Text
  | [], t => .ok t
  | c :: due, b :: t =>
    if b == c.toUInt8 then word name due t else .error (.unexpected b (.word name c))
  | _ :: _, [] => .error .truncated

def wordValue (name : String) (v : Json) (t : Text) : Except Fault (Json × Text) :=
  (word name name.toList t).map fun rest => (v, rest)

/-- The value of hexadecimal digits, as many as asked for, after the value of those before. -/
def hexDigits : Nat → Nat → Text → Except Fault (Nat × Text)
  | 0, n, t => .ok (n, t)
  | _ + 1, _, [] => .error .truncated
  | count + 1, n, b :: t =>
    match Text.hexValue? b with
    | some d => hexDigits count (n * 16 + d) t
    | none => .error (.unexpected b .hexEscape)

/-- The character of an escaped code unit, with the rest: a high surrogate needs a low one behind
it, and any other surrogate is the replacement character. -/
def escapedUnit (t : Text) : Except Fault (Char × Text) := do
  let (unit, rest) ← hexDigits 4 0 t
  if 0xD800 ≤ unit && unit < 0xDC00 then
    match rest with
    | 0x5C :: 0x75 :: more =>
      let (low, after) ← hexDigits 4 0 more
      if 0xDC00 ≤ low && low < 0xE000 then
        return (Char.ofNat (0x10000 + (unit - 0xD800) * 1024 + (low - 0xDC00)), after)
      else return (Text.replacement, rest)
    | _ => return (Text.replacement, rest)
  else if 0xDC00 ≤ unit && unit < 0xE000 then return (Text.replacement, rest)
  else return (Char.ofNat unit, rest)

/-- The character of an escape after its backslash, with the rest. -/
def escape : Text → Except Fault (Char × Text)
  | [] => .error .truncated
  | b :: rest =>
    match Char.ofNat b.toNat with
    | '"' => .ok ('"', rest)
    | '\\' => .ok ('\\', rest)
    | '/' => .ok ('/', rest)
    | 'b' => .ok (Char.ofNat 8, rest)
    | 'f' => .ok (Char.ofNat 12, rest)
    | 'n' => .ok ('\n', rest)
    | 'r' => .ok ('\r', rest)
    | 't' => .ok ('\t', rest)
    | 'u' => escapedUnit rest
    | _ => .error (.unexpected b .escape)

/-- The content of a string after its opening mark, in reverse, and the rest after the closing
mark. -/
def stringBody : Nat → Text → Text → Except Fault (Text × Text)
  | 0, _, _ => .error .truncated
  | fuel + 1, done, t =>
    match t with
    | [] => .error .truncated
    | 0x22 :: rest => .ok (done.reverse, rest)
    | 0x5C :: rest => do
      let (c, rest) ← escape rest
      stringBody fuel ((Text.ofChar c).reverse ++ done) rest
    | b :: rest =>
      if b < 0x20 then .error (.unexpected b .string)
      else if b < 0x80 then stringBody fuel (b :: done) rest
      else
        let g := Text.glyphAt b rest
        stringBody fuel ((Text.ofChar g.char).reverse ++ done) (rest.drop (g.bytes.length - 1))

/-- A string after its opening mark. -/
def string (t : Text) : Except Fault (Text × Text) := stringBody (t.length + 1) [] t

mutual

/-- A value at the front of a text, and the rest; `depth` more levels may open. -/
def value : Nat → Nat → Text → Except Fault (Json × Text)
  | 0, _, _ => .error .truncated
  | fuel + 1, depth, t =>
    let t := skipSpace t
    match t with
    | [] => .error .truncated
    | b :: rest =>
      match Char.ofNat b.toNat with
      | '{' =>
        match depth, skipSpace rest with
        | 0, _ => .error (.unexpected b .depth)
        | _ + 1, 0x7D :: after => .ok (.object [], after)
        | depth + 1, inner =>
          (members fuel depth [] inner).map fun (ms, rest) => (.object ms, rest)
      | '[' =>
        match depth, skipSpace rest with
        | 0, _ => .error (.unexpected b .depth)
        | _ + 1, 0x5D :: after => .ok (.array [], after)
        | depth + 1, inner =>
          (elements fuel depth [] inner).map fun (xs, rest) => (.array xs, rest)
      | '"' => (string rest).map fun (s, rest) => (.string s, rest)
      | 't' => wordValue "true" (.bool true) t
      | 'f' => wordValue "false" (.bool false) t
      | 'n' => wordValue "null" .null t
      | _ => (number t).map fun (n, rest) => (.number n, rest)

/-- The elements of an array up to its closing bracket. -/
def elements : Nat → Nat → List Json → Text → Except Fault (List Json × Text)
  | 0, _, _, _ => .error .truncated
  | fuel + 1, depth, done, t => do
    let (v, rest) ← value fuel depth t
    match skipSpace rest with
    | 0x2C :: after => elements fuel depth (v :: done) after
    | 0x5D :: after => .ok ((v :: done).reverse, after)
    | other => refuse .afterElement other

/-- The members of an object up to its closing brace. -/
def members : Nat → Nat → List (Text × Json) → Text → Except Fault (List (Text × Json) × Text)
  | 0, _, _, _ => .error .truncated
  | fuel + 1, depth, done, t =>
    match skipSpace t with
    | 0x22 :: rest => do
      let (key, rest) ← string rest
      match skipSpace rest with
      | 0x3A :: rest =>
        let (v, rest) ← value fuel depth rest
        match skipSpace rest with
        | 0x2C :: after => members fuel depth ((key, v) :: done) after
        | 0x7D :: after => .ok (((key, v) :: done).reverse, after)
        | other => refuse .afterMember other
      | other => refuse .afterKey other
    | other => refuse .key other

end

end Reader

/-- The number of levels that a text may open. -/
def maxDepth : Nat := 10000

/-- The first value of a text and what follows it. -/
def readPart (t : Text) : Except Fault (Json × Text) :=
  if (Reader.skipSpace t).isEmpty then .error .absent
  else Reader.value (2 * t.length + 2) maxDepth t

/-- The value that a text consists of. -/
def read? (t : Text) : Option Json :=
  match readPart t with
  | .ok (v, rest) => if (Reader.skipSpace rest).isEmpty then some v else none
  | .error _ => none

end Json

end TemplateCompiler
