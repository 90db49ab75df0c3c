import TemplateCompiler.Toml.Literal

/-!
# The statements of a configuration file

A TOML file is a list of statements: headers that open a table, and assignments of a value to a
dotted key.  What the statements mean together is for `TemplateCompiler.Toml.Document`.

The recursion is bounded by the number of bytes: every part of a statement takes at least one.
-/

namespace TemplateCompiler

namespace Toml

/-- A value as it is written. -/
inductive Written where
  | string (value : Text)
  | integer (value : Int)
  | fraction (literal : Text)
  | bool (value : Bool)
  | moment (literal : Text)
  | array (items : List Written)
  | table (entries : List (List Text × Written))
  deriving Inhabited

/-- A statement. -/
inductive Statement where
  /-- Open a table. -/
  | table (key : List Text)
  /-- Open the next table of an array. -/
  | element (key : List Text)
  /-- Give a key of the open table a value. -/
  | assign (key : List Text) (value : Written)
  deriving Inhabited

/-! ## Keys -/

/-- Whether a byte can stand in a key without quotation marks. -/
def isBareKeyByte (b : UInt8) : Bool :=
  (0x41 ≤ b && b ≤ 0x5A) || (0x61 ≤ b && b ≤ 0x7A) || Text.isDecimalDigit b
    || b == '_'.toUInt8 || b == '-'.toUInt8

/-- One part of a key, and the rest. -/
def keyPart? : Text → Option (Text × Text)
  | [] => none
  | b :: rest =>
    if b == '"'.toUInt8 then do
      let (body, rest) ← lineString? b true rest
      return (← unescape? body, rest)
    else if b == '\''.toUInt8 then lineString? b false rest
    else
      let name := (b :: rest).takeWhile isBareKeyByte
      if name.isEmpty then none else some (name, (b :: rest).drop name.length)

/-- A dotted key that ends in a given byte, and the rest after that byte. -/
def key? (stop : UInt8) : Nat → Text → Option (List Text × Text)
  | 0, _ => none
  | fuel + 1, t => do
    let (part, t) ← keyPart? (skipBlanks t)
    match skipBlanks t with
    | [] => none
    | b :: rest =>
      if b == '.'.toUInt8 then (key? stop fuel rest).map fun (parts, rest) => (part :: parts, rest)
      else if b == stop then some ([part], rest)
      else none

/-! ## Values -/

/-- A literal of bytes that belong to it, read as a value, and the rest. -/
def literal? (t : Text) (belongs : UInt8 → Bool) (value : Text → Option Written) :
    Option (Written × Text) :=
  let literal := t.takeWhile belongs
  (value literal).map fun v => (v, t.drop literal.length)

/-- An integer, as far as its bytes go. -/
def integerLiteral? (t : Text) (belongs : UInt8 → Bool) : Option (Written × Text) :=
  literal? t belongs fun l => (integer? l).map Written.integer

/-- A fraction, as far as its bytes go. -/
def fractionLiteral? (t : Text) : Option (Written × Text) :=
  literal? t (fun b => Text.isDecimalDigit b || (Text.ofString "_.-+eE").contains b)
    fun l => if isFraction l then some (.fraction l) else none

/-- A moment, as far as its bytes go. -/
def momentLiteral? (t : Text) : Option (Written × Text) :=
  literal? t (fun b => Text.isDecimalDigit b || (Text.ofString "-:Tt .Zz+").contains b) fun l =>
    let l := momentForm (Text.trimWhile l isBlank)
    if isMoment l then some (.moment l) else none

/-- A decimal number, which is a fraction if a point or an exponent follows its digits. -/
def decimal? (t : Text) : Option (Written × Text) :=
  let unsigned := t.dropWhile fun b => b == '+'.toUInt8 || b == '-'.toUInt8
  let isWhole (b : UInt8) := Text.isDecimalDigit b || b == '_'.toUInt8
  match unsigned.dropWhile isWhole with
  | b :: _ =>
    if (Text.ofString ".eE").contains b then fractionLiteral? t
    else integerLiteral? t fun b => isWhole b || b == '+'.toUInt8 || b == '-'.toUInt8
  | [] => integerLiteral? t fun b => isWhole b || b == '+'.toUInt8 || b == '-'.toUInt8

/-- An integer that names its base: a digit follows the name at once. -/
def based? (t : Text) : Option (Written × Text) := do
  let first ← Text.hexValue? (← t[2]?)
  let base := if t.startsWith "0x" then 16 else if t.startsWith "0o" then 8 else 2
  if first < base then
    integerLiteral? t fun b =>
      (Text.hexValue? b).isSome || (Text.ofString "_ox").contains b
  else none

/-- A number or a moment, by what follows its first digits.  A moment starts with two digits or
with one that is not zero. -/
def numberOrMoment? (t : Text) : Option (Written × Text) :=
  let digits := t.takeWhile Text.isDecimalDigit
  match t.dropWhile Text.isDecimalDigit with
  | [] => decimal? t
  | b :: _ =>
    if digits == "0" && (Text.ofString "box").contains b then based? t
    else if b == '-'.toUInt8 || b == ':'.toUInt8 then
      if digits == "0" then none else momentLiteral? t
    else decimal? t

def signed? (t : Text) : Option (Written × Text) :=
  let unsigned : Text := t.drop 1
  if unsigned.startsWith "inf" || unsigned.startsWith "nan" then
    some (.fraction (t.take 4), t.drop 4)
  else if (unsigned.head?.map Text.isDecimalDigit).getD false then
    if unsigned.startsWith "0b" || unsigned.startsWith "0o" || unsigned.startsWith "0x" then none
    else decimal? t
  else none

/-- A value that holds no other values, and the rest. -/
def scalar? (t : Text) : Option (Written × Text) :=
  match t with
  | [] => none
  | b :: rest =>
    if b == '"'.toUInt8 || b == '\''.toUInt8 then
      (string? b rest).map fun (s, rest) => (.string s, rest)
    else if Text.isDecimalDigit b then numberOrMoment? t
    else if b == '+'.toUInt8 || b == '-'.toUInt8 then signed? t
    else if t.startsWith "inf" || t.startsWith "nan" then some (.fraction (t.take 3), t.drop 3)
    else if t.startsWith "true" then some (.bool true, t.drop 4)
    else if t.startsWith "false" then some (.bool false, t.drop 5)
    else none

/-- The text after a comment that starts here. -/
def skipComment (t : Text) : Text := t.dropWhile fun b => !isLineEnd b

/-- The text after white space, line ends and comments. -/
def skipLines : Nat → Text → Text
  | 0, t => t
  | fuel + 1, t =>
    match t.dropWhile isSpace with
    | [] => []
    | b :: rest => if b == '#'.toUInt8 then skipLines fuel (skipComment rest) else b :: rest

mutual

def value? : Nat → Text → Option (Written × Text)
  | 0, _ => none
  | fuel + 1, t =>
    match skipBlanks t with
    | [] => none
    | b :: rest =>
      if b == '['.toUInt8 then (items? fuel rest).map fun (xs, rest) => (.array xs, rest)
      else if b == 0x7B then do
        match skipBlanks rest with
        | 0x7D :: rest => return (.table [], rest)
        | rest =>
          let (es, rest) ← entries? fuel rest
          return (.table es, rest)
      else scalar? (b :: rest)

/-- The items of an array up to its end, and the rest. -/
def items? : Nat → Text → Option (List Written × Text)
  | 0, _ => none
  | fuel + 1, t =>
    match skipLines t.length t with
    | [] => none
    | b :: rest =>
      if b == ']'.toUInt8 then some ([], rest)
      else do
        let (v, t) ← value? fuel (b :: rest)
        match skipLines t.length t with
        | [] => none
        | b :: rest =>
          if b == ','.toUInt8 then
            let (vs, t) ← items? fuel rest
            return (v :: vs, t)
          else if b == ']'.toUInt8 then return ([v], rest)
          else none

/-- The entries of a table on one line, at least one, up to its end, and the rest. -/
def entries? : Nat → Text → Option (List (List Text × Written) × Text)
  | 0, _ => none
  | fuel + 1, t => do
    let (key, t) ← key? '='.toUInt8 t.length t
    let (v, t) ← value? fuel t
    match skipBlanks t with
    | [] => none
    | b :: rest =>
      if b == ','.toUInt8 then
        let (es, t) ← entries? fuel rest
        return ((key, v) :: es, t)
      else if b == 0x7D then return ([(key, v)], rest)
      else none

end

/-! ## Statements -/

/-- The rest after the line on which a statement ends; nothing else may stand there. -/
def lineRest? (t : Text) : Option Text :=
  match skipBlanks t with
  | [] => some []
  | b :: rest =>
    if b == '#'.toUInt8 then some (skipComment rest)
    else if isLineEnd b then some (b :: rest)
    else none

def statement? (t : Text) : Option (Statement × Text) :=
  match t with
  | 0x5B :: 0x5B :: rest => do
    let (key, rest) ← key? ']'.toUInt8 rest.length rest
    return (.element key, ← rest.stripStart? "]")
  | 0x5B :: rest => (key? ']'.toUInt8 rest.length rest).map fun (key, rest) => (.table key, rest)
  | t => do
    let (key, t) ← key? '='.toUInt8 t.length t
    let (v, t) ← value? (2 * t.length + 2) t
    return (.assign key v, t)

def statements? : Nat → Text → Option (List Statement)
  | 0, _ => none
  | fuel + 1, t =>
    match skipLines t.length t with
    | [] => some []
    | t => do
      let (s, t) ← statement? t
      let t ← lineRest? t
      let ss ← statements? fuel t
      return s :: ss

/-! ## Files -/

/-- Whether a character is a control character that no file may hold. -/
def isForbidden (c : Char) : Bool :=
  (c.toNat < 0x20 && c != '\t' && c != '\n' && c != '\r') || c.toNat == 0x7F || c == Text.replacement

/-- Whether each carriage return belongs to a line end. -/
def returnsFit : Text → Bool
  | [] => true
  | b :: rest => (b != '\r'.toUInt8 || rest.head? == some '\n'.toUInt8) && returnsFit rest

/-- The text without the mark that some editors put in front of it. -/
def dropMark (t : Text) : Text :=
  match t with
  | 0xFF :: 0xFE :: rest | 0xFE :: 0xFF :: rest | 0xEF :: 0xBB :: 0xBF :: rest => rest
  | t => t

def read? (t : Text) : Option (List Statement) :=
  let t := dropMark t
  if (t.chars.any isForbidden) || !returnsFit t then none else statements? (t.length + 1) t

end Toml

end TemplateCompiler
