import TemplateCompiler.Text.Characters
import TemplateCompiler.Text.Decimal

/-!
# Written values of configuration files

The strings, numbers and moments of TOML.  Each reader takes the text after the first byte that
told which kind of value follows, and returns the value with the rest.  Texts are known to be
well-formed and free of control characters other than tabs and line ends.
-/

namespace TemplateCompiler

namespace Toml

/-- Whether a byte is a blank inside a line. -/
def isBlank (b : UInt8) : Bool := b == ' '.toUInt8 || b == '\t'.toUInt8

/-- Whether a byte belongs to a line end. -/
def isLineEnd (b : UInt8) : Bool := b == '\n'.toUInt8 || b == '\r'.toUInt8

def skipBlanks (t : Text) : Text := t.dropWhile isBlank

/-! ## Strings -/

def hexNumber? (digits : Text) : Option Nat :=
  digits.foldlM (fun n b => (Text.hexValue? b).map (16 * n + ·)) 0

/-- The character of a code point written in `n` hexadecimal digits at the front of a text. -/
def codePoint? (n : Nat) (t : Text) : Option Text := do
  let digits := t.take n
  let value ← hexNumber? digits
  if digits.length == n && value.isValidChar then some (Text.ofChar (Char.ofNat value)) else none

/-- What the text after a backslash stands for, with the number of bytes it takes. -/
def escape? : Text → Option (Text × Nat)
  | [] => none
  | b :: rest =>
    match Char.ofNat b.toNat with
    | 'b' => some ([0x08], 1)
    | 't' => some ([0x09], 1)
    | 'n' => some ([0x0A], 1)
    | 'f' => some ([0x0C], 1)
    | 'r' => some ([0x0D], 1)
    | '"' => some ([0x22], 1)
    | '\\' => some ([0x5C], 1)
    | 'u' => (codePoint? 4 rest).map fun c => (c, 5)
    | 'U' => (codePoint? 8 rest).map fun c => (c, 9)
    | _ => none

/-- Replace escapes after some bytes that an escape took. -/
def unescapeFrom : Nat → Text → Option Text
  | _, [] => some []
  | skip + 1, _ :: rest => unescapeFrom skip rest
  | 0, b :: rest =>
    if b == '\\'.toUInt8 then
      match escape? rest with
      | some (c, n) => (unescapeFrom n rest).map (c ++ ·)
      | none => none
    else (unescapeFrom 0 rest).map (b :: ·)

/-- The text with its escapes replaced. -/
def unescape? (t : Text) : Option Text := unescapeFrom 0 t

/-- The bytes up to the closing mark of a string on one line, and the rest.  Where `escapes` are
known, an escaped mark does not close the string. -/
def lineString? (mark : UInt8) (escapes : Bool) : Text → Option (Text × Text)
  | [] => none
  | b :: rest =>
    if isLineEnd b then none
    else if b == mark then some ([], rest)
    else if escapes && b == '\\'.toUInt8 then
      match rest with
      | [] => none
      | c :: rest => (lineString? mark escapes rest).map fun (s, rest) => (b :: c :: s, rest)
    else (lineString? mark escapes rest).map fun (s, rest) => (b :: s, rest)

/-- Whether the bytes read so far, latest first, end in five marks of which the first is not
escaped: then one more mark is too many. -/
def endsInFive (mark : UInt8) (escapes : Bool) (read : Text) : Bool :=
  read.take 5 == List.replicate 5 mark && !(escapes && read[5]? == some '\\'.toUInt8)

/-- The bytes up to the three closing marks of a string of many lines, and the rest.  Up to two
more marks before the closing ones belong to the string.  `read` holds the bytes so far, latest
first. -/
def blockString? (mark : UInt8) (escapes : Bool) (read : Text) : Text → Option (Text × Text)
  | [] => none
  | b :: rest =>
    if b == mark && rest.take 2 == [mark, mark] then
      if rest[2]? == some mark then
        if endsInFive mark escapes (mark :: mark :: mark :: read) then none
        else blockString? mark escapes (b :: read) rest
      else some (read.reverse, rest.drop 2)
    else if escapes && b == '\\'.toUInt8 then
      match rest with
      | [] => none
      | c :: rest => blockString? mark escapes (c :: b :: read) rest
    else blockString? mark escapes (b :: read) rest

/-- A string of many lines does not start with the line end after its opening marks. -/
def dropFirstLineEnd : Text → Text
  | b :: rest =>
    if b == '\n'.toUInt8 then rest
    else if b == '\r'.toUInt8 && rest.head? == some '\n'.toUInt8 then rest.drop 1
    else b :: rest
  | [] => []

/-- Whether a byte is white space of any kind. -/
def isSpace (b : UInt8) : Bool := isBlank b || isLineEnd b

/-- Join lines after some bytes that were left out. -/
def joinLinesFrom : Nat → Text → Text
  | _, [] => []
  | skip + 1, _ :: rest => joinLinesFrom skip rest
  | 0, b :: rest =>
    if b == '\\'.toUInt8 then
      let space := rest.takeWhile isSpace
      if rest.head? == some b then b :: b :: joinLinesFrom 1 rest
      else if space.contains '\n'.toUInt8 then joinLinesFrom space.length rest
      else b :: joinLinesFrom 0 rest
    else b :: joinLinesFrom 0 rest

/-- A backslash before a line end stands for nothing, and so does the white space after it. -/
def joinLines (t : Text) : Text := joinLinesFrom 0 t

/-- A string after its first mark, and the rest. -/
def string? (mark : UInt8) (t : Text) : Option (Text × Text) := do
  let escapes := mark == '"'.toUInt8
  if t.take 2 == [mark, mark] then
    let (body, rest) ← blockString? mark escapes [] (t.drop 2)
    let body := dropFirstLineEnd body
    if escapes then return (← unescape? (joinLines body), rest) else return (body, rest)
  else
    let (body, rest) ← lineString? mark escapes t
    if escapes then return (← unescape? body, rest) else return (body, rest)

/-! ## Numbers -/

/-- Whether each underscore stands between digits. -/
def underscoresFit (literal : Text) : Bool :=
  let (fits, last) := literal.foldl (fun (fits, last) b =>
    (fits && (b != '_'.toUInt8 || last), (Text.hexValue? b).isSome)) (true, false)
  fits && last

/-- Whether a decimal literal starts with a zero that is not its only digit. -/
def hasLeadingZero (literal : Text) : Bool :=
  match literal with
  | a :: b :: rest =>
    if a == '0'.toUInt8 then !((Text.ofString "box").contains b)
    else (a == '-'.toUInt8 || a == '+'.toUInt8) && b == '0'.toUInt8 && !rest.isEmpty
  | _ => false

def basedNumber? (base : Nat) (digits : Text) : Option Nat :=
  if digits.isEmpty then none
  else digits.foldlM (fun n b => do
    let d ← Text.hexValue? b
    if d < base then some (base * n + d) else none) 0

/-- The number of an unsigned literal, its base given by its start. -/
def unsignedNumber? (literal : Text) : Option Nat :=
  match literal.stripStart? "0x", literal.stripStart? "0o", literal.stripStart? "0b" with
  | some digits, _, _ => basedNumber? 16 digits
  | _, some digits, _ => basedNumber? 8 digits
  | _, _, some digits => basedNumber? 2 digits
  | _, _, _ => basedNumber? 10 literal

/-- The value of an integer literal of 64 bits. -/
def integer? (literal : Text) : Option Int := do
  if !underscoresFit literal || hasLeadingZero literal then none
  else
    let digits := literal.filter (· != '_'.toUInt8)
    let value ← match digits with
      | [] => none
      | sign :: rest =>
        if sign == '-'.toUInt8 then (unsignedNumber? rest).map fun n => -(n : Int)
        else if sign == '+'.toUInt8 then (unsignedNumber? rest).map Int.ofNat
        else (unsignedNumber? digits).map Int.ofNat
    if -9223372036854775808 ≤ value && value ≤ 9223372036854775807 then some value else none

/-- The parts of a fraction between its point and its exponent mark, empty ones left out. -/
def fractionParts (literal : Text) : List Text :=
  let parts : List Text := Text.splitOnByte '.'.toUInt8
    (literal.map fun b => if b == 'e'.toUInt8 || b == 'E'.toUInt8 then '.'.toUInt8 else b)
  parts.filter fun p => !p.isEmpty

/-- Whether each point is followed by a digit. -/
def pointsFit : Text → Bool
  | [] => true
  | b :: rest =>
    (b != '.'.toUInt8 || (rest.head?.map Text.isDecimalDigit).getD false) && pointsFit rest

/-- Whether a literal is that of a finite fraction. -/
def isFraction (literal : Text) : Bool :=
  let parts := fractionParts literal
  parts.all underscoresFit && !((parts.head?.map hasLeadingZero).getD false) && pointsFit literal
    && match Text.readDecimal? (Text.dropStart (literal.filter (· != '_'.toUInt8)) "+") with
      | some x => (Text.exponentAndFraction x).1 != 2047
      | none => false

/-! ## Moments -/

/-- A number of two digits within bounds, and the rest. -/
def twoDigits? (low high : Nat) (t : Text) : Option (Nat × Text) :=
  let digits := t.take 2
  let value := Text.decimalValue digits
  if digits.length == 2 && digits.all Text.isDecimalDigit && low ≤ value && value ≤ high then
    some (value, t.drop 2)
  else none

/-- An hour, which may have one digit, and the rest. -/
def hour? (t : Text) : Option Text :=
  let digits := (t.take 2).takeWhile Text.isDecimalDigit
  if !digits.isEmpty && Text.decimalValue digits < 24 then some (t.drop digits.length) else none

def daysIn (year month : Nat) : Nat :=
  if month == 2 then
    if year % 4 == 0 && (year % 100 != 0 || year % 400 == 0) then 29 else 28
  else if month == 4 || month == 6 || month == 9 || month == 11 then 30
  else 31

def date? (t : Text) : Option Text := do
  let year := t.take 4
  if year.length != 4 || !year.all Text.isDecimalDigit then none
  else
    let (month, t) ← twoDigits? 1 12 (← Text.stripStart? (t.drop 4) "-")
    let (_, t) ← twoDigits? 1 (daysIn (Text.decimalValue year) month) (← t.stripStart? "-")
    return t

/-- A time of day, and the rest. -/
def time? (t : Text) : Option Text := do
  let t ← hour? t
  let (_, t) ← twoDigits? 0 59 (← t.stripStart? ":")
  let (_, t) ← twoDigits? 0 59 (← t.stripStart? ":")
  let fraction := (t.drop 1).takeWhile Text.isDecimalDigit
  return if t.startsWith "." && !fraction.isEmpty then t.drop (1 + fraction.length) else t

/-- Whether a text is the offset of a time zone, or empty. -/
def isZone (t : Text) : Bool :=
  t.isEmpty || t == "Z" || ((t.startsWith "+" || t.startsWith "-") && t.length == 6
    && t[3]? == some ':'.toUInt8 && (twoDigits? 0 24 (t.drop 1)).isSome
    && (twoDigits? 0 60 (t.drop 4)).isSome)

/-- Whether a text is a date, a time of day, or both with an optional time zone. -/
def isMoment (t : Text) : Bool :=
  match date? t with
  | some [] => true
  | some rest => match (rest.stripStart? "T").bind time? with
    | some zone => isZone zone
    | none => false
  | none => time? t == some []

/-- A moment with capital letters, the date and the time apart by a letter. -/
def momentForm (t : Text) : Text :=
  t.map fun b => if b == 'z'.toUInt8 then 'Z'.toUInt8
    else if b == 't'.toUInt8 || b == ' '.toUInt8 then 'T'.toUInt8 else b

end Toml

end TemplateCompiler
