import TemplateCompiler.Text.Integer
import TemplateCompiler.Text.Quoted

/-!
# Values on the command line

A flag takes a text, a truth value, an integer or a duration.  Values are checked when they are
given, so that a command can rely on what it finds.
-/

namespace TemplateCompiler

namespace Cli

/-- What a flag takes. -/
inductive ValueKind where
  | text
  | switch
  | integer
  | duration
  deriving DecidableEq, Repr

/-- Why a value is refused. -/
inductive ValueError where
  | truth (value : Text)
  | integer (value : Text) (fault : Text.IntegerFault)
  | duration (value : Text)
  /-- A number of a duration has no unit. -/
  | unitMissing (value : Text)
  | unitUnknown (unit value : Text)
  deriving DecidableEq, Repr

/-- A duration between quotation marks: a byte that is not printable ASCII is shown by its value. -/
def quotedDuration (t : Text) : Text :=
  let shown (b : UInt8) : Text :=
    if b < 0x20 || 0x80 ≤ b then "\\x" ++ Text.toHex [b]
    else if b == '"'.toUInt8 || b == '\\'.toUInt8 then ['\\'.toUInt8, b]
    else [b]
  "\"" ++ t.flatMap shown ++ "\""

def ValueError.message : ValueError → Text
  | truth value =>
    "strconv.ParseBool: parsing " ++ value.quoted ++ ": " ++ Text.IntegerFault.illFormed.message
  | integer value fault =>
    "strconv.ParseInt: parsing " ++ value.quoted ++ ": " ++ fault.message
  | duration value => "time: invalid duration " ++ quotedDuration value
  | unitMissing value => "time: missing unit in duration " ++ quotedDuration value
  | unitUnknown unit value =>
    "time: unknown unit " ++ quotedDuration unit ++ " in duration " ++ quotedDuration value

/-! ## Truth values -/

def readTruth? (t : Text) : Option Bool :=
  if ([("1" : Text), "t", "T", "true", "TRUE", "True"]).contains t then some true
  else if ([("0" : Text), "f", "F", "false", "FALSE", "False"]).contains t then some false
  else none

/-! ## Durations -/

def unitLength? (unit : Text) : Option Nat :=
  let units : List (Text × Nat) :=
    [("ns", 1), ("us", 1000), ("µs", 1000), ("μs", 1000), ("ms", 1000000), ("s", 1000000000),
     ("m", 60000000000), ("h", 3600000000000)]
  (units.find? fun u => u.1 == unit).map Prod.snd

/-- Whether a byte belongs to a number of a duration. -/
def isNumeric (b : UInt8) : Bool := Text.isDecimalDigit b || b == '.'.toUInt8

/-- One number of a duration with its unit. -/
structure DurationPart where
  whole : Text
  fraction : Text
  unit : Text
  deriving Repr

/-- The largest number of nanoseconds that is still looked at. -/
def durationLimit : Nat := Nat.pow 2 63

/-- The digits of a fraction that count: as many as fit below the limit. -/
def countedDigits (fraction : Text) : Text :=
  let fits (n : Nat) : Bool := Text.decimalValue (fraction.take n) ≤ durationLimit
  fraction.take (((List.range (fraction.length + 1)).takeWhile fits).length - 1)

def DurationPart.length? (p : DurationPart) : Option Nat := do
  let unit ← unitLength? p.unit
  let whole := Text.decimalValue p.whole
  let digits := countedDigits p.fraction
  let total := whole * unit + Text.decimalValue digits * unit / Nat.pow 10 digits.length
  if whole ≤ durationLimit / unit && total ≤ durationLimit then some total else none

/-- The first part of a text that is not empty, and what follows it. -/
def splitPart (t : Text) : DurationPart × Text :=
  let whole := t.takeWhile Text.isDecimalDigit
  let rest := t.drop whole.length
  let (fraction, rest) : Text × Text :=
    if Text.startsWith rest "." then
      let fraction := (rest.drop 1).takeWhile Text.isDecimalDigit
      (fraction, rest.drop (1 + fraction.length))
    else ([], rest)
  let unit := rest.takeWhile fun b => !isNumeric b
  (⟨whole, fraction, unit⟩, rest.drop unit.length)

/-- Add up the parts of a duration; `value` is the whole duration.  `fuel` bounds the number of its
parts. -/
def readParts (value : Text) : Nat → Nat → Text → Except ValueError Nat
  | _, sum, [] => .ok sum
  | 0, _, _ => .error (.duration value)
  | fuel + 1, sum, t =>
    let (part, rest) := splitPart t
    if (part.whole.isEmpty && part.fraction.isEmpty)
        || durationLimit < Text.decimalValue part.whole then .error (.duration value)
    else if part.unit.isEmpty then .error (.unitMissing value)
    else if (unitLength? part.unit).isNone then .error (.unitUnknown part.unit value)
    else match part.length? with
      | none => .error (.duration value)
      | some n =>
        if durationLimit < sum + n then .error (.duration value)
        else readParts value fuel (sum + n) rest

/-- Read a duration in nanoseconds: a sign and numbers with their units, or zero alone. -/
def readDuration (value : Text) : Except ValueError Int :=
  let negative := value.startsWith "-"
  let unsigned := if negative || value.startsWith "+" then value.drop 1 else value
  if unsigned == Text.ofString "0" then .ok 0
  else if unsigned.isEmpty then .error (.duration value)
  else match readParts value unsigned.length 0 unsigned with
    | .error e => .error e
    | .ok n =>
      if negative then .ok (-n)
      else if n < durationLimit then .ok n
      else .error (.duration value)

/-! ## Values -/

/-- Why a value is not one of its kind. -/
def ValueKind.refusal? (kind : ValueKind) (value : Text) : Option ValueError :=
  match kind with
  | text => none
  | switch => if (readTruth? value).isSome then none else some (.truth value)
  | integer => match Text.readInteger value with
    | .ok _ => none
    | .error fault => some (.integer value fault)
  | duration => match readDuration value with
    | .ok _ => none
    | .error e => some e

end Cli

end TemplateCompiler
