import TemplateCompiler.Text.Decimal

/-!
# Written integers

An integer is written with an optional sign, an optional mark of its base and digits.  A leading zero
alone is the mark of base eight.  Underscores may separate the digits and follow the mark.  Integers
have 64 bits.
-/

namespace TemplateCompiler

namespace Text

/-- Why a text is not the writing of an integer. -/
inductive IntegerFault where
  | illFormed
  | outOfRange
  deriving DecidableEq, Repr

def IntegerFault.message : IntegerFault → Text
  | illFormed => "invalid syntax"
  | outOfRange => "value out of range"

def digitSeparator : UInt8 := '_'.toUInt8

/-- An ASCII letter in lower case. -/
def lowerLetter (b : UInt8) : UInt8 := if 0x41 ≤ b && b ≤ 0x5A then b + 0x20 else b

/-- The value of a digit of a base of at most 36. -/
def digitValue? (base : Nat) (b : UInt8) : Option Nat :=
  let value? :=
    if isDecimalDigit b then some (b.toNat - 0x30)
    else
      let l := lowerLetter b
      if 0x61 ≤ l && l ≤ 0x7A then some (l.toNat - 0x61 + 10) else none
  value?.filter (· < base)

/-- The base that a letter behind a zero marks. -/
def markedBase? (b : UInt8) : Option Nat :=
  let l := lowerLetter b
  if l == 'b'.toUInt8 then some 2
  else if l == 'o'.toUInt8 then some 8
  else if l == 'x'.toUInt8 then some 16
  else none

/-- The base of an unsigned integer, and its text without the mark. -/
def baseAndDigits (t : Text) : Nat × Text :=
  match t with
  | zero :: rest =>
    if zero != '0'.toUInt8 then (10, t)
    else match rest with
      | mark :: digit :: digits =>
        match markedBase? mark with
        | some base => (base, digit :: digits)
        | none => (8, rest)
      | _ => (8, rest)
  | [] => (10, t)

/-- The value of digits that continue a number below `2 ^ 64`.  Separators are passed over. -/
def readDigits (base : Nat) (value : Nat) : Text → Except IntegerFault Nat
  | [] => .ok value
  | b :: rest =>
    if b == digitSeparator then readDigits base value rest
    else match digitValue? base b with
      | none => .error .illFormed
      | some d =>
        if Nat.pow 2 64 ≤ value * base + d then .error .outOfRange
        else readDigits base (value * base + d) rest

/-- Whether each separator stands between two digits; `afterDigit` says whether a digit, or the mark
of a base, comes before the text. -/
def separatorsFit (afterDigit : Bool) : Text → Bool
  | [] => true
  | b :: rest =>
    if b == digitSeparator then
      afterDigit && (rest.head?.any fun next => next != digitSeparator) && separatorsFit false rest
    else separatorsFit true rest

def readUnsigned (t : Text) : Except IntegerFault Nat :=
  if t.isEmpty then .error .illFormed
  else
    let (base, digits) := baseAndDigits t
    match readDigits base 0 digits with
    | .error fault => .error fault
    | .ok value => if separatorsFit (base != 10) digits then .ok value else .error .illFormed

def readInteger (t : Text) : Except IntegerFault Int :=
  let negative := t.startsWith "-"
  let unsigned := if negative || t.startsWith "+" then t.drop 1 else t
  match readUnsigned unsigned with
  | .error fault => .error fault
  | .ok n =>
    if negative then if n ≤ Nat.pow 2 63 then .ok (-n) else .error .outOfRange
    else if n < Nat.pow 2 63 then .ok n else .error .outOfRange

end Text

end TemplateCompiler
