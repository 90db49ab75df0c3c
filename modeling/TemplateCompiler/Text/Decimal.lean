import TemplateCompiler.Text.Basic

/-!
# Decimal fractions

A binary floating-point number is an integer times a power of two, so it has an exact decimal
fraction.  `fixed` rounds that fraction to a number of places, a half to the even neighbour.
`readDecimal?` gives the number closest to a written decimal.
-/

namespace TemplateCompiler

namespace Text

/-- A quotient rounded to the nearest integer, a half to the even one. -/
def roundHalfEven (numerator denominator : Nat) : Nat :=
  let quotient := numerator / denominator
  let rest := 2 * (numerator % denominator)
  if denominator < rest || (rest == denominator && quotient % 2 == 1) then quotient + 1
  else quotient

/-- A finite binary number without its sign: `significand · 2 ^ (exponent - 1074)`. -/
structure Dyadic where
  significand : Nat
  exponent : Nat
  deriving Repr

/-- The number scaled by a power of ten and rounded to an integer. -/
def Dyadic.scaled (d : Dyadic) (places : Nat) : Nat :=
  roundHalfEven (d.significand * Nat.pow 2 d.exponent * Nat.pow 10 places) (Nat.pow 2 1074)

/-- A number of units of which `10 ^ places` make a whole. -/
def ofUnits (places units : Nat) : Text :=
  let whole := ofNat (units / Nat.pow 10 places)
  if places == 0 then whole else whole ++ "." ++ ofNatPadded places (units % Nat.pow 10 places)

/-- The sign bit of a number. -/
def signBit (x : Float) : Bool := x.toBits.toNat / Nat.pow 2 63 == 1

/-- The exponent and the fraction of a number as its bits hold them. -/
def exponentAndFraction (x : Float) : Nat × Nat :=
  (x.toBits.toNat / Nat.pow 2 52 % 2048, x.toBits.toNat % Nat.pow 2 52)

/-- A number with a fixed count of decimal places. -/
def fixed (places : Nat) (x : Float) : Text :=
  match exponentAndFraction x with
  | (2047, 0) => if signBit x then "-Inf" else "+Inf"
  | (2047, _) => "NaN"
  | (0, fraction) => when (signBit x) "-" ++ ofUnits places (Dyadic.scaled ⟨fraction, 0⟩ places)
  | (exponent, fraction) =>
    when (signBit x) "-"
      ++ ofUnits places (Dyadic.scaled ⟨Nat.pow 2 52 + fraction, exponent - 1⟩ places)

def isDecimalDigit (b : UInt8) : Bool := 0x30 ≤ b && b ≤ 0x39

def decimalValue (digits : Text) : Nat := digits.foldl (fun n b => 10 * n + (b.toNat - 0x30)) 0

/-- The exponent of a written decimal: an optional sign and digits. -/
def readExponent? : Text → Option Int
  | [] => none
  | sign :: digits =>
    let unsigned := if sign == '-'.toUInt8 || sign == '+'.toUInt8 then digits else sign :: digits
    if unsigned.isEmpty || !unsigned.all isDecimalDigit then none
    else some (if sign == '-'.toUInt8 then -(decimalValue unsigned : Int)
      else (decimalValue unsigned : Int))

/-- The power of ten that scales a number of digits, cut back where it is beyond all numbers: what
is larger is infinite and what is smaller is zero all the same. -/
def clampedScale (digits : Nat) (scale : Int) : Int := min 400 (max (-(digits + 400 : Int)) scale)

/-- The number closest to a written decimal: digits, a fraction and an exponent. -/
def readDecimal? (t : Text) : Option Float := do
  let negative := t.startsWith "-"
  let unsigned := t.dropStart "-"
  let whole := unsigned.takeWhile isDecimalDigit
  let rest : Text := unsigned.drop whole.length
  let fraction := if rest.startsWith "." then (rest.drop 1).takeWhile isDecimalDigit else []
  let rest := if rest.startsWith "." then rest.drop (1 + fraction.length) else rest
  let exponent : Int ← match rest with
    | [] => some 0
    | e :: rest => if e == 'e'.toUInt8 || e == 'E'.toUInt8 then readExponent? rest else none
  if whole.isEmpty then none
  else
    let digits := whole ++ fraction
    let scale := clampedScale digits.length (exponent - fraction.length)
    let x := Float.ofScientific (decimalValue digits) (scale < 0) scale.natAbs
    return if negative then -x else x

end Text

end TemplateCompiler
