import TemplateCompiler.Text.Basic

/-!
# Colored text

Terminals color what stands between two control sequences.
-/

namespace TemplateCompiler

namespace Report

/-- A property of colored text. -/
inductive Paint where
  | bold
  | red
  | green
  | yellow
  | blue
  | cyan
  | white
  deriving DecidableEq, Repr

namespace Paint

/-- The number that switches a property on. -/
def code : Paint → Nat
  | bold => 1
  | red => 31
  | green => 32
  | yellow => 33
  | blue => 34
  | cyan => 36
  | white => 37

/-- The number that switches a property off. -/
def resetCode : Paint → Nat
  | bold => 22
  | _ => 0

def sequence (codes : List Nat) : Text :=
  0x1B :: ("[" ++ Text.join ";" (codes.map Text.ofNat) ++ "m")

/-- A text with properties, or as it is if there is no color. -/
def apply (color : Bool) (paints : List Paint) (t : Text) : Text :=
  if color then sequence (paints.map code) ++ t ++ sequence (paints.map resetCode) else t

end Paint

end Report

end TemplateCompiler
