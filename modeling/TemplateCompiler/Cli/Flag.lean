import TemplateCompiler.Cli.Value

/-!
# Flags

An argument that starts with a hyphen gives a value to a flag: `--name`, `--name=value`, or letters
behind a single hyphen.  A switch needs no value; every other flag takes the next argument if none
follows its name.  All other arguments are operands, and after `--` everything is.  Where a flag is
given more than once the last value holds.
-/

namespace TemplateCompiler

namespace Cli

/-- A flag of a command, as it is looked up by name or by letter: what value it takes, and the value
that it has when the command line does not give one. -/
structure Flag where
  name : Text
  kind : ValueKind := .text
  /-- The value of a flag that is not given. -/
  standard : Text := []
  letter? : Option UInt8 := none
  deriving DecidableEq, Repr

/-- Why the arguments of a command cannot be used. -/
inductive FlagError where
  | badForm (argument : Text)
  | unknownName (name : Text)
  | unknownLetter (letter : UInt8) (letters : Text)
  | valueMissing (name : Text)
  | letterValueMissing (letter : UInt8)
  | refused (flag : Flag) (value : Text) (cause : ValueError)
  deriving DecidableEq, Repr

/-- A letter between quotation marks. -/
def quotedLetter (b : UInt8) : Text := Text.quotedChar (Char.ofNat b.toNat)

/-- A flag as it is named in errors. -/
def Flag.label (f : Flag) : Text :=
  (match f.letter? with
    | some b => "-" ++ [b] ++ ", "
    | none => []) ++ "--" ++ f.name

def FlagError.message : FlagError → Text
  | badForm argument => "bad flag syntax: " ++ argument
  | unknownName name => "unknown flag: --" ++ name
  | unknownLetter letter letters =>
    "unknown shorthand flag: " ++ quotedLetter letter ++ " in -" ++ letters
  | valueMissing name => "flag needs an argument: --" ++ name
  | letterValueMissing letter =>
    "flag needs an argument: " ++ quotedLetter letter ++ " in -" ++ [letter]
  | refused flag value cause =>
    "invalid argument " ++ value.quoted ++ " for " ++ flag.label.quoted ++ " flag: "
      ++ cause.message

/-! ## What is given -/

/-- What the arguments of a command say.  A flag may be given several times, where the last one
counts, and what is no flag is an operand. -/
structure Given where
  /-- The values of flags by name, latest first. -/
  values : List (Text × Text) := []
  operands : List Text := []
  deriving Repr

namespace Given

def value? (g : Given) (f : Flag) : Option Text :=
  (g.values.find? fun v => v.1 == f.name).map Prod.snd

def has (g : Given) (f : Flag) : Bool := (g.value? f).isSome

def text (g : Given) (f : Flag) : Text := (g.value? f).getD f.standard

def isOn (g : Given) (f : Flag) : Bool := readTruth? (g.text f) == some true

/-- The value of a flag that takes an integer. -/
def integer (g : Given) (f : Flag) : Int := (Text.readInteger (g.text f)).toOption.getD 0

def set (g : Given) (f : Flag) (value : Text) : Except FlagError Given :=
  match f.kind.refusal? value with
  | some cause => .error (.refused f value cause)
  | none => .ok { g with values := (f.name, value) :: g.values }

def turnOn (g : Given) (f : Flag) : Given := { g with values := (f.name, "true") :: g.values }

end Given

/-! ## Reading arguments -/

/-- A flag whose value is the next argument, and the error if there is none. -/
structure Pending where
  flag : Flag
  error : FlagError

def flagNamed? (flags : List Flag) (name : Text) : Option Flag :=
  flags.find? fun f => f.name == name

def flagLettered? (flags : List Flag) (letter : UInt8) : Option Flag :=
  flags.find? fun f => f.letter? == some letter

/-- Read an argument that gives a flag by its name, without the hyphens. -/
def readNamed (flags : List Flag) (g : Given) (body : Text) :
    Except FlagError (Given × Option Pending) :=
  if body.head?.any fun b => b == '-'.toUInt8 || b == '='.toUInt8 then
    .error (.badForm ("--" ++ body))
  else
    let name := body.takeWhile (· != '='.toUInt8)
    match flagNamed? flags name with
    | none => .error (.unknownName name)
    | some f =>
      if name.length < body.length then
        (g.set f (body.drop (name.length + 1))).map fun g => (g, none)
      else if f.kind == .switch then .ok (g.turnOn f, none)
      else .ok (g, some ⟨f, .valueMissing name⟩)

/-- Read the letters of an argument.  Letters that start with `test.` are meant for the program that
runs tests and are ignored. -/
def readLetters (flags : List Flag) (g : Given) : Text → Except FlagError (Given × Option Pending)
  | [] => .ok (g, none)
  | letter :: rest =>
    if Text.startsWith (letter :: rest) "test." then .ok (g, none)
    else match flagLettered? flags letter with
      | none => .error (.unknownLetter letter (letter :: rest))
      | some f =>
        let finish (value : Text) : Except FlagError (Given × Option Pending) :=
          (g.set f value).map fun g => (g, none)
        if 2 ≤ rest.length && rest.head? == some '='.toUInt8 then finish (rest.drop 1)
        else if f.kind == .switch then readLetters flags (g.turnOn f) rest
        else if rest.isEmpty then .ok (g, some ⟨f, .letterValueMissing letter⟩)
        else finish rest

/-- Whether an argument is an operand wherever flags are looked for. -/
def isOperand (argument : Text) : Bool :=
  argument.head? != some '-'.toUInt8 || argument.length == 1

/-- Read arguments, after a flag that may wait for its value. -/
def readFrom (flags : List Flag) : Option Pending → Given → List Text → Except FlagError Given
  | none, g, [] => .ok g
  | some p, _, [] => .error p.error
  | some p, g, value :: rest =>
    match g.set p.flag value with
    | .error e => .error e
    | .ok g => readFrom flags none g rest
  | none, g, argument :: rest =>
    if isOperand argument then
      readFrom flags none { g with operands := g.operands ++ [argument] } rest
    else if argument == Text.ofString "--" then .ok { g with operands := g.operands ++ rest }
    else
      match argument.stripStart? "--" with
      | some body => match readNamed flags g body with
        | .error e => .error e
        | .ok (g, pending?) => readFrom flags pending? g rest
      | none => match readLetters flags g (argument.drop 1) with
        | .error e => .error e
        | .ok (g, pending?) => readFrom flags pending? g rest

/-- Read the arguments of a command that knows some flags. -/
def Given.read (flags : List Flag) (arguments : List Text) : Except FlagError Given :=
  readFrom flags none {} arguments

end Cli

end TemplateCompiler
