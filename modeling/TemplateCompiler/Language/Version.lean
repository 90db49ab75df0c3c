import TemplateCompiler.Text.Case
import TemplateCompiler.Text.Quoted

/-!
# Language versions

Versions of the template language are ordered; a later version allows more.  A version is a number
so that configurations can carry values that no release has; such values are refused when parser
options are checked.
-/

namespace TemplateCompiler

/-- A version of the template language, by its place in the order of releases. -/
structure LanguageVersion where
  ordinal : UInt8
  deriving DecidableEq, Repr, Inhabited

namespace LanguageVersion

/-- The names of the versions, the first release first; their ordinals start at one. -/
def names : List String :=
  ["1.0", "1.1", "2.0", "2.1", "3.0", "5.0", "6.0", "7.0", "8.0", "latest", "experimental"]

def v2_1 : LanguageVersion := ⟨4⟩

def v3_0 : LanguageVersion := ⟨5⟩

def v5_0 : LanguageVersion := ⟨6⟩

def v6_0 : LanguageVersion := ⟨7⟩

def latest : LanguageVersion := ⟨10⟩

def isValid (v : LanguageVersion) : Bool := 1 ≤ v.ordinal && v.ordinal ≤ 11

def atLeast (v least : LanguageVersion) : Bool := least.ordinal ≤ v.ordinal

def name (v : LanguageVersion) : Text :=
  match if v.ordinal == 0 then none else names[v.ordinal.toNat - 1]? with
  | some n => n
  | none => "Version(" ++ Text.ofNat v.ordinal.toNat ++ ")"

/-- Why a text names no version. -/
inductive ReadError where
  | empty
  | unknown (name : Text)
  deriving DecidableEq, Repr

def ReadError.message : ReadError → Text
  | .empty => "empty language version"
  | .unknown name => "unknown language version " ++ name.quoted

/-- Read a version name.  Blanks around it, letter case, a leading `v` and a missing minor number do
not matter. -/
def read (t : Text) : Except ReadError LanguageVersion :=
  let t := (t.trimBlank.toLower).dropStart "v"
  if t.isEmpty then .error .empty
  else
    let full : Text :=
      if t.contains '.'.toUInt8 || t == "latest" || t == "experimental" then t else t ++ ".0"
    match names.findIdx? fun n => Text.ofString n == full with
    | some i => .ok ⟨(i + 1).toUInt8⟩
    | none => .error (.unknown full)

end LanguageVersion

/-- What a language version allows.  Reading and binding look at these and not at the version, so
that only one place says what a version means. -/
structure LanguageFeatures where
  minimizedBooleanAttributes : Bool
  commentsInTagHelpers : Bool
  componentFiles : Bool
  conditionalDataAttributes : Bool
  codeInAttributeArea : Bool
  nullForgiving : Bool
  deriving DecidableEq, Repr

def LanguageVersion.features (v : LanguageVersion) : LanguageFeatures where
  minimizedBooleanAttributes := v.atLeast v2_1
  commentsInTagHelpers := v.atLeast v2_1
  componentFiles := v.atLeast v3_0
  conditionalDataAttributes := v.atLeast v3_0
  codeInAttributeArea := v.atLeast v5_0
  nullForgiving := v.atLeast v6_0

end TemplateCompiler
