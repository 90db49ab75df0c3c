import TemplateCompiler.Json.Writer
import TemplateCompiler.Report.Paint
import TemplateCompiler.Text.Classes

/-!
# Build information

What a program says about itself: its version, and where and when it was built if that is known.
-/

namespace TemplateCompiler

namespace Cli

/-- What is known about the program itself: its version, and the commit that it was built from if
the build has recorded one. -/
structure BuildInfo where
  version : Text := "0.1.0-dev"
  commit : Text := []
  message : Text := []
  date : Text := []

/-- Which facts of a build are shown beside its version. -/
structure BuildFacts where
  commit : Bool := false
  message : Bool := false
  date : Bool := false

namespace BuildInfo

/-- A version cut before its first hyphen or plus sign. -/
def coreAndSuffix (version : Text) : Text × Text :=
  version.span fun b => b != '-'.toUInt8 && b != '+'.toUInt8

/-- The three numbers of a version; the third takes all that follows the second point. -/
def numbers? (core : Text) : Option (Text × Text × Text) := do
  let (major, rest) ← Text.cutAtByte? core '.'.toUInt8
  let (minor, patch) ← Text.cutAtByte? rest '.'.toUInt8
  return (major, minor, patch)

/-- The version with its numbers in color.  A version that has not three numbers is as it is. -/
def coloredVersion (b : BuildInfo) (color : Bool) : Text :=
  let (core, suffix) := coreAndSuffix b.version
  match numbers? core with
  | none => b.version
  | some (major, minor, patch) =>
    Report.Paint.apply color [.yellow, .bold] major ++ "."
      ++ Report.Paint.apply color [.green, .bold] minor ++ "."
      ++ Report.Paint.apply color [.blue, .bold] patch ++ suffix

/-- The version and every fact that is known. -/
def full (b : BuildInfo) (color : Bool) : Text :=
  "quill " ++ b.coloredVersion color ++ "\n"
    ++ Text.when (!b.commit.isEmpty) ("commit: " ++ b.commit ++ "\n")
    ++ Text.when (!b.message.isEmpty) ("message: " ++ b.message ++ "\n")
    ++ Text.when (!b.date.isEmpty) ("built: " ++ b.date ++ "\n")

/-- A fact, or that it is not known. -/
def orUnknown (fact : Text) : Text :=
  let fact := fact.trimBlank
  if fact.isEmpty then "unknown" else fact

/-- The version and the facts that are asked for. -/
def pretty (b : BuildInfo) (facts : BuildFacts) (color : Bool) : Text :=
  "quill " ++ b.coloredVersion color ++ "\n"
    ++ Text.when facts.commit ("commit:  " ++ orUnknown b.commit ++ "\n")
    ++ Text.when facts.message ("message: " ++ orUnknown b.message ++ "\n")
    ++ Text.when facts.date ("built:   " ++ orUnknown b.date ++ "\n")

/-- The version and the facts that are asked for, as a JSON document. -/
def json (b : BuildInfo) (facts : BuildFacts) : Text :=
  let fact (shown : Bool) (key : String) (value : Text) : List (String × Json) :=
    if shown then [(key, .string (orUnknown value))] else []
  (Json.record ([("tool", .string "quill"), ("version", .string (orUnknown b.version))]
    ++ fact facts.commit "git_commit" b.commit ++ fact facts.message "git_message" b.message
    ++ fact facts.date "build_date" b.date)).indented ++ "\n"

end BuildInfo

end Cli

end TemplateCompiler
