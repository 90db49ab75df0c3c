import TemplateCompiler.Cli.Flag
import TemplateCompiler.Text.Case
import TemplateCompiler.Text.EditDistance

/-!
# Commands

The first operand of a command line names a command, wherever it stands among the flags.  Some flags
belong to every command and some to one.  A word that names no command is an error, with the names
that it comes close to.
-/

namespace TemplateCompiler

namespace Cli

/-! ## Flags -/

namespace Flag

/-- A switch, off unless it is given. -/
def switch (name : Text) (letter? : Option UInt8 := none) : Flag := ⟨name, .switch, "false", letter?⟩

def color : Flag := ⟨"color", .text, "auto", none⟩
def quiet : Flag := switch "quiet"
def timings : Flag := switch "timings"
def maxDiagnostics : Flag := ⟨"max-diagnostics", .integer, "100", none⟩
def config : Flag := ⟨"config", .text, [], none⟩
def languageVersion : Flag := ⟨"lang-version", .text, [], none⟩
def rootNamespace : Flag := ⟨"root-namespace", .text, [], none⟩
def designTime : Flag := switch "design-time"
def fileKind : Flag := ⟨"file-kind", .text, [], none⟩
def jobs : Flag := ⟨"jobs", .integer, "0", none⟩
def records : Flag := switch "cache"
def trace : Flag := ⟨"trace", .text, [], none⟩
def traceLevel : Flag := ⟨"trace-level", .text, "off", none⟩
def traceMode : Flag := ⟨"trace-mode", .text, "ring", none⟩
def traceFormat : Flag := ⟨"trace-format", .text, "auto", none⟩
def traceCapacity : Flag := ⟨"trace-ring-size", .integer, "4096", none⟩
def traceHeartbeat : Flag := ⟨"trace-heartbeat", .duration, "0s", none⟩
def processorProfile : Flag := ⟨"cpu-profile", .text, [], none⟩
def memoryProfile : Flag := ⟨"mem-profile", .text, [], none⟩
def runtimeTrace : Flag := ⟨"runtime-trace", .text, [], none⟩

def shared : List Flag :=
  [color, quiet, timings, maxDiagnostics, config, languageVersion, rootNamespace, designTime,
   fileKind, jobs, records, trace, traceLevel, traceMode, traceFormat, traceCapacity,
   traceHeartbeat, processorProfile, memoryProfile, runtimeTrace]

def reportFormat : Flag := ⟨"format", .text, "pretty", none⟩
def notes : Flag := switch "with-notes"
def fullPaths : Flag := switch "fullpath"
def context : Flag := ⟨"context", .integer, "0", none⟩
def noWarnings : Flag := switch "no-warnings"
def warningsAsErrors : Flag := switch "warnings-as-errors"

/-- The flags of the commands that report diagnostics. -/
def report : List Flag := [reportFormat, notes, fullPaths, context, noWarnings, warningsAsErrors]

def output : Flag := ⟨"out", .text, [], some 'o'.toUInt8⟩
def emitIR : Flag := switch "emit-ir"
def progress : Flag := ⟨"ui", .text, "auto", none⟩
def tableFormat : Flag := ⟨"format", .text, "table", none⟩
def commit : Flag := switch "hash"
def commitMessage : Flag := switch "message"
def buildDate : Flag := switch "date"
def allFacts : Flag := switch "full"
def version : Flag := switch "version" (some 'v'.toUInt8)
def help : Flag := switch "help" (some 'h'.toUInt8)

end Flag

/-! ## Commands -/

/-- What the program can be asked to do.  Each command but the overview has a name on the command
line, and knows its own flags beside those of every command. -/
inductive Command where
  /-- No command is named. -/
  | overview
  | compile
  | diag
  | tagHelpers
  | version
  | help
  | completion
  deriving DecidableEq, Repr

namespace Command

def named : List Command := [compile, diag, tagHelpers, version, help, completion]

def name : Command → Text
  | overview => "quill"
  | compile => "compile"
  | diag => "diag"
  | tagHelpers => "taghelpers"
  | version => "version"
  | help => "help"
  | completion => "completion"

def ofName? (name : Text) : Option Command := named.find? fun c => c.name == name

def ownFlags : Command → List Flag
  | overview => [.version]
  | compile => [.output, .emitIR, .progress] ++ Flag.report
  | diag => Flag.report
  | tagHelpers => [.tableFormat, .output]
  | version => [.commit, .commitMessage, .buildDate, .allFacts, .reportFormat]
  | help | completion => []

def flags (c : Command) : List Flag := c.ownFlags ++ [.help] ++ Flag.shared

def description : Command → Text
  | overview => "Quill compiles .quill views and .qcomp components into C# sources"
  | compile => "Compile templates into C# sources"
  | diag => "Report diagnostics without writing generated code"
  | tagHelpers => "Inspect tag helper manifests"
  | version => "Show quill build information"
  | help => "Help about any command"
  | completion => "Generate the autocompletion script for the specified shell"

/-- The greatest edit distance at which a name is still suggested. -/
def closeness : Nat := 2

/-- Whether a word comes close to the name of a command, without regard to case: it differs by a few
edits, or the name starts with it. -/
def isCloseTo (c : Command) (word : Text) : Bool :=
  Text.editDistance word.toLower c.name ≤ closeness || c.name.startsWith word.toLower

/-- The commands that a word may mean. -/
def suggestions (word : Text) : List Command := named.filter (isCloseTo · word)

/-- The text about a word that names no command. -/
def unknownMessage (word : Text) : Text :=
  let close := suggestions word
  let line (c : Command) : Text := "\t" ++ c.name ++ "\n"
  "unknown command " ++ word.quoted ++ " for " ++ overview.name.quoted
    ++ Text.when (!close.isEmpty)
      ("\n\nDid you mean this?\n" ++ close.flatMap line)

/-! ## Finding the command -/

/-- Whether an argument is a flag whose value is the next argument, as far as that can be told
before the command is known: flags that are not known count as such. -/
def takesNext (flags : List Flag) (argument : Text) : Bool :=
  let isSwitch (f? : Option Flag) : Bool := f?.any fun f => f.kind == .switch
  let named := argument.startsWith "--" && !isSwitch (flagNamed? flags (argument.drop 2))
  let lettered := argument.startsWith "-" && argument.length == 2
    && !isSwitch (argument[1]?.bind (flagLettered? flags))
  !argument.contains '='.toUInt8 && (named || lettered)

/-- The operands among arguments.  A flag that takes the next argument ends them unless at least two
arguments follow. -/
def operandsOf (flags : List Flag) : List Text → List Text
  | [] => []
  | argument :: rest =>
    if argument == Text.ofString "--" then []
    else if takesNext flags argument then
      match rest with
      | _ :: next :: more => operandsOf flags (next :: more)
      | _ => []
    else if argument.isEmpty || argument.startsWith "-" then operandsOf flags rest
    else argument :: operandsOf flags rest

/-- Arguments without the first operand that is a given word. -/
def without (flags : List Flag) (word : Text) : List Text → List Text
  | [] => []
  | argument :: rest =>
    if argument == Text.ofString "--" then argument :: rest
    else if takesNext flags argument then
      match rest with
      | [] => [argument]
      | value :: more => argument :: value :: without flags word more
    else if argument == word && !argument.startsWith "-" then rest
    else argument :: without flags word rest

/-- The command of a command line and the arguments that are left for it; an error is the word that
names no command. -/
def find (arguments : List Text) : Except Text (Command × List Text) :=
  match (operandsOf Flag.shared arguments).head? with
  | none => .ok (overview, arguments)
  | some word => match ofName? word with
    | some c => .ok (c, without Flag.shared word arguments)
    | none => .error word

end Command

end Cli

end TemplateCompiler
