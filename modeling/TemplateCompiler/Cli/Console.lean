import TemplateCompiler.Cli.BuildInfo
import TemplateCompiler.Cli.Command
import TemplateCompiler.Session.Basic

/-!
# Running a command

A command works on a console: the disk it finds and changes, and the texts it prints.  A job
that fails leaves on the console what it had done until then.
-/

namespace TemplateCompiler

namespace Cli

/-- Why a run fails.  Where findings are the reason they have been printed before, and only other
errors have a message of their own. -/
inductive RunError where
  /-- Errors were found and have been printed. -/
  | reported
  | arguments (cause : FlagError)
  | unknownCommand (word : Text)
  /-- A flag has not one of the values it can have. -/
  | badChoice (flag : Flag) (value choices : Text)
  | traceSetting (cause : Trace.SettingError)
  | traceOutput (cause : Disk.Failure)
  | profile (kind : Text) (cause : Disk.Failure)
  | unknownFormat (name : Text)
  | unsupportedFormat (name choices : Text)
  | warningConflict
  | config (cause : ProjectConfig.LoadError)
  | session (cause : SessionError)
  | disk (cause : Disk.Failure)
  /-- The directory of the user is not known. -/
  | noHome
  /-- There are no manifests, in a configuration of which the path is given. -/
  | noManifests (path : Text)
  | manifestClosed (cause : Disk.Failure)
  | manifestBroken (path : Text) (cause : Disk.Failure)
  | manifest (path : Text) (cause : TagHelper.Manifest.ReadError)

/-- The text of an error.  Errors that have been printed have none. -/
def RunError.message : RunError → Text
  | reported => []
  | arguments cause => cause.message
  | unknownCommand word => Command.unknownMessage word
  | badChoice flag value choices =>
    "invalid --" ++ flag.name ++ " value " ++ value.quoted ++ " (expected " ++ choices ++ ")"
  | traceSetting cause => cause.message
  | traceOutput cause => "failed to create tracer: open trace output: " ++ cause.message
  | profile kind cause => kind ++ ": " ++ cause.message
  | unknownFormat name => "unknown format: " ++ name
  | unsupportedFormat name choices =>
    "unsupported format " ++ name.quoted ++ " (must be " ++ choices ++ ")"
  | warningConflict => "no-warnings and warnings-as-errors flags cannot be used together"
  | config cause => cause.message
  | session cause => cause.message
  | disk cause => cause.message
  | noHome => "$HOME is not defined"
  | noManifests path =>
    "no manifests given and none configured in "
      ++ (if path.isEmpty then Text.ofString "the default configuration" else path)
  | manifestClosed cause => "tag helper manifest: " ++ cause.message
  | manifestBroken path cause => path ++ ": tag helper manifest: " ++ cause.message
  | manifest path cause => path ++ ": " ++ cause.message

/-- Whether an error still has to be told. -/
def RunError.isSilent : RunError → Bool
  | reported => true
  | _ => false

/-- What is asked of a run: the command line and how it was understood, with the facts about program
and user that a command cannot find out for itself. -/
structure Request where
  build : BuildInfo := {}
  /-- The directory in which programs keep what they can do without; unknown for some users. -/
  userCache? : Option Text := none
  /-- The whole command line. -/
  arguments : List Text := []
  /-- What the arguments of the command say. -/
  given : Given := {}

/-- What a command works on: the disk, what has been printed so far, and the tracer that was asked
for.  Commands change it and cannot reach anything else. -/
structure Console where
  disk : Disk
  output : Text := []
  errors : Text := []
  /-- What tracing prints beside the errors. -/
  aside : Text := []
  color : Bool := false
  tracer : Trace.Tracer := .none
  /-- The file that the trace goes to. -/
  traceFile? : Option Text := none
  /-- The files that hold measurements, so that no two runs leave the same. -/
  measured : List Text := []

/-- Work on a console. -/
abbrev Job := ExceptT RunError (StateM Console)

namespace Job

/-- Fail with a cause, or go on with a value. -/
def ofExcept {ε α : Type} (wrap : ε → RunError) : Except ε α → Job α
  | .ok a => pure a
  | .error e => throw (wrap e)

def print (t : Text) : Job Unit := modify fun c => { c with output := c.output ++ t }

def printError (t : Text) : Job Unit := modify fun c => { c with errors := c.errors ++ t }

def onDisk (wrap : Disk.Failure → RunError) (change : Disk → Except Disk.Failure Disk) :
    Job Unit := do
  let disk ← ofExcept wrap (change (← get).disk)
  modify fun c => { c with disk }

/-- A job that always ends by a change of the console. -/
def thenAlways {α : Type} (job : Job α) (last : Console → Console) : Job α :=
  ExceptT.mk fun c =>
    let (result, c) := job.run.run c
    (result, last c)

/-- A job of which a failure changes the console. -/
def onFailure {α : Type} (job : Job α) (last : Console → Console) : Job α :=
  ExceptT.mk fun c =>
    match job.run.run c with
    | (.ok a, c) => (.ok a, c)
    | (.error e, c) => (.error e, last c)

end Job

/-- One of the values that a flag can have. -/
def choose {α : Type} (flag : Flag) (value choices : Text) : Option α → Job α
  | some a => pure a
  | none => throw (.badChoice flag value choices)

end Cli

end TemplateCompiler
