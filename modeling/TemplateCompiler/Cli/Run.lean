import TemplateCompiler.Cli.Inventory

/-!
# Whole runs

A run is a function of the command line and of the disk.  Its outcome is what it printed, whether it
failed and why, and the disk that it leaves.
-/

namespace TemplateCompiler

namespace Cli

open Job

def perform (command : Command) (r : Request) : Job Unit :=
  match command with
  | .compile => observed r.given (compile r)
  | .diag => observed r.given (diagnose r)
  | .tagHelpers => observed r.given (showHelpers r)
  | .version => observed r.given (showVersion r)
  | .overview =>
    if r.given.isOn .version then print ("quill version " ++ r.build.version ++ "\n")
    else print (command.description ++ "\n")
  | .help | .completion => print (command.description ++ "\n")

/-- Do what a command line asks for. -/
def follow (build : BuildInfo) (userCache? : Option Text) (arguments : List Text) : Job Unit := do
  let (command, rest) ← ofExcept .unknownCommand (Command.find arguments)
  let given ← ofExcept .arguments (Given.read command.flags rest)
  if given.isOn .help then print (command.description ++ "\n")
  else perform command { build, userCache?, arguments, given }

/-- What a run leaves behind. -/
structure Outcome where
  failure? : Option RunError
  output : Text
  errors : Text
  /-- What tracing printed beside the errors. -/
  aside : Text
  disk : Disk
  /-- The places of the files that hold measurements. -/
  measured : List Text

namespace Outcome

/-- The status of a run: zero if all went well. -/
def status (o : Outcome) : Nat := if o.failure?.isSome then 1 else 0

/-- The text about the failure, unless that has been printed. -/
def complaint? (o : Outcome) : Option Text :=
  (o.failure?.filter fun e => !e.isSilent).map RunError.message

/-- The files that a run wrote: those that were not there before or had another content, and those
that hold measurements. -/
def changes (o : Outcome) (before : Disk) : List (Text × Text) :=
  o.disk.files.filter fun e => o.measured.contains e.1 || before.entryAt? e.1 != some (.file e.2)

end Outcome

def run (disk : Disk) (arguments : List Text) (userCache? : Option Text := none)
    (build : BuildInfo := {}) : Outcome :=
  let (result, c) := (follow build userCache? arguments).run.run { disk }
  { failure? := match result with
      | .ok _ => none
      | .error e => some e
    output := c.output
    errors := c.errors
    aside := c.aside
    disk := c.disk
    measured := c.measured.map disk.absolute }

end Cli

end TemplateCompiler
