import TemplateCompiler.Cli.Console

/-!
# Colors, traces and profiles

What every command does around its work: it decides about colors, opens the trace and the profiles
that are asked for, and writes them at the end.
-/

namespace TemplateCompiler

namespace Cli

open Job

/-- Whether a choice of color is for colors.  Left to the program there are none, since its output is
not a terminal. -/
def colorChoice? (value : Text) : Option Bool :=
  let value := value.toLower
  if value == "on" then some true
  else if value == "off" || value == "auto" || value.isEmpty then some false
  else none

def setColor (g : Given) : Job Unit := do
  let color ← choose .color (g.text .color) "auto|on|off" (colorChoice? (g.text .color))
  modify fun c => { c with color }

/-! ## Traces -/

/-- Open the trace.  A file for it turns tracing on, and keeps the events of a ring too. -/
def startTrace (g : Given) : Job Unit := do
  let path := g.text .trace
  let level ← ofExcept .traceSetting (Trace.Level.read (g.text .traceLevel))
  let level := if level == .off && !path.isEmpty then Trace.Level.phase else level
  if level != .off then
    let mode ← ofExcept .traceSetting (Trace.Mode.read (g.text .traceMode))
    let mode := if mode == .ring && !path.isEmpty then Trace.Mode.both else mode
    let format ← ofExcept .traceSetting (Trace.Format.read (g.text .traceFormat))
    if mode != .ring && !path.isEmpty && path != Text.ofString "-" then
      onDisk .traceOutput fun d => d.write path []
      modify fun c => { c with traceFile? := some path }
    modify fun c =>
      { c with tracer := .ofMode mode level format (g.integer .traceCapacity) path }

/-- Close the trace and write it where it belongs. -/
def endTrace (c : Console) : Console :=
  let tracer := c.tracer.close
  match tracer.stream? with
  | none => { c with tracer := .none }
  | some stream => match c.traceFile? with
    | none => { c with tracer := .none, aside := c.aside ++ stream.text }
    | some path =>
      { c with
        tracer := .none
        traceFile? := none
        disk := (c.disk.write path stream.text).toOption.getD c.disk
        measured := if stream.count == 0 then c.measured else c.measured ++ [path] }

/-- Print the newest events of the trace after an error. -/
def dumpTrace (c : Console) : Console :=
  if c.tracer.level == .off then c
  else
    { c with aside := c.aside ++ "--- trace ring (error) ---\n"
      ++ (c.tracer.dump? .text).getD "no trace ring; use --trace-mode ring or both\n" }

/-! ## Profiles -/

/-- Begin a profile, if a file is given for it. -/
def startProfile (kind path : Text) : Job Unit := do
  if !path.isEmpty then
    onDisk (.profile kind) fun d => d.write path []
    modify fun c => { c with measured := c.measured ++ [path] }

/-- Begin the profiles that run along with the command. -/
def startProfiles (g : Given) : Job Unit := do
  startProfile "cpu profile" (g.text .processorProfile)
  startProfile "runtime trace" (g.text .runtimeTrace)

/-- Write the profile of the memory.  A failure is only told. -/
def endProfiles (g : Given) (c : Console) : Console :=
  let path := g.text .memoryProfile
  if path.isEmpty then c
  else match c.disk.write path [] with
    | .ok disk => { c with disk, measured := c.measured ++ [path] }
    | .error failure =>
      { c with errors := c.errors ++ "profile: "
        ++ (RunError.profile "heap profile" failure).message ++ "\n" }

/-- A command with all that goes on around it. -/
def observed (g : Given) (command : Job Unit) : Job Unit := do
  setColor g
  startTrace g
  thenAlways (do startProfiles g; thenAlways command (endProfiles g)) endTrace

end Cli

end TemplateCompiler
