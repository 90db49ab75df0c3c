import TemplateCompiler.Cli.Run

/-!
# The program

The program reads the files that a command line can be about, runs the command line on them, and
writes what the run has changed.
-/

namespace TemplateCompiler

namespace Cli

/-- The name of a path for the operating system. -/
def fileName (path : Text) : String := (String.fromUTF8? path.toByteArray).getD ""

/-- The content of a file; one that cannot be read is taken for empty. -/
def readContent (path : Text) : IO Text := do
  try return (← IO.FS.readBinFile (fileName path)).toList catch _ => return []

/-- A disk with what stands at a place of the machine, and with all that is below it. -/
def loadPlace (disk : Disk) (place : Text) : IO Disk := do
  let path := (← IO.currentDir) / fileName place
  if ← path.isDir then
    (← path.walkDir).foldlM (fun disk p => do
      let found := Text.ofString p.toString
      if ← p.isDir then return { disk with directories := disk.directories ++ [found] }
      else return disk.put found (← readContent found))
      { disk with directories := disk.directories ++ [place] }
  else if ← path.pathExists then return disk.put place (← readContent place)
  else return disk

/-- The directory that a path needs: that of the project around it, or else the path itself. -/
def projectPlace (place : Text) : IO Text := do
  let here ← IO.currentDir
  let exists_ ← (here / fileName place).pathExists
  let start := if ← (here / fileName place).isDir then place else Path.dir place
  for directory in ProjectConfig.upwards start do
    if ← (here / fileName (Path.join [directory, ProjectConfig.fileName])).pathExists then
      return directory
  return if exists_ then start else place

/-- The part of the machine that a command line can be about. -/
def loadDisk (here : Text) (arguments : List Text) (userCache? : Option Text) : IO Disk := do
  let operands := (arguments.filter isOperand).map (Path.absolute here)
  let places ← (here :: operands).mapM projectPlace
  let records := userCache?.toList.map fun base => Path.join [base, "quill"]
  (places ++ records).eraseDups.foldlM loadPlace { workingDirectory := here }

/-- Write what a run has changed. -/
def storeChanges (o : Outcome) (before : Disk) : IO Unit := do
  for directory in o.disk.directories do
    if !before.isDirectoryAt directory then IO.FS.createDirAll (fileName directory)
  for (place, content) in o.changes before do
    IO.FS.createDirAll (fileName (Path.dir place))
    IO.FS.writeBinFile (fileName place) content.toByteArray

/-- The directory in which programs keep what they can do without. -/
def findUserCache : IO (Option Text) := do
  match ← IO.getEnv "XDG_CACHE_HOME" with
  | some base => if !base.isEmpty then return some (Text.ofString base)
  | none => pure ()
  return (← IO.getEnv "HOME").map fun home => Path.join [home, ".cache"]

end Cli

end TemplateCompiler

open TemplateCompiler in
/-- Run the command line. -/
def main (arguments : List String) : IO UInt32 := do
  let arguments := arguments.map Text.ofString
  let here := Text.ofString (← IO.currentDir).toString
  let userCache? ← Cli.findUserCache
  let disk ← Cli.loadDisk here arguments userCache?
  let outcome := Cli.run disk arguments userCache?
  Cli.storeChanges outcome disk
  (← IO.getStdout).write outcome.output.toByteArray
  let complaint := (outcome.complaint?.map fun t => "quill: " ++ t ++ Text.ofString "\n").getD []
  (← IO.getStderr).write (outcome.aside ++ outcome.errors ++ complaint).toByteArray
  return outcome.status.toUInt32
