import TemplateCompiler.Cli.Compilation
import TemplateCompiler.TagHelper.Table

/-!
# The commands that inspect

`taghelpers` shows the tag helpers of manifests, and `version` what is known about the program.
-/

namespace TemplateCompiler

namespace Cli

open Job

/-! ## Tag helpers -/

/-- How tag helpers are shown. -/
inductive HelperFormat where
  | table
  | json
  | packed
  deriving DecidableEq, Repr

namespace HelperFormat

def ofName? (name : Text) : Option HelperFormat :=
  if name == "table" then some table
  else if name == "json" then some json
  else if name == "msgpack" then some packed
  else none

def write (f : HelperFormat) (s : TagHelperSet) : Text :=
  match f with
  | table => s.table
  | json => TagHelper.Manifest.writeJson s
  | packed => TagHelper.Manifest.writePacked s

end HelperFormat

/-- Read the manifests one after another with one pool; the sets are united in order. -/
def readManifests (disk : Disk) (pool : TagHelper.Pool) (helpers : TagHelperSet) :
    List Text → Except RunError TagHelperSet
  | [] => .ok helpers
  | path :: paths =>
    match disk.read path with
    | .error failure =>
      .error (if failure.cause == .isDirectory then .manifestBroken path failure
        else .manifestClosed failure)
    | .ok text =>
      match TagHelper.Manifest.readJson text pool with
      | (_, .error cause) => .error (.manifest path cause)
      | (pool, .ok set) => readManifests disk pool (helpers.union set) paths

/-- The manifests that are asked for: the operands, or those of the project. -/
def manifestPaths (g : Given) : Job (List Text) := do
  if !g.operands.isEmpty then return g.operands
  let config ← loadConfig g []
  if config.manifestPlaces.isEmpty then throw (.noManifests config.path)
  return config.manifestPlaces

/-- Show the tag helpers of manifests. -/
def showHelpers (r : Request) : Job Unit := do
  let name := (r.given.text .tableFormat).toLower
  let format ← match HelperFormat.ofName? name with
    | some format => pure format
    | none => throw (.unsupportedFormat name "table, json or msgpack")
  let paths ← manifestPaths r.given
  let helpers ← ofExcept id (readManifests (← get).disk {} {} paths)
  let text := format.write helpers
  let path := r.given.text .output
  if path.isEmpty then print text else onDisk .disk fun d => d.write path text
  printError (Report.short .empty {} helpers.diagnostics)
  if Diagnostic.anyError helpers.diagnostics then throw .reported

/-! ## The program -/

/-- The facts of the build that are asked for. -/
def buildFacts (g : Given) : BuildFacts :=
  let asked (f : Flag) : Bool := g.isOn f || g.isOn .allFacts
  ⟨asked .commit, asked .commitMessage, asked .buildDate⟩

/-- Show what is known about the program. -/
def showVersion (r : Request) : Job Unit := do
  let name := r.given.text .reportFormat
  let color := (← get).color
  if name.toLower == Text.ofString "pretty" then
    print (if r.given.isOn .allFacts then r.build.full color
      else r.build.pretty (buildFacts r.given) color)
  else if name.toLower == Text.ofString "json" then print (r.build.json (buildFacts r.given))
  else throw (.unsupportedFormat name "pretty or json")

end Cli

end TemplateCompiler
