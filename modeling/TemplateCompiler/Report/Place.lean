import TemplateCompiler.Diagnostic.Basic
import TemplateCompiler.Source.File
import TemplateCompiler.Text.Case
import TemplateCompiler.Text.Quoted

/-!
# Where a report says a diagnostic is

A report names files by their paths.  How much of a path is shown is a matter of style.  A
diagnostic whose file is not among the files of the report is shown without a place.
-/

namespace TemplateCompiler

namespace Report

/-- How the path of a file is shown. -/
inductive PathStyle where
  /-- The path inside the project if it is known, and only the name of files that lie deep. -/
  | automatic
  | absolute
  | relative
  | baseName
  deriving DecidableEq, Repr, Inhabited

namespace PathStyle

/-- A name that no style has. -/
structure ReadError where
  given : Text
  deriving DecidableEq, Repr

def ReadError.message (e : ReadError) : Text :=
  "invalid path mode: " ++ e.given.quoted ++ " (expected: auto|absolute|relative|basename)"

/-- The style of a name, without regard to case. -/
def read (name : Text) : Except ReadError PathStyle :=
  let lower := name.toLower
  if lower.isEmpty || lower == "auto" then .ok automatic
  else if lower == "absolute" then .ok absolute
  else if lower == "relative" then .ok relative
  else if lower == "basename" then .ok baseName
  else .error ⟨name⟩

end PathStyle

/-- How a report shows paths: the style that was asked for, and the directories that the relative
styles need. -/
structure PathDisplay where
  style : PathStyle := .automatic
  /-- What relative paths are relative to; empty if unknown. -/
  baseDirectory : Text := []
  workingDirectory : Text := "/"

namespace PathDisplay

/-- The number of slashes up to which an absolute path is shown whole. -/
def deepest : Nat := 4

/-- The path inside the project, without its leading slash. -/
def projectPath (f : SourceFile) : Text := f.relative.dropStart "/"

/-- The path of a file as it is shown.  The automatic style prefers the path inside of the project,
and shortens paths that lie deep to the name of their file. -/
def path (d : PathDisplay) (f : SourceFile) : Text :=
  let inProject := if f.relative.isEmpty then f.path else projectPath f
  match d.style with
  | .absolute =>
    if f.flags.has .inMemory then f.path
    else if d.baseDirectory.isEmpty then Path.absolute d.workingDirectory f.path
    else Path.absolute d.workingDirectory (Path.absolute d.baseDirectory f.path)
  | .relative =>
    if d.baseDirectory.isEmpty then inProject
    else match Path.relativeTo? d.baseDirectory f.path with
      | some p => if p.startsWith ".." then inProject else p
      | none => inProject
  | .baseName => Path.base f.path
  | .automatic =>
    if f.relative.isEmpty && Path.isRooted f.path && deepest < f.path.count Path.separator then
      Path.base f.path
    else inProject

end PathDisplay

/-- The file of a diagnostic, if it has a place in one of the files. -/
def fileOf? (files : FileSet) (d : Diagnostic) : Option (SourceFile × Span) := do
  let span ← d.span?
  let file ← files.get? span.file
  return (file, span)

/-- A place as path, line and column. -/
def place (display : PathDisplay) (f : SourceFile) (offset : Nat) : Text :=
  let p := f.position offset
  display.path f ++ ":" ++ Text.ofNat p.line.toNat ++ ":" ++ Text.ofNat p.column.toNat

/-! ## One line for each diagnostic -/

def shortLine (files : FileSet) (display : PathDisplay) (d : Diagnostic) : Text :=
  let start := match fileOf? files d with
    | some (f, span) => place display f span.start ++ ": "
    | none => []
  start ++ d.severity.name ++ " " ++ d.code.id ++ ": " ++ d.message ++ "\n"

/-- One line for each diagnostic, in a form that editors read. -/
def short (files : FileSet) (display : PathDisplay) (items : List Diagnostic) : Text :=
  items.flatMap (shortLine files display)

/-- A number with the word for what is counted. -/
def counted (n : Nat) (word : Text) : Text :=
  if n == 1 then "1 " ++ word else Text.ofNat n ++ " " ++ word ++ "s"

/-- The numbers of errors and warnings; nothing if there are none. -/
def summary (items : List Diagnostic) : Text :=
  let errors := items.countP fun d => d.severity == .error
  let warnings := items.countP fun d => d.severity == .warning
  if errors == 0 && warnings == 0 then []
  else counted errors "error" ++ ", " ++ counted warnings "warning" ++ "\n"

end Report

end TemplateCompiler
