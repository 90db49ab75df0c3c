import TemplateCompiler.Source.FileTree

/-!
# Disks

The files and directories of a machine as a value, with the errors of its operating system.  A path
is followed step by step from the root or from the working directory: what every step starts from
has to be a directory.
-/

namespace TemplateCompiler

/-- The files and directories of a machine, by their absolute paths.  The directories around a file
or a directory are there too. -/
structure Disk where
  workingDirectory : Text := "/"
  files : List (Text × Text) := []
  directories : List Text := []

namespace Disk

/-- Why the operating system refuses an operation.  The causes are those that the program can meet
with names that it was given. -/
inductive Cause where
  | notFound
  | notDirectory
  | isDirectory
  | alreadyExists
  | invalidName
  deriving DecidableEq, Repr

def Cause.message : Cause → Text
  | notFound => "no such file or directory"
  | notDirectory => "not a directory"
  | isDirectory => "is a directory"
  | alreadyExists => "file exists"
  | invalidName => "invalid argument"

/-- An operation on a path that was refused. -/
structure Failure where
  operation : Text
  path : Text
  cause : Cause
  deriving DecidableEq, Repr

def Failure.message (f : Failure) : Text := f.operation ++ " " ++ f.path ++ ": " ++ f.cause.message

/-- What stands at a place. -/
inductive Entry where
  | file (content : Text)
  | directory
  deriving DecidableEq, Repr

/-- Whether an absolute path is that of a directory. -/
def isDirectoryAt (d : Disk) (place : Text) : Bool :=
  place == "/" || place == d.workingDirectory || d.directories.contains place
    || d.directories.any (fun p => p.startsWith (place ++ "/"))
    || d.files.any fun e => e.1.startsWith (place ++ "/")

/-- What stands at an absolute path. -/
def entryAt? (d : Disk) (place : Text) : Option Entry :=
  match d.files.find? fun e => e.1 == place with
  | some e => some (.file e.2)
  | none => if d.isDirectoryAt place then some .directory else none

def step (d : Disk) (place component : Text) : Except Cause Text :=
  match d.entryAt? place with
  | none => .error .notFound
  | some (.file _) => .error .notDirectory
  | some .directory =>
    .ok (if component == ".." then Path.dir place else Path.join [place, component])

/-- The place that a path leads to; nothing need stand there. -/
def locate (d : Disk) (path : Text) : Except Cause Text :=
  if path.isEmpty then .error .notFound
  else (Path.components path).foldlM d.step (if Path.isRooted path then "/" else d.workingDirectory)

def entry (d : Disk) (path : Text) : Except Cause Entry := do
  match d.entryAt? (← d.locate path) with
  | some e => return e
  | none => throw .notFound

/-- The absolute form of a path, whether or not it leads anywhere. -/
def absolute (d : Disk) (path : Text) : Text := Path.absolute d.workingDirectory path

/-! ## Reading -/

/-- The content of a file, with failures under the name the caller uses. -/
def readAs (d : Disk) (name path : Text) : Except Failure Text :=
  match d.entry path with
  | .ok (.file content) => .ok content
  | .ok .directory => .error ⟨"read", name, .isDirectory⟩
  | .error cause => .error ⟨"open", name, cause⟩

def read (d : Disk) (path : Text) : Except Failure Text := d.readAs path path

/-- A failure as a reader of a project sees it. -/
def Failure.toReadFailure (f : Failure) : ReadFailure :=
  ⟨f.cause == .notFound, f.cause == .isDirectory, f.message⟩

/-- The files below a place, by their paths from there. -/
def filesBelow (d : Disk) (place : Text) : List Text :=
  d.files.filterMap fun e => e.1.stripStart? (if place == "/" then place else place ++ "/")

/-- A directory as the source of a project.  Names lead down from it. -/
def source (d : Disk) (root : Text) : FileSource :=
  let path (name : Text) : Text := root ++ "/" ++ name
  let refuse (operation name : Text) : Except ReadFailure Text :=
    .error (Failure.toReadFailure ⟨operation, name, .invalidName⟩)
  let answer (r : Except Failure Text) : Except ReadFailure Text :=
    match r with
    | .ok content => .ok content
    | .error f => .error f.toReadFailure
  { read := fun name =>
      if FileTree.isValidName name then answer (d.readAs name (path name))
      else refuse "readfile" name
    readStream := fun name =>
      if FileTree.isValidName name then
        match d.entry (path name) with
        | .ok _ => answer (d.read (path name))
        | .error cause => answer (.error ⟨"open", name, cause⟩)
      else refuse "open" name
    isDirectory? := fun name =>
      if !FileTree.isValidName name then none
      else match d.entry (path name) with
        | .ok (.file _) => some false
        | .ok .directory => some true
        | .error _ => none
    filesBelow := fun name =>
      match d.locate (path name) with
      | .ok place => (d.filesBelow place).map fun f => Path.join [name, f]
      | .error _ => [] }

/-! ## Writing -/

/-- The disk with a file at an absolute path. -/
def put (d : Disk) (place content : Text) : Disk :=
  if d.files.any fun e => e.1 == place then
    { d with files := d.files.map fun e => if e.1 == place then (place, content) else e }
  else { d with files := d.files ++ [(place, content)] }

/-- Write a file, in place of an older one. -/
def write (d : Disk) (path content : Text) : Except Failure Disk :=
  let refuse (cause : Cause) : Except Failure Disk := .error ⟨"open", path, cause⟩
  if path.endsWith "/" then refuse .isDirectory
  else match d.locate path with
    | .error cause => refuse cause
    | .ok place => match d.entryAt? place with
      | some .directory => refuse .isDirectory
      | _ => .ok (d.put place content)

def makeDirectory (d : Disk) (path : Text) : Except Failure Disk :=
  let refuse (cause : Cause) : Except Failure Disk := .error ⟨"mkdir", path, cause⟩
  match d.locate (Text.dropEndWhile path (· == Path.separator)) with
  | .error cause => refuse cause
  | .ok place => match d.entryAt? place with
    | some _ => refuse .alreadyExists
    | none => .ok { d with directories := d.directories ++ [place] }

/-- Make a directory and those around it.  `fuel` bounds how many there are. -/
def makeDirectoriesWithin (d : Disk) : Nat → Text → Except Failure Disk
  | 0, _ => .ok d
  | fuel + 1, path =>
    match d.entry path with
    | .ok .directory => .ok d
    | .ok (.file _) => .error ⟨"mkdir", path, .notDirectory⟩
    | .error _ => do
      let outer := (Path.directoryPart (Text.dropEndWhile path (· == Path.separator))).dropLast
      let d ← if outer.isEmpty then pure d else d.makeDirectoriesWithin fuel outer
      d.makeDirectory path

/-- Make a directory and those around it. -/
def makeDirectories (d : Disk) (path : Text) : Except Failure Disk :=
  d.makeDirectoriesWithin (path.length + 1) path

end Disk

end TemplateCompiler
