import TemplateCompiler.Source.File
import TemplateCompiler.Text.Characters

/-!
# File trees

The files of a project as a value: names with contents.  Directories are implied by the names.
A name is valid if it is well-formed, relative and clean: no empty, current-directory or
parent-directory components.  The tree's own root is named `.`.

A session reads its project through three questions: what a file holds, whether a name is that of a
directory, and which files lie below a directory.  The answers come from a file tree or from a
directory of a disk; nothing else is assumed of them.
-/

namespace TemplateCompiler

/-- The files of a project by their names.  There are no directories but those that the names of
files imply. -/
structure FileTree where
  entries : List (Text × Text) := []

namespace FileTree

instance : Inhabited FileTree := ⟨{}⟩

/-- Why a file cannot be read. -/
inductive ReadError where
  | notFound (name : Text)
  | isDirectory (name : Text)
  deriving DecidableEq, Repr

def ReadError.message : ReadError → Text
  | .notFound name => "open " ++ name ++ ": file does not exist"
  | .isDirectory name => "read " ++ name ++ ": invalid argument"

/-- Whether a name can name something in a tree. -/
def isValidName (name : Text) : Bool :=
  name.isWellFormed && (name == "." ||
    (Path.components name).all fun c => !c.isEmpty && c != "." && c != "..")

def isDirectory (tree : FileTree) (name : Text) : Bool :=
  name == "." || tree.entries.any fun e => e.1.startsWith (name ++ "/")

def read (tree : FileTree) (name : Text) : Except ReadError Text :=
  if !isValidName name then .error (.notFound name)
  else match tree.entries.find? fun e => e.1 == name with
    | some e => .ok e.2
    | none => if tree.isDirectory name then .error (.isDirectory name) else .error (.notFound name)

def write (tree : FileTree) (name content : Text) : FileTree :=
  if tree.entries.any fun e => e.1 == name then
    ⟨tree.entries.map fun e => if e.1 == name then (name, content) else e⟩
  else ⟨tree.entries ++ [(name, content)]⟩

def remove (tree : FileTree) (name : Text) : FileTree :=
  ⟨tree.entries.filter fun e => e.1 != name⟩

end FileTree

/-- A file of a tree added to a set under its own name. -/
def FileSet.load (s : FileSet) (tree : FileTree) (name : Text) :
    Except FileTree.ReadError (FileSet × Nat) :=
  (tree.read name).map fun content => s.addRelative name name content .none

/-! ## Where projects are read from -/

/-- Why a file cannot be read, as far as the difference matters: a file that is not there is passed
over where another one would be an error. -/
structure ReadFailure where
  /-- There is no such file. -/
  isMissing : Bool
  /-- The file could be opened, and then not be read. -/
  wasOpened : Bool
  message : Text

/-- What a project is read from.  The functions stand for the operating system, or for a tree of
files that is given in their place. -/
structure FileSource where
  /-- The content of a file. -/
  read : Text → Except ReadFailure Text
  /-- Open a file and read it piece by piece; its failures may be worded differently. -/
  readStream : Text → Except ReadFailure Text
  /-- Whether a name is that of a directory; nothing if it names nothing. -/
  isDirectory? : Text → Option Bool
  /-- The names of the files below a directory. -/
  filesBelow : Text → List Text

namespace FileTree

def ReadError.failure (e : ReadError) : ReadFailure :=
  match e with
  | .notFound _ => ⟨true, false, e.message⟩
  | .isDirectory _ => ⟨false, true, e.message⟩

/-- Whether a name can be reached: nothing on its way is a file. -/
def isReachable (tree : FileTree) (name : Text) : Bool :=
  !tree.entries.any fun e => name.startsWith (e.1 ++ "/")

/-- The names of the files below a directory. -/
def filesBelow (tree : FileTree) (directory : Text) : List Text :=
  let names := tree.entries.map Prod.fst
  let below := if directory == "." then names
    else names.filter fun (n : Text) => n.startsWith (directory ++ "/")
  below.filter tree.isReachable

/-- Whether a name is that of a directory; nothing if it names nothing. -/
def isDirectory? (tree : FileTree) (name : Text) : Option Bool :=
  match tree.read name with
  | .ok _ => some false
  | .error (.isDirectory _) => some true
  | .error (.notFound _) => none

/-- A file tree as the source of a project. -/
def source (tree : FileTree) : FileSource :=
  let read (name : Text) : Except ReadFailure Text :=
    match tree.read name with
    | .ok content => .ok content
    | .error e => .error e.failure
  ⟨read, read, tree.isDirectory?, tree.filesBelow⟩

end FileTree

end TemplateCompiler
