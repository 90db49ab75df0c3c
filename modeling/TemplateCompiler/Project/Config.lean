import TemplateCompiler.Pipeline.Engine
import TemplateCompiler.Source.Disk
import TemplateCompiler.Toml.Document

/-!
# Project configuration

A project is configured by the file `quill.toml` at its root.  Keys that are missing keep their
defaults; a key that the file has and the project does not know is an error of the file.  Keys and
table names are compared without regard to case.
-/

namespace TemplateCompiler

/-- How a project is compiled, as its configuration file says.  What the file does not mention has
the value that is given here. -/
structure ProjectConfig where
  rootNamespace : Text := []
  languageVersion : Text := "latest"
  designTime : Bool := false
  indentSize : Int64 := 4
  indentWithTabs : Bool := false
  lineEnd : Text := "lf"
  suppressChecksum : Bool := false
  suppressMetadata : Bool := false
  suppressBody : Bool := false
  /-- The manifests of tag helpers, relative to the root. -/
  manifests : List Text := []
  /-- Treat import documents that cannot be read as missing. -/
  suppressImportErrors : Bool := false
  /-- Keep the outputs of clean documents on disk. -/
  keepsRecords : Bool := false
  /-- Where the records are kept; empty for the user's own cache. -/
  recordDirectory : Text := []
  /-- The file that the configuration was read from; empty for defaults. -/
  path : Text := []
  /-- The root directory of the project. -/
  root : Text := []

namespace ProjectConfig

def fileName : Text := "quill.toml"

/-! ## Errors -/

/-- Why there is no configuration.  A file that cannot be read, one that says something unknown and
one that contradicts itself are told apart. -/
inductive LoadError where
  /-- The file cannot be read, is no document, or gives a key a value of another type. -/
  | malformed
  | languageVersion (cause : LanguageVersion.ReadError)
  | unknownLineEnd (name : Text)
  | conflict (cause : Configuration.Conflict)
  | unknownKey (key : List Text)
  | emptyRootNamespace
  /-- Something is wrong with a file. -/
  | inFile (path : Text) (cause : LoadError)
  /-- It cannot be told whether there is a file. -/
  | unreachable (path : Text) (cause : Disk.Failure)
  deriving DecidableEq, Repr

namespace LoadError

def message : LoadError → Text
  | malformed => "failed to parse TOML"
  | languageVersion cause => "[project].language_version: " ++ cause.message
  | unknownLineEnd name =>
    "[codegen].newline: unknown value " ++ name.quoted ++ " (want lf or crlf)"
  | conflict cause => cause.message
  | unknownKey key => "unknown key " ++ Toml.keyText key
  | emptyRootNamespace => "[project].root_namespace is empty"
  | inFile path cause => path ++ ": " ++ cause.message
  | unreachable path cause => "failed to stat " ++ path.quoted ++ ": " ++ cause.message

/-- Whether a file could not be read as a configuration at all. -/
def isMalformed : LoadError → Bool
  | malformed => true
  | inFile _ cause => cause.isMalformed
  | _ => false

end LoadError

/-! ## The engine's part -/

def readLineEnd (name : Text) : Except LoadError LineEnd :=
  let key := name.trimBlank.toLower
  if key.isEmpty || key == "lf" then .ok .lineFeed
  else if key == "crlf" then .ok .carriageReturnLineFeed
  else .error (.unknownLineEnd name)

def engine (c : ProjectConfig) : Except LoadError Configuration := do
  let version ← (LanguageVersion.read c.languageVersion).mapError .languageVersion
  let lineEnd ← readLineEnd c.lineEnd
  let configuration : Configuration :=
    { version, designTime := c.designTime, rootNamespace := c.rootNamespace
      code := { indentSize := c.indentSize, indentWithTabs := c.indentWithTabs, lineEnd
                designTime := c.designTime, rootNamespace := c.rootNamespace
                suppressChecksum := c.suppressChecksum, suppressMetadata := c.suppressMetadata
                suppressBody := c.suppressBody } }
  match configuration.conflict? with
  | some cause => throw (.conflict cause)
  | none => return configuration

/-- The configuration, if an engine can be built for it. -/
def checked (c : ProjectConfig) : Except LoadError ProjectConfig := c.engine.map fun _ => c

/-! ## Reading -/

/-- How a value of a document changes a configuration. -/
abbrev Setter := ProjectConfig → Toml.Value → Option ProjectConfig

def ofText (f : ProjectConfig → Text → ProjectConfig) : Setter
  | c, .string value => some (f c value)
  | _, _ => none

/-- A setter of a truth value. -/
def ofBool (f : ProjectConfig → Bool → ProjectConfig) : Setter
  | c, .bool value => some (f c value)
  | _, _ => none

def ofInteger (f : ProjectConfig → Int64 → ProjectConfig) : Setter
  | c, .integer value => some (f c (.ofInt value))
  | _, _ => none

def texts? : Toml.Value → Option (List Text)
  | .array items => items.mapM fun
    | .string value => some value
    | _ => none
  | _ => none

/-- The keys of a configuration by their tables. -/
def tables : List (Text × List (Text × Setter)) :=
  [("project",
      [("root_namespace", ofText fun c v => { c with rootNamespace := v }),
       ("language_version", ofText fun c v => { c with languageVersion := v }),
       ("design_time", ofBool fun c v => { c with designTime := v })]),
   ("codegen",
      [("indent_size", ofInteger fun c v => { c with indentSize := v }),
       ("indent_with_tabs", ofBool fun c v => { c with indentWithTabs := v }),
       ("newline", ofText fun c v => { c with lineEnd := v }),
       ("suppress_checksum", ofBool fun c v => { c with suppressChecksum := v }),
       ("suppress_metadata_attributes", ofBool fun c v => { c with suppressMetadata := v }),
       ("suppress_primary_method_body", ofBool fun c v => { c with suppressBody := v })]),
   ("taghelpers",
      [("manifests", fun c v => (texts? v).map fun ms => { c with manifests := ms })]),
   ("imports", [("suppress_errors", ofBool fun c v => { c with suppressImportErrors := v })]),
   ("cache",
      [("disk", ofBool fun c v => { c with keepsRecords := v }),
       ("dir", ofText fun c v => { c with recordDirectory := v })])]

def named? {α : Type} (things : List (Text × α)) (key : Text) : Option α :=
  (things.find? fun t => t.1.equalFold key).map Prod.snd

/-- Read the entries of a table.  Keys that are not known are left alone. -/
def readTable? (keys : List (Text × Setter)) (c : ProjectConfig) (entries : Toml.Table) :
    Option ProjectConfig :=
  entries.foldlM (fun c e => match named? keys e.1 with
    | some set => set c e.2
    | none => some c) c

def ofDocument? (d : Toml.Document) : Option ProjectConfig :=
  d.root.foldlM (fun c e => match named? tables e.1 with
    | none => some c
    | some keys => match e.2 with
      | .table entries => readTable? keys c entries
      | _ => none) {}

/-- Whether a written key is known. -/
def isKnown : List Text → Bool
  | [table] => (named? tables table).isSome
  | [table, key] => ((named? tables table).bind fun keys => named? keys key).isSome
  | _ => false

/-- Whether a document gives the root namespace under its very name. -/
def namesRoot (d : Toml.Document) : Bool :=
  (((d.root.get? "project").bind fun
    | .table entries => some entries
    | _ => none).bind fun entries => Toml.Table.get? entries "root_namespace").isSome

/-- Read a configuration.  Keys that are not known are ignored. -/
def read (text : Text) : Except LoadError ProjectConfig :=
  match (Toml.Document.read? text).bind ofDocument? with
  | none => .error .malformed
  | some c => c.checked

/-- Read the content of a configuration file whose absolute path is known. -/
def readFile (place text : Text) : Except LoadError ProjectConfig :=
  match Toml.Document.read? text with
  | none => .error .malformed
  | some d => match ofDocument? d, d.keys.find? fun k => !isKnown k with
    | none, _ => .error .malformed
    | some _, some key => .error (.unknownKey key)
    | some c, none =>
      if namesRoot d && c.rootNamespace.trimBlank.isEmpty then .error .emptyRootNamespace
      else { c with path := place, root := Path.dir place }.checked

/-! ## Finding -/

def load (disk : Disk) (path : Text) : Except LoadError ProjectConfig :=
  ((disk.read path).mapError (fun _ => LoadError.malformed)
    >>= readFile (disk.absolute path)).mapError (.inFile path)

/-- Search directories for a configuration file, in their order. -/
def findIn (disk : Disk) : List Text → Except LoadError (Option Text)
  | [] => .ok none
  | directory :: rest =>
    let candidate := Path.join [directory, fileName]
    match disk.entry candidate with
    | .ok _ => .ok (some candidate)
    | .error .notFound => findIn disk rest
    | .error cause => .error (.unreachable candidate ⟨"stat", candidate, cause⟩)

/-- An absolute directory and those around it, innermost first. -/
def upwards (directory : Text) : List Text :=
  let parts := Path.steps directory
  (List.range (parts.length + 1)).reverse.map fun n =>
    Path.separator :: Text.join [Path.separator] (parts.take n)

/-- The configuration file of a directory: in it or in the nearest directory around it. -/
def find (disk : Disk) (directory : Text) : Except LoadError (Option Text) :=
  findIn disk (upwards (disk.absolute directory))

/-- The configuration of the project around a directory; without a file the defaults, rooted
there. -/
def discover (disk : Disk) (directory : Text) : Except LoadError ProjectConfig := do
  match ← find disk directory with
  | some path => load disk path
  | none => return { root := disk.absolute directory }

/-! ## Places -/

/-- A path of the project; a relative one starts at the root. -/
def resolve (c : ProjectConfig) (path : Text) : Text :=
  if Path.isRooted path then path else Path.join [c.root, path]

def manifestPlaces (c : ProjectConfig) : List Text := c.manifests.map c.resolve

/-- The directory of the records; empty for the user's own cache. -/
def recordPlace (c : ProjectConfig) : Text :=
  if c.recordDirectory.isEmpty then [] else c.resolve c.recordDirectory

end ProjectConfig

end TemplateCompiler
