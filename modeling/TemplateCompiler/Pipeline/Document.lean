import TemplateCompiler.Code.Outline
import TemplateCompiler.IR.Node
import TemplateCompiler.Syntax.Node

/-!
# Documents being compiled

A document starts with its source, its imports and its kind.  Every phase fills a slot with what it
produces, and reads the slots that earlier phases have filled.
-/

namespace TemplateCompiler

/-- What a document can have.  The phases of a pipeline ask for artifacts that phases before them
have left, and a phase that lacks one fails. -/
inductive Artifact where
  | source
  | parserOptions
  | codeOptions
  | tree
  | importTrees
  | helperScope
  | intermediate
  | output
  deriving DecidableEq, Repr

def Artifact.name : Artifact → Text
  | source => "source document"
  | parserOptions => "parser options"
  | codeOptions => "codegen options"
  | tree => "syntax tree"
  | importTrees => "import syntax trees"
  | helperScope => "tag helper context"
  | intermediate => "IR document"
  | output => "generated output"

/-- The tag helpers in scope of a document, as the directives in it and in its imports have selected
them, with the text that their elements start with. -/
structure HelperScope where
  /-- What the names of tag helper elements start with. -/
  tagStart : Text := []
  helpers : List TagHelper := []

def HelperScope.binder (s : HelperScope) : Binder := ⟨s.tagStart, s.helpers⟩

/-- A document being compiled: its source and its imports, and whatever the phases have made of them
so far.  A field that is empty has not been computed yet. -/
structure CodeDocument where
  source? : Option SourceFile
  /-- The imports, outermost first. -/
  imports : List SourceFile := []
  fileKind : FileKind := .legacy
  parserOptions? : Option ParserOptions := none
  codeOptions? : Option CodeOptions := none
  tree? : Option Syntax.Tree := none
  importTrees? : Option (List Syntax.Tree) := none
  /-- Tag helpers that take the place of those of the project. -/
  helpers? : Option (List TagHelper) := none
  scope? : Option HelperScope := none
  intermediate? : Option IR.Document := none
  output? : Option Code.Output := none

namespace CodeDocument

/-- A fresh document, whose kind follows from the path of its source. -/
def ofSource (source : SourceFile) (imports : List SourceFile) : CodeDocument :=
  { source? := some source, imports, fileKind := .ofPath source.path }

/-- The digest of the source and of every import, in order. -/
def digest (d : CodeDocument) : Digest :=
  Digest.combine ((d.source?.map SourceFile.digest).getD .zero) (d.imports.map SourceFile.digest)

def has (d : CodeDocument) : Artifact → Bool
  | .source => d.source?.isSome
  | .parserOptions => d.parserOptions?.isSome
  | .codeOptions => d.codeOptions?.isSome
  | .tree => d.tree?.isSome
  | .importTrees => d.importTrees?.isSome
  | .helperScope => d.scope?.isSome
  | .intermediate => d.intermediate?.isSome
  | .output => d.output?.isSome

/-- The path by which a document is known in its project. -/
def projectPath (d : CodeDocument) : Text :=
  match d.source? with
  | none => []
  | some f => if f.relative.isEmpty then f.path else f.relative

end CodeDocument

end TemplateCompiler
