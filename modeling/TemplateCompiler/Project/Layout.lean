import TemplateCompiler.Language.FileKind
import TemplateCompiler.Text.Path

/-!
# Where documents and their imports lie

The import documents of a document lie in its directory and in every directory around it, up to the
project's root.
-/

namespace TemplateCompiler

namespace Project

/-- The directory of a name and the directories around it, outermost first. -/
def enclosingDirectories (name : Text) : List Text :=
  let directory := Path.dir name
  let parts := Path.steps directory
  (List.range (parts.length + 1)).map fun n =>
    let path := Text.join [Path.separator] (parts.take n)
    if Path.isRooted directory then Path.separator :: path
    else if path.isEmpty then "." else path

/-- The names of the import documents that apply to a document, outermost first.  A document does
not import itself. -/
def importPaths (name : Text) (kind : FileKind) : List Text :=
  ((enclosingDirectories name).map fun d => Path.join [d, kind.importFileName]).filter fun p =>
    p != name

/-- Whether a document is compiled when a directory is: by its extension, unless it is the import
document of views. -/
def isDocument (name : Text) : Bool :=
  let base := Path.base name
  let extension := (Path.ext base).toLower
  !base.equalFold FileKind.viewImports
    && (extension == FileKind.legacyExtension || extension == FileKind.componentExtension)

end Project

end TemplateCompiler
