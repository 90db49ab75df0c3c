import TemplateCompiler.Text.Classes
import TemplateCompiler.Text.Path

/-!
# Names of generated declarations

The names of generated classes and namespaces come from the path of a template.
-/

namespace TemplateCompiler

namespace Dialect

/-- The name of a class for which the path gives none. -/
def defaultClassName : Text := "Template"

/-- The characters that stand for one glyph of a name in an identifier. -/
def identifierPart (isFirst : Bool) (g : Text.Glyph) : Text :=
  if g.char == '_' || Text.isLetter g.char then Text.ofChar g.char
  else if Text.isDigit g.char then Text.when isFirst "_" ++ Text.ofChar g.char
  else "_"

/-- A name with an underscore for every character that an identifier cannot have, and before a
leading digit. -/
def identifier (name : Text) : Text :=
  match name.glyphs with
  | [] => []
  | g :: gs => identifierPart true g ++ gs.flatMap (identifierPart false)

/-- A path with slashes in the place of backslashes. -/
def withSlashes (path : Text) : Text := path.replaceByte '\\'.toUInt8 Path.separator

/-- The class name of a view: its path without the extension. -/
def viewClassName (path : Text) : Text :=
  let path := (withSlashes path).dropStart "/"
  let stem := path.dropEnd (Path.ext path)
  if stem.isEmpty then defaultClassName else identifier stem

/-- The class name of a component: its file name without the extension. -/
def componentClassName (path : Text) : Text :=
  let name := Path.base (withSlashes path)
  let stem := name.dropEnd (Path.ext name)
  if stem.isEmpty || stem == "." || stem == "/" then defaultClassName else identifier stem

/-- The namespace of a component: a root namespace, followed by the directories of its path. -/
def componentNamespace (root path : Text) : Text :=
  let directory := Path.dir ((withSlashes path).dropStart "/")
  if directory == "." || directory == "/" then root
  else
    let segments := (Path.components directory).filter fun s => !s.isEmpty
    Text.join "." (root :: segments.map identifier)

end Dialect

end TemplateCompiler
