import TemplateCompiler.Text.Case
import TemplateCompiler.Text.Path

/-!
# Kinds of files

The kind of a file decides the shape of the generated code and which import files apply to it.
-/

namespace TemplateCompiler

/-- The kind of a source file, which follows from its name.  It decides which directives are known
and which import documents belong to the file. -/
inductive FileKind where
  /-- A page or view. -/
  | legacy
  | component
  /-- The shared imports of components. -/
  | componentImport
  /-- A kind this language does not define. -/
  | unknown (ordinal : UInt8) (undefined : 2 < ordinal)
  deriving Repr, Inhabited

namespace FileKind

def ofOrdinal (n : UInt8) : FileKind :=
  if h : 2 < n then unknown n h
  else if n == 0 then legacy else if n == 1 then component else componentImport

def ordinal : FileKind → Nat
  | legacy => 0
  | component => 1
  | componentImport => 2
  | unknown n _ => n.toNat

theorem ordinal_lt (x : FileKind) : x.ordinal < 256 := by
  cases x with
  | unknown n _ => exact n.toNat_lt
  | _ => decide

theorem ordinal_injective {x y : FileKind} (same : x.ordinal = y.ordinal) : x = y := by
  cases x <;> cases y <;> grind [ordinal, UInt8.lt_iff_toNat_lt, UInt8.toNat_inj]

instance : DecidableEq FileKind := fun x y =>
  decidable_of_iff (x.ordinal = y.ordinal) ⟨ordinal_injective, congrArg ordinal⟩

def name : FileKind → Text
  | legacy => "legacy"
  | component => "component"
  | componentImport => "component-import"
  | unknown .. => "unknown"

/-- Whether a file is a component or an import of components. -/
def isComponent : FileKind → Bool
  | component | componentImport => true
  | _ => false

/-- The kind of a name, without regard to case. -/
def ofName? (name : Text) : Option FileKind :=
  let lower := name.toLower
  [legacy, component, componentImport].find? fun k => k.name == lower

/-- The extension of pages and views. -/
def legacyExtension : Text := ".quill"

def componentExtension : Text := ".qcomp"

def componentImports : Text := "_Imports.qcomp"

def viewImports : Text := "_ViewImports.quill"

/-- The kind of a file, from its name. -/
def ofPath (path : Text) : FileKind :=
  let name := Path.base (path.replaceByte '\\'.toUInt8 '/'.toUInt8)
  if name.equalFold componentImports then componentImport
  else if (Path.ext name).equalFold componentExtension then component
  else legacy

/-- The name of the import files that apply to a kind. -/
def importFileName (k : FileKind) : Text := if k.isComponent then componentImports else viewImports

end FileKind

end TemplateCompiler
