import TemplateCompiler.Dialect.Components
import TemplateCompiler.Dialect.Views
import TemplateCompiler.IR.Optimize

/-!
# Passes by name

The passes on intermediate trees, for tools that run them one at a time.
-/

namespace TemplateCompiler

namespace Dialect

/-- The pass of a name, as it runs without a document. -/
def pass? (name : String) : Option (IR.Document → IR.Document) :=
  match name with
  | "directive-removal" => some (·.removeDirectives)
  | "eliminate-method-body" => some (·.dropBody)
  | "tag-helper-fields" => some (·.declareHelpers)
  | "html-content-merge" => some (·.mergeMarkup)
  | "inherits-directive" => some applyInherits
  | "functions-directive" => some (applyMembers [.functions, .code])
  | "section-directive" => some applySections
  | "implements-directive" => some applyImplements
  | "model-directive" => some applyModel
  | "namespace-directive" => some applyNamespace
  | "page-directive" => some (applyPage none)
  | "typeparam-directive" => some applyTypeParameters
  | "layout-directive" => some applyLayout
  | "attribute-directive" => some applyAttributes
  | _ => none

end Dialect

end TemplateCompiler
