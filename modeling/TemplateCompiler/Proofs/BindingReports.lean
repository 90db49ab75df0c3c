import TemplateCompiler.Pipeline.Discovery
import TemplateCompiler.Proofs.DirectiveReports
import TemplateCompiler.Proofs.PreparedTrees

/-!
# Directives in a tree that is prepared and bound

Between parsing and lowering a tree is normalized and its elements are bound to tag helpers.  The
directives keep their definitions and their findings.  What is found on the way concerns lookups,
elements, attributes and text, so it has none of the codes of a finding about a directive.
-/

namespace TemplateCompiler

/-- A finding that is not about a directive. -/
def Diagnostic.Foreign (x : Diagnostic) : Prop := x.code ∉ DiagnosticCode.ofDirective

/-- No finding is about a directive. -/
def Diagnostic.AllForeign (found : List Diagnostic) : Prop := ∀ x ∈ found, x.Foreign

namespace Diagnostic

theorem AboutDirective.not_foreign {x : Diagnostic} (about : x.AboutDirective) : ¬ x.Foreign :=
  fun foreign => foreign about.code

theorem AllForeign.nil : AllForeign [] := fun _ member => absurd member List.not_mem_nil

theorem AllForeign.single {x : Diagnostic} (foreign : x.Foreign) : AllForeign [x] := by
  intro y member
  cases List.mem_singleton.mp member
  exact foreign

/-- One finding with a code of its own. -/
theorem AllForeign.error {code : DiagnosticCode} (other : code ∉ DiagnosticCode.ofDirective)
    (span : Span) (message : Text) : AllForeign [.error code span message] := .single other

theorem AllForeign.append {found more : List Diagnostic} (first : AllForeign found)
    (second : AllForeign more) : AllForeign (found ++ more) := by
  intro x member
  rcases List.mem_append.mp member with here | there
  · exact first x here
  · exact second x there

theorem AllForeign.flatMap {α : Type} {items : List α} {f : α → List Diagnostic}
    (each : ∀ a ∈ items, AllForeign (f a)) : AllForeign (items.flatMap f) := by
  intro x member
  rcases List.mem_flatMap.mp member with ⟨a, among, here⟩
  exact each a among x here

theorem AllForeign.map {α : Type} {items : List α} {f : α → Diagnostic}
    (each : ∀ a ∈ items, (f a).Foreign) : AllForeign (items.map f) := by
  intro x member
  rcases List.mem_map.mp member with ⟨a, among, rfl⟩
  exact each a among

end Diagnostic

open Diagnostic

/-! ## Discovery -/

namespace Discovery

namespace Selection

/-- What following one directive adds is about a lookup. -/
theorem follow_foreign (available : List TagHelper) {s : Selection} (d : Syntax.DirectiveHead)
    (foreign : AllForeign s.found) : AllForeign (s.follow available d).found := by
  have lookup : ∀ (token : Syntax.DirectiveToken) (change : Selection → Lookup → Selection),
      (∀ l, (change s l).found = s.found) → AllForeign (s.lookup token change).found := by
    intro token change kept
    unfold Selection.lookup
    dsimp only
    split
    · rw [kept]
      exact foreign
    · exact foreign.append (.error (by decide) _ _)
  unfold follow
  split
  · exact foreign
  split
  · exact foreign
  split
  · exact lookup _ _ fun _ => rfl
  split
  · exact lookup _ _ fun _ => rfl
  split
  · unfold requireStart
    dsimp only
    split
    · exact foreign.append (.error (by decide) _ _)
    · exact foreign
  · exact foreign

theorem foldl_follow_foreign (available : List TagHelper) (ds : List Syntax.DirectiveHead) :
    ∀ {s : Selection}, AllForeign s.found →
      AllForeign (ds.foldl (Selection.follow available) s).found := by
  induction ds with
  | nil =>
    intro s foreign
    exact foreign
  | cons d ds ih =>
    intro s foreign
    exact ih (follow_foreign available d foreign)

end Selection

theorem discover_foreign (all : List TagHelper) (kind : FileKind) (tree : Syntax.Tree)
    (imports : List Syntax.Tree) : AllForeign (discover all kind tree imports).2 := by
  unfold discover
  split
  · exact .nil
  · exact Selection.foldl_follow_foreign _ _ .nil

end Discovery

namespace Syntax

/-! ## Binding -/

namespace HelperRules

/-- No code of binding is one of a finding about a directive. -/
theorem bindNodes_foreign (r : HelperRules) (scope : Scope) (ns : List Node) :
    AllForeign (r.bindNodes scope ns).2 := by
  have apart : ∀ code ∈ DiagnosticCode.codeInAttributeArea :: DiagnosticCode.ofBinding,
      code ∉ DiagnosticCode.ofDirective := by decide
  intro x member
  exact apart x.code (r.bindNodes_within scope ns x member)

end HelperRules

/-! ## Directives come through -/

namespace Node

variable {directives : List DirectiveDescriptor}

theorem mergeAll_reported {ns : List Node} (reported : AllReported directives ns) :
    AllReported directives (mergeAll ns).1 := by
  apply mergeAll_every (fun _ _ _ _ => trivial) _ reported
  intro n self
  cases n <;> exact self

theorem trimAll_reported {ns : List Node} (reported : AllReported directives ns) :
    AllReported directives (trimAll ns).1 := by
  apply trimAll_every _ reported
  intro n self
  cases n with
  | directive => exact ⟨self.registered, self.findings⟩
  | _ => exact self

end Node

namespace HelperRules

variable {directives : List DirectiveDescriptor}

theorem bindNode_reports (r : HelperRules) (scope : Scope) {n : Node}
    (self : n.Reported directives) : (r.bindNode scope n).1.Reported directives := by
  cases n with
  | element span tag endTag? body =>
    unfold bindNode
    dsimp only
    split <;> trivial
  | _ => exact self

theorem bindNodes_reported (r : HelperRules) (scope : Scope) {ns : List Node}
    (reported : Node.AllReported directives ns) :
    Node.AllReported directives (r.bindNodes scope ns).1 :=
  r.bindNodes_every (fun _ _ => r.bindNode_reports _) scope reported

end HelperRules

namespace Tree

/-- Binding adds findings about other things than directives. -/
theorem bindHelpers_diagnostics (t : Tree) (binder : Binder) :
    ∃ found, (t.bindHelpers binder).diagnostics = t.diagnostics ++ found ∧ AllForeign found := by
  unfold bindHelpers
  split
  · exact ⟨[], (List.append_nil _).symm, .nil⟩
  · exact ⟨_, rfl, HelperRules.bindNodes_foreign _ _ _⟩

theorem bindHelpers_reported {directives : List DirectiveDescriptor} {t : Tree}
    (reported : Node.AllReported directives t.body) (binder : Binder) :
    Node.AllReported directives (t.bindHelpers binder).body := by
  unfold bindHelpers
  split
  · exact reported
  · exact HelperRules.bindNodes_reported _ _ reported

end Tree

end Syntax

end TemplateCompiler
