import TemplateCompiler.Proofs.Faithful
import TemplateCompiler.Syntax.HelperBinding
import TemplateCompiler.Syntax.Normalize

/-!
# Preparing a syntax tree

Between parsing and lowering a tree is walked three times: neighbouring texts are merged, tokens of
directives are trimmed and elements are bound to tag helpers.  A property of all nodes of a tree
holds after such a walk if every node has it after the walk when it had it before, where merging
also makes up texts.  So the walks are followed here once, for any property, and each property adds
what is true of a single node.

Only binding reports anything.  Its findings are about elements among the children of others, about
tags, and about attributes; one code is kept for the attributes that binding drops.
-/

namespace TemplateCompiler

namespace Syntax

variable {P : Node → Prop}

namespace Node

/-! ## Merging texts -/

/-- What holds of two texts that touch holds of the text that they become. -/
def JoinsTexts (P : Node → Prop) : Prop :=
  ∀ {s s' : Span} {t t' : Text}, P (text s t) → P (text s' t') → s.stop = s'.start →
    s.file = s'.file → P (text (s.cover s') (t ++ t'))

theorem join_every (joins : JoinsTexts P) {n : Node} {ns : List Node} (first : n.Every P)
    (rest : ∀ m ∈ ns, m.Every P) : ∀ m ∈ (join n ns).1, m.Every P := by
  unfold join
  split
  · split
    · next touching =>
      rcases List.forall_mem_cons.mp rest with ⟨second, behind⟩
      rw [Bool.and_eq_true, beq_iff_eq, beq_iff_eq] at touching
      have joined := joins first.self second.self touching.1 touching.2
      exact List.forall_mem_cons.mpr ⟨every_leaf joined rfl, behind⟩
    · exact List.forall_mem_cons.mpr ⟨first, rest⟩
  · exact List.forall_mem_cons.mpr ⟨first, rest⟩

mutual

theorem merge_every (joins : JoinsTexts P) (merges : ∀ n, P n → P (merge n).1) :
    ∀ {n : Node}, n.Every P → (merge n).1.Every P
  | .element .., every => .intro _ (merges _ every.self) (mergeAll_every joins merges every.inside)
  | .directive .., every =>
    .intro _ (merges _ every.self) (mergeAll_every joins merges every.inside)
  | .helper .., every => .intro _ (merges _ every.self) (mergeAll_every joins merges every.inside)
  | .text .., every => every
  | .transition _, every => every
  | .markupComment .., every => every
  | .comment .., every => every
  | .expression .., every => every
  | .codeBlock .., every => every

theorem mergeAll_every (joins : JoinsTexts P) (merges : ∀ n, P n → P (merge n).1) :
    ∀ {ns : List Node}, (∀ n ∈ ns, n.Every P) → ∀ n ∈ (mergeAll ns).1, n.Every P
  | [], every => every
  | _ :: _, every => by
    rcases List.forall_mem_cons.mp every with ⟨first, rest⟩
    exact join_every joins (merge_every joins merges first) (mergeAll_every joins merges rest)

end

/-! ## Trimming tokens -/

mutual

theorem trim_every (trims : ∀ n, P n → P (trim n).1) :
    ∀ {n : Node}, n.Every P → (trim n).1.Every P
  | .element .., every => .intro _ (trims _ every.self) (trimAll_every trims every.inside)
  | .directive .., every => .intro _ (trims _ every.self) (trimAll_every trims every.inside)
  | .helper .., every => .intro _ (trims _ every.self) (trimAll_every trims every.inside)
  | .text .., every => every
  | .transition _, every => every
  | .markupComment .., every => every
  | .comment .., every => every
  | .expression .., every => every
  | .codeBlock .., every => every

theorem trimAll_every (trims : ∀ n, P n → P (trim n).1) :
    ∀ {ns : List Node}, (∀ n ∈ ns, n.Every P) → ∀ n ∈ (trimAll ns).1, n.Every P
  | [], every => every
  | _ :: _, every => by
    rcases List.forall_mem_cons.mp every with ⟨first, rest⟩
    exact List.forall_mem_cons.mpr ⟨trim_every trims first, trimAll_every trims rest⟩

end

end Node

/-! ## Binding elements -/

namespace HelperRules

variable (r : HelperRules)

mutual

theorem bindNode_every (binds : ∀ scope n, P n → P (r.bindNode scope n).1) (scope : Scope) :
    ∀ {n : Node}, n.Every P → (r.bindNode scope n).1.Every P
  | .element span tag endTag? body, every => by
    have bound := binds scope _ every.self
    unfold bindNode at bound ⊢
    dsimp only at bound ⊢
    split
    · next unbound =>
      rw [unbound] at bound
      exact .intro _ bound (bindNodes_every binds _ every.inside)
    · next binding selected =>
      rw [selected] at bound
      exact .intro _ bound (bindNodes_every binds _ every.inside)
  | .directive .., every =>
    .intro _ (binds scope _ every.self) (bindNodes_every binds {} every.inside)
  | .text .., every => every
  | .markupComment .., every => every
  | .transition _, every => every
  | .expression .., every => every
  | .codeBlock .., every => every
  | .comment .., every => every
  | .helper .., every => every

theorem bindNodes_every (binds : ∀ scope n, P n → P (r.bindNode scope n).1) (scope : Scope) :
    ∀ {ns : List Node}, (∀ n ∈ ns, n.Every P) → ∀ n ∈ (r.bindNodes scope ns).1, n.Every P
  | [], every => every
  | _ :: _, every => by
    rcases List.forall_mem_cons.mp every with ⟨first, rest⟩
    exact List.forall_mem_cons.mpr
      ⟨bindNode_every binds scope first, bindNodes_every binds scope rest⟩

end

end HelperRules

end Syntax

/-! ## What binding reports -/

/-- The kinds of findings about bound elements, their children and the attributes they keep. -/
def DiagnosticCode.ofBinding : List DiagnosticCode :=
  [invalidNestedTag, commentInTagHelper, inconsistentStructure, missingEndTag, indexerMissingKey,
    unknownParameter, minimizedNonBoolean, emptyBoundValue]

namespace Diagnostic

/-- All findings are of some kinds. -/
def Within (codes : List DiagnosticCode) (found : List Diagnostic) : Prop :=
  ∀ x ∈ found, x.code ∈ codes

namespace Within

variable {codes : List DiagnosticCode} {found more : List Diagnostic}

theorem nil : Within codes [] := List.forall_mem_nil _

theorem error {code : DiagnosticCode} (among : code ∈ codes) (span : Span) (message : Text) :
    Within codes [.error code span message] := List.forall_mem_singleton.mpr among

theorem append (first : Within codes found) (second : Within codes more) :
    Within codes (found ++ more) := List.forall_mem_append.mpr ⟨first, second⟩

theorem errors {α : Type} {code : DiagnosticCode} (among : code ∈ codes) (items : List α)
    (span : α → Span) (message : α → Text) :
    Within codes (items.map fun a => .error code (span a) (message a)) :=
  List.forall_mem_map.mpr fun _ _ => among

theorem flatMap {α : Type} {items : List α} {f : α → List Diagnostic}
    (each : ∀ a ∈ items, Within codes (f a)) : Within codes (items.flatMap f) := by
  intro x member
  rcases List.mem_flatMap.mp member with ⟨a, among, here⟩
  exact each a among x here

theorem mono {wider : List DiagnosticCode} (within : Within codes found) (subset : codes ⊆ wider) :
    Within wider found := fun x member => subset (within x member)

end Within

end Diagnostic

open Diagnostic

namespace Syntax.HelperRules

variable (r : HelperRules) (scope : Scope) (tag : StartTag) (binding : ElementBinding)

theorem checkChild_within : Within DiagnosticCode.ofBinding (r.checkChild scope tag) := by
  unfold checkChild
  dsimp only
  split
  · exact .nil
  · exact .error (by decide) _ _

theorem checkText_within (span : Span) (text : Text) :
    Within DiagnosticCode.ofBinding (checkText scope span text) := by
  unfold checkText
  split
  · exact .nil
  · exact .error (by decide) _ _

theorem checkComment_within (span : Span) :
    Within DiagnosticCode.ofBinding (r.checkComment scope span) := by
  unfold checkComment
  split
  · exact .nil
  · exact .error (by decide) _ _

theorem checkStructures_within : Within DiagnosticCode.ofBinding (checkStructures tag binding) := by
  unfold checkStructures
  split
  · exact .nil
  · exact .errors (by decide) _ _ _

theorem tagMode_within (endTag? : Option Span) :
    Within DiagnosticCode.ofBinding (tagMode tag endTag? binding).2 := by
  have structures := checkStructures_within tag binding
  unfold tagMode
  dsimp only
  split
  · exact structures
  split
  · exact structures.append (.errors (by decide) _ _ _)
  split
  · exact structures
  split
  · exact structures.append (.error (by decide) _ _)
  · exact structures

theorem checkParameter_within (a : Attribute) :
    Within DiagnosticCode.ofBinding (checkParameter tag a binding) := by
  unfold checkParameter
  split
  · dsimp only
    split
    · exact .error (by decide) _ _
    · exact .nil
  · exact .nil

theorem checkValue_within (a : Attribute) (governs : Binding.AttributeMatch) :
    Within DiagnosticCode.ofBinding (r.checkValue tag a governs) := by
  unfold checkValue
  split
  · split
    · exact .error (by decide) _ _
    split
    · exact .error (by decide) _ _
    · exact .nil
  split
  · exact .error (by decide) _ _
  · exact .nil

theorem bindAttribute_within (a : Attribute) :
    Within DiagnosticCode.ofBinding (r.bindAttribute tag binding a).2 := by
  unfold bindAttribute
  dsimp only
  apply Within.append
  · exact .flatMap fun helper _ => .errors (by decide) _ _ _
  split
  · exact checkParameter_within tag binding a
  · exact checkValue_within r tag a _

/-! Whole elements. -/

theorem bindAttributes_within (attributes : List Attribute) :
    Within (.codeInAttributeArea :: DiagnosticCode.ofBinding)
      (r.bindAttributes tag binding attributes).2 := by
  induction attributes with
  | nil => exact .nil
  | cons a rest ih =>
    unfold bindAttributes
    dsimp only
    split
    · exact Within.append (.error (by decide) _ _) ih
    · exact ((bindAttribute_within r tag binding a).mono (List.subset_cons_self _ _)).append ih

mutual

theorem bindNode_within (scope : Scope) :
    ∀ n : Node, Within (.codeInAttributeArea :: DiagnosticCode.ofBinding) (r.bindNode scope n).2
  | .element span tag endTag? body => by
    have wider := List.subset_cons_self DiagnosticCode.codeInAttributeArea DiagnosticCode.ofBinding
    have child := (checkChild_within r scope tag).mono wider
    unfold bindNode
    dsimp only
    split
    · exact child.append (bindNodes_within _ body)
    · next binding _ =>
      have mode := (tagMode_within tag binding endTag?).mono wider
      have attributes := bindAttributes_within r tag binding tag.attributes
      exact ((child.append mode).append attributes).append (bindNodes_within _ body)
  | .text span text => (checkText_within scope span text).mono (List.subset_cons_self _ _)
  | .markupComment span text =>
    (checkComment_within r scope span).mono (List.subset_cons_self _ _)
  | .directive span head body => bindNodes_within {} body
  | .transition _ => .nil
  | .expression .. => .nil
  | .codeBlock .. => .nil
  | .comment .. => .nil
  | .helper .. => .nil

theorem bindNodes_within (scope : Scope) :
    ∀ ns : List Node,
      Within (.codeInAttributeArea :: DiagnosticCode.ofBinding) (r.bindNodes scope ns).2
  | [] => .nil
  | n :: ns => (bindNode_within scope n).append (bindNodes_within scope ns)

end

end Syntax.HelperRules

end TemplateCompiler
