import TemplateCompiler.IR.Walk
import TemplateCompiler.Pipeline.Lowering

/-!
# Properties of documents and of what lowering makes

A property of nodes holds of a tree if it holds of every node in it, and of a list of trees if it
holds of each.

Lowering turns most elements into markup.  Among the pieces of a start tag there are two kinds of
nodes: code in values that are written as they are, and conditional attributes.  Everything else is
literal.  So what holds of markup, of these nodes, and of nodes in a row if it holds of each part,
holds of all that a start tag becomes.
-/

namespace TemplateCompiler

/-! ## Properties of all nodes -/

namespace IR.Node

/-- A property holds of a node and of all nodes inside it. -/
inductive Every (P : Node → Prop) : Node → Prop
  | intro (n : Node) (self : P n) (inside : ∀ child ∈ n.children, Every P child) : Every P n

theorem Every.self {P : Node → Prop} {n : Node} (every : Every P n) : P n := by
  cases every with
  | intro _ self _ => exact self

theorem Every.inside {P : Node → Prop} {n : Node} (every : Every P n) :
    ∀ child ∈ n.children, Every P child := by
  cases every with
  | intro _ _ inside => exact inside

mutual

/-- A property of all nodes inside a tree is one of each node that a walk meets. -/
theorem Every.of_mem_preorder {P : Node → Prop} :
    ∀ {n : Node}, Every P n → ∀ m ∈ n.preorder, Every P m
  | .absent, every, m, member => by
    cases List.mem_singleton.mp member
    exact every
  | .node head children, every, m, member => by
    rcases List.mem_cons.mp member with rfl | below
    · exact every
    · have inside : ∀ n ∈ children, Every P n := every.inside
      exact Every.of_mem_preorderAll inside m below

theorem Every.of_mem_preorderAll {P : Node → Prop} :
    ∀ {ns : List Node}, (∀ n ∈ ns, Every P n) → ∀ m ∈ preorderAll ns, Every P m
  | [], _, m, member => absurd member List.not_mem_nil
  | n :: ns, every, m, member => by
    rcases List.mem_append.mp member with here | there
    · exact Every.of_mem_preorder (every n List.mem_cons_self) m here
    · exact Every.of_mem_preorderAll (fun k among => every k (List.mem_cons_of_mem n among)) m
        there

end

/-- A property holds of some nodes and of all nodes inside them. -/
def EveryIn (P : Node → Prop) (ns : List Node) : Prop := ∀ n ∈ ns, n.Every P

variable {P : Node → Prop}

theorem EveryIn.nil : EveryIn P [] := fun _ member => absurd member List.not_mem_nil

theorem EveryIn.cons {n : Node} {ns : List Node} (first : n.Every P)
    (rest : EveryIn P ns) : EveryIn P (n :: ns) := by
  intro m member
  rcases List.mem_cons.mp member with rfl | behind
  · exact first
  · exact rest m behind

theorem EveryIn.single {n : Node} (every : n.Every P) : EveryIn P [n] :=
  .cons every .nil

theorem EveryIn.head {n : Node} {ns : List Node} (every : EveryIn P (n :: ns)) :
    n.Every P := every n List.mem_cons_self

theorem EveryIn.tail {n : Node} {ns : List Node} (every : EveryIn P (n :: ns)) :
    EveryIn P ns := fun m member => every m (List.mem_cons_of_mem n member)

theorem EveryIn.append {ns ms : List Node} (first : EveryIn P ns) (second : EveryIn P ms) :
    EveryIn P (ns ++ ms) := by
  intro n member
  rcases List.mem_append.mp member with here | there
  · exact first n here
  · exact second n there

theorem EveryIn.filter {ns : List Node} (every : EveryIn P ns) (p : Node → Bool) :
    EveryIn P (ns.filter p) := fun n member => every n ((List.mem_filter.mp member).1)

theorem EveryIn.flatMap {α : Type} {items : List α} {f : α → List Node}
    (each : ∀ a ∈ items, EveryIn P (f a)) : EveryIn P (items.flatMap f) := by
  intro n member
  rcases List.mem_flatMap.mp member with ⟨a, among, here⟩
  exact each a among n here

theorem EveryIn.map {α : Type} {items : List α} {f : α → Node}
    (each : ∀ a ∈ items, (f a).Every P) : EveryIn P (items.map f) := by
  intro n member
  rcases List.mem_map.mp member with ⟨a, among, rfl⟩
  exact each a among

end IR.Node

namespace Lowering

open IR

variable {features : LanguageFeatures}

/-! ## Nodes among the pieces of an element -/

def conditional (opening quote : Text) (a : Syntax.Attribute) : Node :=
  .located (.markupAttribute a.name opening quote) a.span (a.value.map attributePart)

theorem mem_map_plainPart {value : List Syntax.ValuePart} {n : Node}
    (member : .node n ∈ value.map plainPart) :
    ∃ span code explicit, .code span code explicit ∈ value ∧ n = expression span code := by
  rcases List.mem_map.mp member with ⟨part, among, made⟩
  cases part with
  | text | transition => cases made
  | code span code explicit =>
    cases made
    exact ⟨span, code, explicit, among, rfl⟩

/-- A node among the pieces of an attribute is code in its value, or the attribute itself. -/
theorem mem_attributePieces {a : Syntax.Attribute} {n : Node}
    (member : .node n ∈ attributePieces features a) :
    (∃ span code explicit, .code span code explicit ∈ a.value ∧ n = expression span code)
      ∨ ∃ opening quote, n = conditional opening quote a := by
  unfold attributePieces at member
  dsimp only at member
  split at member
  · apply Or.inl
    apply mem_map_plainPart
    simpa using member
  split at member
  · simp at member
  split at member
  · apply Or.inl
    apply mem_map_plainPart
    simpa using member
  · cases List.mem_singleton.mp member
    exact .inr ⟨_, _, rfl⟩

theorem mem_tagPieces {tag : Syntax.StartTag} {n : Node}
    (member : .node n ∈ tagPieces features tag) :
    ∃ a ∈ tag.attributes, .node n ∈ attributePieces features a := by
  apply List.mem_flatMap.mp
  simpa [tagPieces] using member

/-! ## Nodes in a row -/

/-- What holds of markup, and of nodes in a row if it holds of each part. -/
structure Gathers (S : List Node → Prop) : Prop where
  markup : ∀ text, S (markup text)
  append : ∀ {ns ms : List Node}, S ns → S ms → S (ns ++ ms)

namespace Gathers

variable {S : List Node → Prop} (gathers : Gathers S)

include gathers

theorem nil : S [] := gathers.markup []

theorem flatMap {α : Type} {items : List α} {f : α → List Node} (each : ∀ a ∈ items, S (f a)) :
    S (items.flatMap f) := by
  induction items with
  | nil => exact gathers.nil
  | cons a items ih =>
    rcases List.forall_mem_cons.mp each with ⟨first, others⟩
    exact gathers.append first (ih others)

theorem gatherFrom {ps : List Piece} :
    ∀ {pending : Text}, (∀ n, .node n ∈ ps → S [n]) → S (gatherFrom pending ps) := by
  induction ps with
  | nil => exact fun _ => gathers.markup _
  | cons p ps ih =>
    intro pending each
    have others (n : Node) (member : Piece.node n ∈ ps) := each n (List.mem_cons_of_mem p member)
    cases p with
    | literal text => exact ih others
    | node n =>
      have first := each n List.mem_cons_self
      exact gathers.append (gathers.markup pending) (gathers.append first (ih others))

/-- What a start tag becomes. -/
theorem tag {tag : Syntax.StartTag}
    (code : ∀ a ∈ tag.attributes, ∀ {span code explicit}, .code span code explicit ∈ a.value →
      S [expression span code])
    (whole : ∀ a ∈ tag.attributes, ∀ opening quote, S [conditional opening quote a]) :
    S (gather (tagPieces features tag)) := by
  apply gathers.gatherFrom
  intro n member
  rcases mem_tagPieces member with ⟨a, among, inside⟩
  rcases mem_attributePieces inside with ⟨span, text, explicit, here, rfl⟩ | ⟨opening, quote, rfl⟩
  · exact code a among here
  · exact whole a among opening quote

/-- The value of an attribute of a tag helper. -/
theorem markupValue {value : List Syntax.ValuePart}
    (code : ∀ {span code explicit}, .code span code explicit ∈ value → S [expression span code]) :
    S (markupValue value) := by
  apply gathers.flatMap
  intro part among
  cases part with
  | text span text => exact gathers.markup text
  | transition span => exact gathers.markup "@"
  | code => exact code among

end Gathers

end Lowering

end TemplateCompiler
