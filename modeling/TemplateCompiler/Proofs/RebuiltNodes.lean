import TemplateCompiler.Proofs.SilentNodes

/-!
# Nodes that passes rebuild

Most passes give a node other children and leave its head alone.  A property holds of every node
after such a pass if it held before, provided that a single node keeps it; the nodes that a pass
makes up, sections and joined markup, have to have it too.  So the walks are followed here once, for
any property.  A single node keeps every property of its head.  The fields of tag helpers are the
same for all properties.
-/

namespace TemplateCompiler

namespace IR.Node

/-- A property that does not depend on the children of a node. -/
def OfHead (Q : Node → Prop) : Prop :=
  ∀ {head : Head} {children : List Node} (others : List Node),
    Q (.node head children) → Q (.node head others)

theorem headed_ofHead (P : Head → Prop) : OfHead (Headed P) := fun _ holds => holds

/-- A node keeps a property when a pass gives it other children. -/
def Rebuilds (Q : Node → Prop) (f : Node → Node) : Prop :=
  ∀ head children, Q (.node head children) → Q (f (.node head children))

variable {Q : Node → Prop}

/-! ## Removing directives -/

mutual

theorem dropDirectives_every (rebuilds : Rebuilds Q dropDirectives) :
    ∀ {n : Node}, n.Every Q → n.dropDirectives.Every Q
  | .absent, every => every
  | .node _ _, every =>
    .intro _ (rebuilds _ _ every.self) (dropDirectivesAll_every rebuilds every.inside)

theorem dropDirectivesAll_every (rebuilds : Rebuilds Q dropDirectives) :
    ∀ {ns : List Node}, EveryIn Q ns → EveryIn Q (dropDirectivesAll ns)
  | [], _ => EveryIn.nil
  | n :: ns, every => by
    unfold dropDirectivesAll
    split
    · exact dropDirectivesAll_every rebuilds every.tail
    · exact .cons (dropDirectives_every rebuilds every.head)
        (dropDirectivesAll_every rebuilds every.tail)

end

/-! ## Fields of tag helpers -/

theorem helperFields_every
    (fields : ∀ typeName name, (synthetic (.field ["private"] typeName name) []).Every Q)
    {helpers : List TagHelper} :
    ∀ {seen : List Digest} {declared : List Text},
      EveryIn Q (Document.helperFields seen declared helpers) := by
  induction helpers with
  | nil =>
    intro seen declared
    exact EveryIn.nil
  | cons h hs ih =>
    intro seen declared
    unfold Document.helperFields
    split
    · exact ih
    dsimp only
    split
    · exact ih
    · exact .cons (fields _ _) ih

/-! ## Joining markup -/

/-- Joined markup has a property of heads if both pieces have it, whatever children the joined piece
gets. -/
def Joins (Q : Node → Prop) : Prop :=
  ∀ {a b : Node}, Q a → Q b → ∀ children,
    Q (.node { content := .markup, span? := joinSpans a.span? b.span?
               diagnostics := a.diagnostics ++ b.diagnostics, label? := a.label? } children)

theorem joinRuns_every (joins : Joins Q) {ns : List Node} :
    ∀ {first : Node}, first.Every Q → EveryIn Q ns → EveryIn Q (joinRuns first ns) := by
  induction ns with
  | nil =>
    intro first every _
    exact .single every
  | cons n ns ih =>
    intro first every rest
    unfold joinRuns
    split
    · next joined found =>
      refine ih ?_ rest.tail
      unfold joinMarkup? at found
      split at found
      · cases found
        have children : EveryIn Q _ := every.inside
        exact .intro _ (joins every.self rest.head.self _) (children.append rest.head.inside)
      · cases found
    · exact .cons every (ih rest.head rest.tail)

theorem joinSiblings_every (joins : Joins Q) {ns : List Node} (every : EveryIn Q ns) :
    EveryIn Q (joinSiblings ns) := by
  cases ns with
  | nil => exact every
  | cons n ns => exact joinRuns_every joins every.head every.tail

theorem mergeLevels_every (rebuilds : ∀ levels, Rebuilds Q (mergeLevels (levels + 1)))
    (joins : Joins Q) (levels : Nat) :
    ∀ {n : Node}, n.Every Q → (mergeLevels levels n).Every Q := by
  induction levels with
  | zero =>
    intro n every
    exact every
  | succ levels ih =>
    intro n every
    cases n with
    | absent => exact every
    | node head children =>
      apply Every.intro _ (rebuilds levels head children every.self)
      intro m member
      rcases List.mem_map.mp member with ⟨k, joined, rfl⟩
      exact ih (joinSiblings_every joins every.inside k joined)

end IR.Node

namespace Dialect

open IR IR.Node

variable {Q : Node → Prop}

/-! ## Members -/

mutual

theorem withoutBlocks_every {p : Node → Bool} (rebuilds : Rebuilds Q (withoutBlocks p)) :
    ∀ {n : Node}, n.Every Q → (withoutBlocks p n).Every Q
  | .absent, every => every
  | .node _ _, every =>
    .intro _ (rebuilds _ _ every.self) (withoutBlocksIn_every rebuilds _ every.inside)

theorem withoutBlocksIn_every {p : Node → Bool} (rebuilds : Rebuilds Q (withoutBlocks p))
    (tokensOnly : Bool) :
    ∀ {ns : List Node}, EveryIn Q ns → EveryIn Q (withoutBlocksIn p tokensOnly ns)
  | [], _ => EveryIn.nil
  | n :: ns, every => by
    unfold withoutBlocksIn
    split
    · exact withoutBlocksIn_every rebuilds tokensOnly every.tail
    · exact .cons (withoutBlocks_every rebuilds every.head)
        (withoutBlocksIn_every rebuilds tokensOnly every.tail)

end

/-- The blocks of directives are parts of the document. -/
theorem blocks_every {ns : List Node} (every : EveryIn Q ns) (p : Node → Bool) :
    EveryIn Q (((preorderAll ns).filter p).flatMap Node.block) := by
  apply EveryIn.flatMap
  intro n among
  have inside := (Every.of_mem_preorderAll every n (List.mem_filter.mp among).1).inside
  exact EveryIn.filter inside _

/-! ## Sections -/

mutual

theorem withoutSections_every (rebuilds : Rebuilds Q withoutSections) :
    ∀ {n : Node}, n.Every Q → (withoutSections n).Every Q
  | .absent, every => every
  | .node _ _, every =>
    .intro _ (rebuilds _ _ every.self) (withoutSectionsIn_every rebuilds every.inside)

theorem withoutSectionsIn_every (rebuilds : Rebuilds Q withoutSections) :
    ∀ {ns : List Node}, EveryIn Q ns → EveryIn Q (withoutSectionsIn ns)
  | [], _ => EveryIn.nil
  | n :: ns, every => by
    unfold withoutSectionsIn
    split
    · exact withoutSectionsIn_every rebuilds every.tail
    · exact .cons (withoutSections_every rebuilds every.head)
        (withoutSectionsIn_every rebuilds every.tail)

end

mutual

theorem outerSections_every : ∀ {n : Node}, n.Every Q → EveryIn Q (outerSections n)
  | .absent, _ => EveryIn.nil
  | .node head children, every => by
    unfold outerSections
    split
    · exact .single every
    · exact outerSectionsIn_every every.inside

theorem outerSectionsIn_every : ∀ {ns : List Node}, EveryIn Q ns → EveryIn Q (outerSectionsIn ns)
  | [], _ => EveryIn.nil
  | _ :: _, every => (outerSections_every every.head).append (outerSectionsIn_every every.tail)

end

/-- The sections that directives define have a property of heads. -/
def Defines (Q : Node → Prop) : Prop :=
  ∀ {n : Node}, Q n → ∀ children,
    Q (.node { content := .sectionDecl (sectionName n), span? := n.span?
               diagnostics := n.diagnostics } children)

/-- A node keeps a property when the sections inside it are defined. -/
def KeptAround (Q : Node → Prop) : Prop :=
  ∀ names head children, Q (.node head children) →
    Q (.node head (defineSectionsIn names children).1)

mutual

theorem defineSections_every (clears : Rebuilds Q withoutSections) (around : KeptAround Q)
    (defines : Defines Q) (names : List Text) :
    ∀ {n : Node}, n.Every Q → EveryIn Q (defineSections names n).1
  | .absent, every => .single every
  | .node head children, every => by
    have inside : EveryIn Q children := every.inside
    unfold defineSections
    dsimp only
    split
    · split
      · exact EveryIn.nil
      · apply EveryIn.single
        exact .intro _ (defines every.self _) (withoutSectionsIn_every clears (inside.filter _))
    · apply EveryIn.single
      exact .intro _ (around names head children every.self)
        (defineSectionsIn_every clears around defines names inside)

theorem defineSectionsIn_every (clears : Rebuilds Q withoutSections) (around : KeptAround Q)
    (defines : Defines Q) (names : List Text) :
    ∀ {ns : List Node}, EveryIn Q ns → EveryIn Q (defineSectionsIn names ns).1
  | [], _ => EveryIn.nil
  | _ :: _, every =>
    (defineSections_every clears around defines names every.head).append
      (defineSectionsIn_every clears around defines _ every.tail)

end

end Dialect

end TemplateCompiler
