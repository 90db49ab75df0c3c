import Mathlib.Data.List.Chain
import TemplateCompiler.Proofs.FirstNode
import TemplateCompiler.Proofs.OptimizedFindings
import TemplateCompiler.Proofs.ProjectEngine

/-!
# Optimizing a document again

Each of the four optimizations leaves a document alone that it has already changed.  For each there
is a normal form: no directive is left, no two pieces of markup stand next to each other, the body of
the primary method is dropped, and the tag helpers in use have their fields.  A change leads to its
normal form, and leaves a document in normal form as it is.

The normal forms of removing, of joining and of dropping outlast the changes that follow.  That of
declaring fields does not: a primary class may be removed with the directive that holds it, or with
the method, and the fields with it.  What a second round of all four does is therefore to declare
fields, and nothing else.

Nothing is assumed about the tree.
-/

namespace TemplateCompiler

namespace IR

namespace Node

/-! ## Removing directives -/

/-- No directive is among some nodes or inside of them. -/
def AllCleared (ns : List Node) : Prop := EveryIn (fun n => n.isDirective = false) ns

theorem isDirective_byHead : ByHead isDirective := by
  intro head children others
  rcases head with ⟨content, span?, diagnostics, label?⟩
  cases content <;> rfl

theorem cleared_ofHead : OfHead fun n => n.isDirective = false :=
  fun others cleared => (isDirective_byHead _ others _).trans cleared

mutual

theorem dropDirectives_cleared : ∀ n : Node, n.isDirective = false →
    n.dropDirectives.Every fun m => m.isDirective = false
  | .absent, cleared => .intro .absent cleared EveryIn.nil
  | .node head children, cleared =>
    .intro (.node head (dropDirectivesAll children)) (cleared_ofHead _ cleared)
      (dropDirectivesAll_cleared children)

/-- Removing directives leaves none. -/
theorem dropDirectivesAll_cleared : ∀ ns : List Node, AllCleared (dropDirectivesAll ns)
  | [] => EveryIn.nil
  | n :: ns => by
    unfold dropDirectivesAll
    split
    · exact dropDirectivesAll_cleared ns
    · next other =>
      exact .cons (dropDirectives_cleared n (Bool.eq_false_iff.mpr other))
        (dropDirectivesAll_cleared ns)

end

mutual

theorem dropDirectives_of_cleared :
    ∀ {n : Node}, n.Every (fun m => m.isDirective = false) → n.dropDirectives = n
  | .absent, _ => rfl
  | .node head _, cleared =>
    congrArg (node head) (dropDirectivesAll_of_cleared cleared.inside)

/-- Where no directive is, none is removed. -/
theorem dropDirectivesAll_of_cleared : ∀ {ns : List Node}, AllCleared ns → dropDirectivesAll ns = ns
  | [], _ => rfl
  | n :: ns, cleared => by
    unfold dropDirectivesAll
    rw [cleared.head.self, dropDirectives_of_cleared cleared.head,
      dropDirectivesAll_of_cleared cleared.tail]
    rfl

end

/-! ## Joining markup -/

def Apart (a b : Node) : Prop := joinMarkup? a b = none

/-- No two neighbours among some nodes are joined. -/
def AllApart (ns : List Node) : Prop := ns.IsChain Apart

/-- No two neighbours are joined among the children of a node. -/
def ChildrenApart (n : Node) : Prop := AllApart n.children

/-- No two neighbours are joined anywhere in some trees, so that joining markup in them once more
changes nothing. -/
structure AllMerged (ns : List Node) : Prop where
  apart : AllApart ns
  inside : EveryIn ChildrenApart ns

def isMarkup : Node → Bool
  | node { content := .markup, .. } _ => true
  | _ => false

theorem isMarkup_byHead : ByHead isMarkup := by
  intro head children others
  rcases head with ⟨content, span?, diagnostics, label?⟩
  cases content <;> rfl

/-- Two pieces of markup are joined, and nothing else is. -/
theorem apart_iff {a b : Node} : Apart a b ↔ (a.isMarkup && b.isMarkup) = false := by
  unfold Apart
  rcases a with - | ⟨⟨content, _, _, _⟩, _⟩
  · exact ⟨fun _ => rfl, fun _ => rfl⟩
  rcases b with - | ⟨⟨other, _, _, _⟩, _⟩
  · cases content <;> exact ⟨fun _ => rfl, fun _ => rfl⟩
  cases content with
  | markup =>
    cases other with
    | markup => exact ⟨nofun, nofun⟩
    | _ => exact ⟨fun _ => rfl, fun _ => rfl⟩
  | _ => exact ⟨fun _ => rfl, fun _ => rfl⟩

/-- Which neighbours are joined depends on which nodes are markup. -/
theorem allApart_congr {ns ms : List Node} (same : ns.map isMarkup = ms.map isMarkup) :
    AllApart ns ↔ AllApart ms := by
  have marks : ∀ ks : List Node, AllApart ks ↔
      (ks.map isMarkup).IsChain fun a b => (a && b) = false := by
    intro ks
    have pointwise : Apart = fun a b => (a.isMarkup && b.isMarkup) = false := by
      funext a b
      exact propext apart_iff
    rw [List.isChain_map, AllApart, pointwise]
  rw [marks, marks, same]

theorem joinRuns_apart (ns : List Node) :
    ∀ first : Node, AllApart (joinRuns first ns) ∧
      ∃ start rest, joinRuns first ns = start :: rest ∧ start.isMarkup = first.isMarkup := by
  induction ns with
  | nil =>
    intro first
    exact ⟨List.isChain_singleton first, first, [], rfl, rfl⟩
  | cons n ns ih =>
    intro first
    unfold joinRuns
    split
    · next joined found =>
      rcases ih joined with ⟨apart, start, rest, same, mark⟩
      refine ⟨apart, start, rest, same, mark.trans ?_⟩
      unfold joinMarkup? at found
      split at found
      · cases found
        rfl
      · cases found
    · next none =>
      rcases ih n with ⟨apart, start, rest, same, mark⟩
      rw [same] at apart ⊢
      refine ⟨List.isChain_cons_cons.mpr ⟨?_, apart⟩, first, _, rfl, rfl⟩
      rw [apart_iff, mark]
      exact apart_iff.mp none

theorem joinSiblings_apart (ns : List Node) : AllApart (joinSiblings ns) := by
  cases ns with
  | nil => exact List.isChain_nil
  | cons n ns => exact (joinRuns_apart ns n).1

theorem joinRuns_of_apart {ns : List Node} :
    ∀ {first : Node}, AllApart (first :: ns) → joinRuns first ns = first :: ns := by
  induction ns with
  | nil => exact fun _ => rfl
  | cons n ns ih =>
    intro first apart
    rcases List.isChain_cons_cons.mp apart with ⟨none, rest⟩
    unfold joinRuns
    rw [none]
    exact congrArg (first :: ·) (ih rest)

theorem joinSiblings_of_apart {ns : List Node} (apart : AllApart ns) : joinSiblings ns = ns := by
  cases ns with
  | nil => rfl
  | cons n ns => exact joinRuns_of_apart apart

/-! Joined nodes are no higher than the highest of those that were joined. -/

theorem heightAll_append (ns ms : List Node) :
    heightAll (ns ++ ms) = max (heightAll ns) (heightAll ms) := by
  induction ns with
  | nil => exact (Nat.zero_max _).symm
  | cons n ns ih =>
    change max (height n) (heightAll (ns ++ ms)) = _
    rw [ih, ← Nat.max_assoc]
    rfl

theorem height_le_heightAll {ns : List Node} {n : Node} (member : n ∈ ns) :
    n.height ≤ heightAll ns := by
  induction ns with
  | nil => cases member
  | cons m ns ih =>
    unfold heightAll
    rcases List.mem_cons.mp member with rfl | behind
    · exact Nat.le_max_left _ _
    · exact Nat.le_trans (ih behind) (Nat.le_max_right _ _)

theorem height_of_joinMarkup? {a b joined : Node} (found : joinMarkup? a b = some joined) :
    joined.height = max a.height b.height := by
  unfold joinMarkup? at found
  split at found
  · cases found
    simp only [height, heightAll_append]
    omega
  · cases found

theorem heightAll_joinRuns (ns : List Node) :
    ∀ first : Node, heightAll (joinRuns first ns) = heightAll (first :: ns) := by
  induction ns with
  | nil => exact fun _ => rfl
  | cons n ns ih =>
    intro first
    unfold joinRuns
    split
    · next joined found =>
      rw [ih]
      simp only [heightAll, height_of_joinMarkup? found]
      omega
    · simp only [heightAll, ih]

theorem heightAll_joinSiblings (ns : List Node) : heightAll (joinSiblings ns) = heightAll ns := by
  cases ns with
  | nil => rfl
  | cons n ns => exact heightAll_joinRuns ns n

theorem isMarkup_mergeLevels (levels : Nat) (n : Node) :
    (mergeLevels levels n).isMarkup = n.isMarkup := by
  rcases levels with - | levels
  · rfl
  rcases n with - | ⟨head, children⟩
  · rfl
  · exact isMarkup_byHead head _ children

theorem apart_map_mergeLevels (levels : Nat) {ns : List Node} (apart : AllApart ns) :
    AllApart (ns.map (mergeLevels levels)) := by
  refine (allApart_congr ?_).mpr apart
  rw [List.map_map]
  exact List.map_congr_left fun n _ => isMarkup_mergeLevels levels n

/-- On as many levels as a tree has, neighbours are joined everywhere. -/
theorem mergeLevels_merged (levels : Nat) :
    ∀ n : Node, n.height ≤ levels → (mergeLevels levels n).Every ChildrenApart := by
  induction levels with
  | zero =>
    intro n low
    cases n <;> simp [height] at low
  | succ levels ih =>
    intro n low
    cases n with
    | absent => exact .intro _ List.isChain_nil EveryIn.nil
    | node head children =>
      apply Every.intro _ (apart_map_mergeLevels levels (joinSiblings_apart children))
      apply EveryIn.map
      intro m member
      apply ih
      have below := height_le_heightAll member
      rw [heightAll_joinSiblings] at below
      unfold height at low
      omega

/-- Where no neighbours are left to be joined, nothing is joined on any level. -/
theorem mergeLevels_of_merged (levels : Nat) :
    ∀ {n : Node}, n.Every ChildrenApart → mergeLevels levels n = n := by
  induction levels with
  | zero => exact fun _ => rfl
  | succ levels ih =>
    intro n merged
    cases n with
    | absent => rfl
    | node head children =>
      have apart : AllApart children := merged.self
      have same : children.map (mergeLevels levels) = children :=
        (List.map_congr_left fun m member => ih (merged.inside m member)).trans (List.map_id' _)
      rw [mergeLevels, joinSiblings_of_apart apart, same]

theorem AllMerged.mergeSiblings (levels : Nat) {ns : List Node} (low : heightAll ns ≤ levels) :
    AllMerged ((joinSiblings ns).map (mergeLevels levels)) where
  apart := apart_map_mergeLevels levels (joinSiblings_apart ns)
  inside := by
    apply EveryIn.map
    intro n member
    apply mergeLevels_merged
    have below := height_le_heightAll member
    rw [heightAll_joinSiblings] at below
    exact Nat.le_trans below low

namespace First

variable {p : Node → Bool} {n m : Node} {fill : Node → List Node}

theorem map_isMarkup (first : First p n fill) (same : m.isMarkup = n.isMarkup) :
    (fill m).map isMarkup = (fill n).map isMarkup := by
  induction first with
  | here fits rest => exact congrArg (· :: rest.map isMarkup) same
  | behind t none first ih => exact congrArg (t.isMarkup :: ·) ih
  | inside head first outer rest ih => exact congrArg (· :: rest.map isMarkup) (isMarkup_byHead _ _ _)

/-- Another node in the place of the first one leaves nothing to be joined, if none of the two is
markup and nothing is to be joined inside of it. -/
theorem merged (first : First p n fill) (before : AllMerged (fill n))
    (same : m.isMarkup = n.isMarkup) (inner : m.Every ChildrenApart) : AllMerged (fill m) := by
  refine ⟨(allApart_congr (first.map_isMarkup same)).mpr before.apart, ?_⟩
  have every := before.inside
  clear before
  induction first with
  | here fits rest => exact .cons inner every.tail
  | behind t none first ih => exact .cons every.head (ih every.tail)
  | @inside head fill first outer rest ih =>
    have apart : AllApart (fill n) := every.head.self
    have self : ChildrenApart (node head (fill m)) :=
      (allApart_congr (first.map_isMarkup same)).mpr apart
    exact .cons (.intro _ self (ih every.head.inside)) every.tail

end First

end Node

namespace Document

open Node

/-! ## Normal forms -/

def IsCleared (d : Document) : Prop := AllCleared d.children

def IsMerged (d : Document) : Prop := AllMerged d.children

/-- The body of the primary method is dropped, if only declarations are wanted. -/
def IsDropped (d : Document) : Prop :=
  d.header.options.suppressBody = true → ∀ shape body, d.primaryMethod? = some (shape, body) →
    isBodyDropped shape body = true

/-- The tag helpers in use that need a field: those that are none of a component, and of those with
one digest the first. -/
def helpersInUse (d : Document) : List TagHelper :=
  TagHelperSet.distinctFrom []
    ((d.nodes.flatMap helpersOf).filter fun h => !TagHelper.isComponentKind h.kind)

/-- The primary class, if there is one, has a field for each tag helper in use. -/
def HasHelperFields (d : Document) : Prop :=
  ∀ shape members, d.primaryClass? = some (shape, members) →
    ∀ h ∈ d.helpersInUse,
      helperFieldName (helperType h) ∈ (preorderAll members).filterMap fieldName?

variable {d : Document}

/-! ## Removing and joining -/

theorem isCleared_removeDirectives (d : Document) : d.removeDirectives.IsCleared :=
  dropDirectivesAll_cleared d.children

theorem removeDirectives_of_isCleared (cleared : d.IsCleared) : d.removeDirectives = d := by
  have none : d.nodes.filter Node.isDirective = [] := by
    apply List.filter_eq_nil_iff.mpr
    intro n member
    rw [(Every.of_mem_preorderAll cleared n member).self]
    exact Bool.false_ne_true
  unfold removeDirectives report
  rw [none, dropDirectivesAll_of_cleared cleared, List.flatMap_nil, List.append_nil]

theorem children_mergeMarkup (d : Document) :
    d.mergeMarkup.children =
      (joinSiblings d.children).map (mergeLevels (heightAll d.children)) := rfl

theorem isMerged_mergeMarkup (d : Document) : d.mergeMarkup.IsMerged := by
  unfold IsMerged
  rw [children_mergeMarkup]
  exact AllMerged.mergeSiblings _ (Nat.le_refl _)

theorem mergeMarkup_of_isMerged (merged : d.IsMerged) : d.mergeMarkup = d := by
  have children : d.mergeMarkup.children = d.children := by
    rw [children_mergeMarkup, joinSiblings_of_apart merged.apart]
    exact (List.map_congr_left fun n member => mergeLevels_of_merged _ (merged.inside n member)).trans
      (List.map_id' _)
  change { d with children := d.mergeMarkup.children } = d
  rw [children]

theorem isCleared_mergeMarkup (cleared : d.IsCleared) : d.mergeMarkup.IsCleared := by
  unfold IsCleared
  rw [children_mergeMarkup]
  apply EveryIn.map
  intro n member
  have joins : Joins fun n => n.isDirective = false := fun _ _ _ => rfl
  exact mergeLevels_every (fun _ _ _ => cleared_ofHead _) joins _
    (joinSiblings_every joins cleared n member)

/-! ## Dropping the primary method's body -/

theorem isPrimaryMethod_byHead : ByHead isPrimaryMethod := by
  intro head children others
  rcases head with ⟨content, span?, diagnostics, label?⟩
  cases content <;> rfl

/-- Only primary methods answer to the question for the primary method. -/
theorem unanswered_of_not_isPrimaryMethod {n : Node} (other : isPrimaryMethod n = false) :
    (match n with
      | .node { content := .methodDecl shape, .. } body =>
        if shape.isPrimary then some (shape, body) else none
      | _ => none) = none := by
  rcases n with - | ⟨⟨content, _, _, _⟩, inner⟩
  · rfl
  · cases content <;> first | rfl | exact if_neg (Bool.eq_false_iff.mp other)

/-- What a document says of its first primary method is said by that method. -/
theorem primaryMethod?_of_first {n : Node} {fill : Node → List Node}
    (first : First isPrimaryMethod n fill) {head : Head} {shape : MethodShape} {body : List Node}
    (content : head.content = .methodDecl shape) (primary : shape.isPrimary = true)
    (children : d.children = fill (.node head body)) : d.primaryMethod? = some (shape, body) := by
  rcases head with ⟨_, span?, diagnostics, label?⟩
  cases content
  unfold primaryMethod? nodes
  rw [children]
  apply first.findSome? isPrimaryMethod_byHead
  · intro t other
    exact unanswered_of_not_isPrimaryMethod other
  · exact if_pos primary

theorem isBodyDropped_withoutBody (shape : MethodShape) (modifiers : List Text) :
    isBodyDropped { shape with modifiers } (if shape.returnType == "void" then []
      else [Node.synthetic .statement [.codeToken completedTask]]) = true := by
  unfold isBodyDropped
  split
  · rfl
  · decide

theorem dropBody_of_isDropped (dropped : d.IsDropped) : d.dropBody = d := by
  unfold dropBody
  split
  · rfl
  · next suppressed =>
    have wanted : d.header.options.suppressBody = true := by simpa using suppressed
    split
    · next shape body _ found => rw [if_pos (dropped wanted shape body found)]
    · rfl

/-- A body that is not dropped yet is dropped, with what was found in the method reported. -/
theorem dropBody_of_not_isDropped (kept : ¬ d.IsDropped) :
    ∃ method, d.nodes.find? isPrimaryMethod = some method
      ∧ d.dropBody = (d.report method.allDiagnostics).changeMethod
          fun head shape _ => withoutBody head shape := by
  simp only [IsDropped, not_forall] at kept
  rcases kept with ⟨suppressed, shape, body, found, undropped⟩
  cases method : d.nodes.find? isPrimaryMethod with
  | none =>
    rcases List.exists_of_findSome?_eq_some found with ⟨t, member, answers⟩
    have unfit := List.find?_eq_none.mp method t member
    have unanswered := unanswered_of_not_isPrimaryMethod (Bool.eq_false_iff.mpr unfit)
    cases answers.symm.trans unanswered
  | some m =>
    refine ⟨m, rfl, ?_⟩
    rw [dropBody, suppressed, method, found]
    exact if_neg undropped

/-- A body is dropped where the first primary method is, unless none is to be dropped. -/
theorem dropBody_cases (d : Document) :
    (d.IsDropped ∧ d.dropBody = d) ∨
      ∃ head shape body fill, First isPrimaryMethod (.node head body) fill
        ∧ head.content = .methodDecl shape ∧ d.children = fill (.node head body)
        ∧ d.dropBody = { d.report (Node.node head body).allDiagnostics with
            children := fill (withoutBody head shape) } := by
  by_cases dropped : d.IsDropped
  · exact .inl ⟨dropped, dropBody_of_isDropped dropped⟩
  · right
    rcases dropBody_of_not_isDropped dropped with ⟨m, method, changed⟩
    rcases changeMethod_eq (d.report m.allDiagnostics) (fun head shape _ => withoutBody head shape)
      with ⟨f, changedFirst, isMethod⟩
    rcases changeFirst_cases (d.report m.allDiagnostics) isPrimaryMethod f with
      ⟨none, -⟩ | ⟨n, fill, first, before, after⟩
    · rw [show (d.report m.allDiagnostics).nodes = d.nodes from rfl, method] at none
      cases none
    · have same : m = n := by
        have own := first.find? isPrimaryMethod_byHead first.fits
        rw [← before] at own
        exact Option.some.inj (method.symm.trans own)
      have fits := first.fits
      rcases n with - | ⟨⟨content, span?, diagnostics, label?⟩, inner⟩
      · cases fits
      · cases content with
        | methodDecl own =>
          refine ⟨_, own, inner, fill, first, rfl, before, ?_⟩
          rw [changed, changedFirst, after, isMethod _ own inner rfl, same]
        | _ => cases fits

theorem isDropped_dropBody (d : Document) : d.dropBody.IsDropped := by
  rcases dropBody_cases d with ⟨dropped, same⟩ | ⟨head, shape, body, fill, first, content, -, changed⟩
  · rw [same]
    exact dropped
  · have primary : shape.isPrimary = true := by
      have fits := first.fits
      rcases head with ⟨_, span?, diagnostics, label?⟩
      cases content
      exact fits
    have replaced : d.dropBody.primaryMethod? =
        some ({ shape with modifiers := shape.modifiers.filter (· != "async") },
          if shape.returnType == "void" then []
          else [Node.synthetic .statement [.codeToken completedTask]]) := by
      rw [changed]
      exact primaryMethod?_of_first first rfl primary rfl
    intro _ other remains found
    rw [replaced] at found
    cases found
    exact isBodyDropped_withoutBody shape _

/-- What is left of a method has what the method, a statement and a token have. -/
theorem withoutBody_every {Q : Node → Prop} {head : Head} {shape : MethodShape}
    (self : Q (withoutBody head shape))
    (statement : Q (.synthetic .statement [.codeToken completedTask]))
    (token : Q (.codeToken completedTask)) : (withoutBody head shape).Every Q := by
  apply Every.intro _ self
  change EveryIn Q (if shape.returnType == "void" then [] else _)
  split
  · exact EveryIn.nil
  · exact EveryIn.single (.intro _ statement (EveryIn.single (.intro _ token EveryIn.nil)))

theorem isCleared_dropBody (cleared : d.IsCleared) : d.dropBody.IsCleared := by
  rcases dropBody_cases d with ⟨-, same⟩ | ⟨head, shape, body, fill, first, -, before, changed⟩
  · rw [same]
    exact cleared
  · unfold IsCleared at cleared ⊢
    rw [before] at cleared
    rw [changed]
    exact first.every (fun _ _ _ => cleared_ofHead _) cleared (withoutBody_every rfl rfl rfl)

theorem isMerged_dropBody (merged : d.IsMerged) : d.dropBody.IsMerged := by
  rcases dropBody_cases d with ⟨-, same⟩ | ⟨head, shape, body, fill, first, content, before, changed⟩
  · rw [same]
    exact merged
  · have other : (Node.node head body).isMarkup = false := by
      rcases head with ⟨_, span?, diagnostics, label?⟩
      cases content
      rfl
    have self : ChildrenApart (withoutBody head shape) := by
      change AllApart (if shape.returnType == "void" then [] else _)
      split
      · exact List.isChain_nil
      · exact List.isChain_singleton _
    unfold IsMerged at merged ⊢
    rw [before] at merged
    rw [changed]
    exact first.merged merged other.symm
      (withoutBody_every self (List.isChain_singleton _) List.isChain_nil)

/-! ## Declaring fields -/

theorem isPrimaryClass_byHead : ByHead isPrimaryClass := by
  intro head children others
  rcases head with ⟨content, span?, diagnostics, label?⟩
  cases content <;> rfl

theorem helpersOf_byHead : ByHead helpersOf := by
  intro head children others
  rcases head with ⟨content, span?, diagnostics, label?⟩
  cases content <;> rfl

/-- Fields are declared in front of the members of the first primary class, unless there is none. -/
theorem declareHelpers_cases (d : Document) :
    (d.nodes.find? isPrimaryClass = none ∧ d.declareHelpers = d) ∨
      ∃ head shape members fill, First isPrimaryClass (.node head members) fill
        ∧ head.content = .classDecl shape ∧ d.children = fill (.node head members)
        ∧ d.declareHelpers = { d with children := fill (.node head
            (helperFields [] ((preorderAll members).filterMap fieldName?) (d.nodes.flatMap helpersOf)
              ++ members)) } := by
  unfold declareHelpers changeClass
  rcases changeFirst_cases d isPrimaryClass _ with ⟨none, same⟩ | ⟨n, fill, first, before, after⟩
  · exact .inl ⟨none, same⟩
  · have fits := first.fits
    rcases n with - | ⟨⟨content, span?, diagnostics, label?⟩, members⟩
    · cases fits
    · cases content with
      | classDecl shape => exact .inr ⟨_, shape, members, fill, first, rfl, before, after⟩
      | _ => cases fits

/-- The fields to declare for tag helpers that all need one, where some are declared. -/
def missingFields (declared : List Text) : List TagHelper → List Node
  | [] => []
  | h :: hs =>
    if declared.contains (helperFieldName (helperType h)) then missingFields declared hs
    else
      .synthetic (.field ["private"] ("global::" ++ helperType h)
        (helperFieldName (helperType h))) [] :: missingFields (helperFieldName (helperType h) :: declared) hs

/-- Which tag helpers need a field does not depend on the fields there are. -/
theorem helperFields_eq (hs : List TagHelper) :
    ∀ (seen : List Digest) (declared : List Text), helperFields seen declared hs =
      missingFields declared (TagHelperSet.distinctFrom seen
        (hs.filter fun h => !TagHelper.isComponentKind h.kind)) := by
  induction hs with
  | nil => exact fun _ _ => rfl
  | cons h hs ih =>
    intro seen declared
    unfold helperFields
    cases component : TagHelper.isComponentKind h.kind with
    | true => simp [component, ih]
    | false =>
      by_cases known : h.digest ∈ seen
      · simp [component, ih, TagHelperSet.distinctFrom, known]
      · simp [component, ih, TagHelperSet.distinctFrom, missingFields, known]

theorem missingFields_eq_nil_iff (hs : List TagHelper) (declared : List Text) :
    missingFields declared hs = [] ↔ ∀ h ∈ hs, helperFieldName (helperType h) ∈ declared := by
  induction hs with
  | nil => exact ⟨fun _ _ member => (List.not_mem_nil member).elim, fun _ => rfl⟩
  | cons h hs ih =>
    unfold missingFields
    rw [List.forall_mem_cons]
    by_cases known : helperFieldName (helperType h) ∈ declared
    · rw [if_pos (List.contains_iff_mem.mpr known), ih]
      exact ⟨fun rest => ⟨known, rest⟩, fun all => all.2⟩
    · rw [if_neg (fun present => known (List.contains_iff_mem.mp present))]
      exact ⟨nofun, fun all => absurd all.1 known⟩

/-- After the missing fields are declared, none is missing. -/
theorem declared_or_missing (hs : List TagHelper) :
    ∀ declared : List Text, ∀ h ∈ hs, helperFieldName (helperType h) ∈ declared ∨
      helperFieldName (helperType h) ∈ (missingFields declared hs).filterMap fieldName? := by
  induction hs with
  | nil => exact fun _ _ member => (List.not_mem_nil member).elim
  | cons k hs ih =>
    intro declared h member
    unfold missingFields
    by_cases known : helperFieldName (helperType k) ∈ declared
    · rw [if_pos (List.contains_iff_mem.mpr known)]
      rcases List.mem_cons.mp member with rfl | behind
      · exact .inl known
      · exact ih declared h behind
    · rw [if_neg (fun present => known (List.contains_iff_mem.mp present))]
      change _ ∨ _ ∈ helperFieldName (helperType k) :: _
      rw [List.mem_cons]
      rcases List.mem_cons.mp member with rfl | behind
      · exact .inr (.inl rfl)
      · rcases ih _ h behind with old | new
        · rcases List.mem_cons.mp old with same | before
          · exact .inr (.inl same)
          · exact .inl before
        · exact .inr (.inr new)

/-- Fields have nothing inside. -/
theorem preorderAll_missingFields (hs : List TagHelper) (declared : List Text) :
    preorderAll (missingFields declared hs) = missingFields declared hs := by
  induction hs generalizing declared with
  | nil => rfl
  | cons h hs ih =>
    unfold missingFields
    split
    · exact ih declared
    · exact congrArg (_ :: ·) (ih _)

theorem flatMap_helpersOf_missingFields (hs : List TagHelper) (declared : List Text) :
    (missingFields declared hs).flatMap helpersOf = [] := by
  induction hs generalizing declared with
  | nil => rfl
  | cons h hs ih =>
    unfold missingFields
    split
    · exact ih declared
    · exact ih _

/-- Only primary classes answer to the question for the primary class. -/
theorem unanswered_of_not_isPrimaryClass {n : Node} (other : isPrimaryClass n = false) :
    (match n with
      | .node { content := .classDecl shape, .. } members =>
        if shape.isPrimary then some (shape, members) else none
      | _ => none) = none := by
  rcases n with - | ⟨⟨content, _, _, _⟩, inner⟩
  · rfl
  · cases content <;> first | rfl | exact if_neg (Bool.eq_false_iff.mp other)

theorem primaryClass?_eq_none (none : d.nodes.find? isPrimaryClass = none) :
    d.primaryClass? = .none := by
  apply List.findSome?_eq_none_iff.mpr
  intro n member
  apply unanswered_of_not_isPrimaryClass
  simpa using List.find?_eq_none.mp none n member

/-- What a document says of its first primary class is said by that class. -/
theorem primaryClass?_of_first {n : Node} {fill : Node → List Node}
    (first : First isPrimaryClass n fill) {head : Head} {shape : ClassShape} {members : List Node}
    (content : head.content = .classDecl shape) (primary : shape.isPrimary = true)
    (children : d.children = fill (.node head members)) :
    d.primaryClass? = some (shape, members) := by
  rcases head with ⟨_, span?, diagnostics, label?⟩
  cases content
  unfold primaryClass? nodes
  rw [children]
  apply first.findSome? isPrimaryClass_byHead
  · intro t other
    exact unanswered_of_not_isPrimaryClass other
  · exact if_pos primary

theorem isPrimary_of_first {head : Head} {shape : ClassShape} {members : List Node}
    {fill : Node → List Node} (first : First isPrimaryClass (.node head members) fill)
    (content : head.content = .classDecl shape) : shape.isPrimary = true := by
  have fits := first.fits
  rcases head with ⟨_, span?, diagnostics, label?⟩
  cases content
  exact fits

/-- Declaring fields uses no tag helpers. -/
theorem helpersInUse_declareHelpers (d : Document) :
    d.declareHelpers.helpersInUse = d.helpersInUse := by
  rcases declareHelpers_cases d with ⟨-, same⟩ | ⟨head, shape, members, fill, first, -, before, after⟩
  · rw [same]
  · rcases first.flatMap helpersOf_byHead with ⟨front, back, split⟩
    have used : d.declareHelpers.nodes.flatMap helpersOf = d.nodes.flatMap helpersOf := by
      rw [after]
      unfold nodes
      dsimp only
      rw [before, split, split, preorder, preorder, List.flatMap_cons, List.flatMap_cons,
        preorderAll_append, List.flatMap_append, helperFields_eq, preorderAll_missingFields,
        flatMap_helpersOf_missingFields, helpersOf_byHead head _ members, List.nil_append]
    unfold helpersInUse
    rw [used]

/-- After declaring fields, the primary class has them. -/
theorem hasHelperFields_declareHelpers (d : Document) : d.declareHelpers.HasHelperFields := by
  have used := helpersInUse_declareHelpers d
  intro other members found h member
  rw [used] at member
  rcases declareHelpers_cases d with ⟨none, same⟩ | ⟨head, shape, old, fill, first, content, -, after⟩
  · rw [same, primaryClass?_eq_none none] at found
    cases found
  · have primary := isPrimary_of_first first content
    have replaced := primaryClass?_of_first (d := d.declareHelpers) first content primary
      (congrArg children after)
    rw [replaced] at found
    cases found
    rw [helperFields_eq, preorderAll_append, List.filterMap_append, preorderAll_missingFields,
      List.mem_append]
    exact (declared_or_missing d.helpersInUse _ h member).symm

/-- Declaring fields changes nothing exactly if the primary class has them. -/
theorem declareHelpers_eq_self_iff : d.declareHelpers = d ↔ d.HasHelperFields := by
  constructor
  · intro same
    rw [← same]
    exact hasHelperFields_declareHelpers d
  · intro declared
    rcases declareHelpers_cases d with ⟨-, same⟩ |
      ⟨head, shape, members, fill, first, content, before, after⟩
    · exact same
    · have found := primaryClass?_of_first first content (isPrimary_of_first first content) before
      have nothing : helperFields [] ((preorderAll members).filterMap fieldName?)
          (d.nodes.flatMap helpersOf) = [] := by
        rw [helperFields_eq, missingFields_eq_nil_iff]
        exact declared shape members found
      rw [after, nothing, List.nil_append, ← before]

/-! ## Normal forms outlast declaring fields -/

theorem missingFields_every {Q : Node → Prop}
    (field : ∀ typeName name, Q (.synthetic (.field ["private"] typeName name) []))
    (hs : List TagHelper) (declared : List Text) : EveryIn Q (missingFields declared hs) := by
  induction hs generalizing declared with
  | nil => exact EveryIn.nil
  | cons h hs ih =>
    unfold missingFields
    split
    · exact ih declared
    · exact .cons (.intro _ (field _ _) EveryIn.nil) (ih _)

theorem isCleared_declareHelpers (cleared : d.IsCleared) : d.declareHelpers.IsCleared := by
  rcases declareHelpers_cases d with ⟨-, same⟩ | ⟨head, shape, members, fill, first, -, before, after⟩
  · rw [same]
    exact cleared
  · unfold IsCleared at cleared ⊢
    rw [before] at cleared
    have own := first.every_self cleared
    rw [after, helperFields_eq]
    apply first.every (fun _ _ _ => cleared_ofHead _) cleared
    apply Every.intro _ (cleared_ofHead _ own.self)
    exact EveryIn.append (missingFields_every (fun _ _ => rfl) _ _) own.inside

theorem allApart_missingFields (hs : List TagHelper) (declared : List Text) {members : List Node}
    (apart : AllApart members) : AllApart (missingFields declared hs ++ members) := by
  induction hs generalizing declared with
  | nil => exact apart
  | cons h hs ih =>
    unfold missingFields
    split
    · exact ih declared
    · have rest := ih (helperFieldName (helperType h) :: declared)
      rw [List.cons_append]
      cases follows : missingFields (helperFieldName (helperType h) :: declared) hs ++ members with
      | nil => exact List.isChain_singleton _
      | cons n ns =>
        rw [follows] at rest
        exact List.isChain_cons_cons.mpr ⟨apart_iff.mpr rfl, rest⟩

theorem isMerged_declareHelpers (merged : d.IsMerged) : d.declareHelpers.IsMerged := by
  rcases declareHelpers_cases d with ⟨-, same⟩ | ⟨head, shape, members, fill, first, -, before, after⟩
  · rw [same]
    exact merged
  · unfold IsMerged at merged ⊢
    rw [before] at merged
    have own := first.every_self merged.inside
    rw [after, helperFields_eq]
    apply first.merged merged (isMarkup_byHead head _ members)
    apply Every.intro _ (allApart_missingFields _ _ own.self)
    exact EveryIn.append (missingFields_every (fun _ _ => List.isChain_nil) _ _) own.inside

theorem tokenText_byHead : ByHead tokenText := by
  intro head children others
  rcases head with ⟨content, span?, diagnostics, label?⟩
  cases content <;> rfl

/-- The texts of the tokens among some nodes do not depend on what is inside of the nodes. -/
theorem flatMap_tokenText_of_first {p : Node → Bool} {head : Head} {members others : List Node}
    {fill : Node → List Node} (first : First p (.node head members) fill) :
    (fill (.node head others)).flatMap tokenText = (fill (.node head members)).flatMap tokenText := by
  induction first with
  | here fits rest =>
    rw [List.flatMap_cons, List.flatMap_cons, tokenText_byHead head others members]
  | behind t none first ih => rw [List.flatMap_cons, List.flatMap_cons, ih]
  | @inside outside fill first outer rest ih =>
    rw [List.flatMap_cons, List.flatMap_cons,
      tokenText_byHead outside _ (fill (.node head members))]

theorem isCompletedTask_of_two (n m : Node) (ns : List Node) :
    isCompletedTask (n :: m :: ns) = false := by
  rcases n with - | ⟨⟨content, _, _, _⟩, inner⟩
  · rfl
  · cases content <;> rfl

/-- A body is no more and no less dropped for what is inside of a class in it. -/
theorem isBodyDropped_of_first {head : Head} {members others : List Node}
    {fill : Node → List Node} (first : First isPrimaryClass (.node head members) fill)
    (shape : MethodShape) :
    isBodyDropped shape (fill (.node head others)) =
      isBodyDropped shape (fill (.node head members)) := by
  have task : isCompletedTask (fill (.node head others)) =
      isCompletedTask (fill (.node head members)) := by
    cases first with
    | here fits rest =>
      rcases head with ⟨content, span?, diagnostics, label?⟩
      cases content with
      | classDecl => cases rest <;> rfl
      | _ => cases fits
    | @behind t none fill first =>
      cases left : fill (.node head others) with
      | nil => exact absurd left first.ne_nil
      | cons n ns =>
        cases right : fill (.node head members) with
        | nil => exact absurd right first.ne_nil
        | cons m ms =>
          dsimp only
          rw [left, right, isCompletedTask_of_two, isCompletedTask_of_two]
    | @inside outside fill first outer rest =>
      cases rest with
      | cons r rest => rw [isCompletedTask_of_two, isCompletedTask_of_two]
      | nil =>
        rcases outside with ⟨content, span?, diagnostics, label?⟩
        cases content with
        | statement =>
          change ((fill _).flatMap tokenText == _) = ((fill _).flatMap tokenText == _)
          rw [flatMap_tokenText_of_first first]
        | _ => rfl
  have empty : (fill (.node head others)).isEmpty = (fill (.node head members)).isEmpty := by
    rw [List.isEmpty_eq_false_iff.mpr first.ne_nil, List.isEmpty_eq_false_iff.mpr first.ne_nil]
  unfold isBodyDropped
  rw [task, empty]

/-- Whether a node is a primary method and, if so, whether its body is dropped. -/
def dropped? : Node → Option Bool
  | .node { content := .methodDecl shape, .. } body =>
    if shape.isPrimary then some (isBodyDropped shape body) else none
  | _ => none

theorem findSome?_dropped? (d : Document) :
    d.nodes.findSome? dropped? = d.primaryMethod?.map fun method =>
      isBodyDropped method.1 method.2 := by
  unfold primaryMethod?
  rw [List.map_findSome?]
  congr 1
  funext n
  rcases n with - | ⟨⟨content, _, _, _⟩, inner⟩
  · rfl
  · cases content with
    | methodDecl shape =>
      change (if shape.isPrimary then _ else _) = Option.map _ (if shape.isPrimary then _ else _)
      split <;> rfl
    | _ => rfl

theorem isDropped_iff : d.IsDropped ↔
    (d.header.options.suppressBody = true → d.nodes.findSome? dropped? ≠ some false) := by
  rw [findSome?_dropped?]
  unfold IsDropped
  cases found : d.primaryMethod? with
  | none => simp
  | some method =>
    rcases method with ⟨shape, body⟩
    simp

theorem isDropped_declareHelpers (dropped : d.IsDropped) : d.declareHelpers.IsDropped := by
  rcases declareHelpers_cases d with ⟨-, same⟩ |
    ⟨head, shape, members, fill, first, content, before, after⟩
  · rw [same]
    exact dropped
  · rw [isDropped_iff] at dropped ⊢
    have quiet : (missingFields ((preorderAll members).filterMap fieldName?) d.helpersInUse).findSome?
        dropped? = none := by
      apply List.findSome?_eq_none_iff.mpr
      intro n member
      exact (missingFields_every (Q := fun n => dropped? n = none) (fun _ _ => rfl) _ _ n member).self
    have answers : d.declareHelpers.nodes.findSome? dropped? = d.nodes.findSome? dropped? := by
      unfold nodes
      rw [after, before]
      apply first.findSome?_congr
      · intro outside inner within
        rcases outside with ⟨other, span?, diagnostics, label?⟩
        cases other with
        | methodDecl own =>
          change (if own.isPrimary then some (isBodyDropped own _) else none) =
            (if own.isPrimary then some (isBodyDropped own _) else none)
          rw [isBodyDropped_of_first within]
        | _ => rfl
      · have neither : ∀ inner, dropped? (.node head inner) = none := by
          intro inner
          rcases head with ⟨_, span?, diagnostics, label?⟩
          cases content
          rfl
        rw [preorder, preorder, List.findSome?_cons, List.findSome?_cons, neither, neither,
          preorderAll_append, List.findSome?_append, helperFields_eq, preorderAll_missingFields]
        dsimp only
        rw [← helpersInUse, quiet]
        rfl
    rw [answers, after]
    exact dropped

/-! ## Two rounds -/

theorem declareHelpers_declareHelpers (d : Document) :
    d.declareHelpers.declareHelpers = d.declareHelpers :=
  declareHelpers_eq_self_iff.mpr (hasHelperFields_declareHelpers d)

theorem removeDirectives_removeDirectives (d : Document) :
    d.removeDirectives.removeDirectives = d.removeDirectives :=
  removeDirectives_of_isCleared (isCleared_removeDirectives d)

theorem mergeMarkup_mergeMarkup (d : Document) : d.mergeMarkup.mergeMarkup = d.mergeMarkup :=
  mergeMarkup_of_isMerged (isMerged_mergeMarkup d)

theorem dropBody_dropBody (d : Document) : d.dropBody.dropBody = d.dropBody :=
  dropBody_of_isDropped (isDropped_dropBody d)

end Document

end IR

namespace ProjectEngine

open IR Document

/-- All four optimizations in their order. -/
theorem applied_optimizations (file? : Option Nat) (d : Document) :
    applied optimizations file? d =
      d.declareHelpers.removeDirectives.mergeMarkup.dropBody := rfl

/-- A document in the normal forms of the last three optimizations only has fields declared. -/
theorem applied_optimizations_of_normal (file? : Option Nat) {d : Document}
    (cleared : d.IsCleared) (merged : d.IsMerged) (dropped : d.IsDropped) :
    applied optimizations file? d = d.declareHelpers := by
  rw [applied_optimizations, removeDirectives_of_isCleared (isCleared_declareHelpers cleared),
    mergeMarkup_of_isMerged (isMerged_declareHelpers merged),
    dropBody_of_isDropped (isDropped_declareHelpers dropped)]

/-- Each optimization leaves a document alone that it has already changed.  All four, applied again,
declare fields in what they have made of a document and do nothing else.  They change nothing exactly
if the class that is then primary has a field for each tag helper that is still in use. -/
theorem optimized_twice (file? : Option Nat) (d : Document) :
    (∀ f ∈ optimizations, f file? (f file? d) = f file? d)
      ∧ applied optimizations file? (applied optimizations file? d) =
        (applied optimizations file? d).declareHelpers
      ∧ (applied optimizations file? (applied optimizations file? d) =
          applied optimizations file? d ↔ (applied optimizations file? d).HasHelperFields) := by
  have again : applied optimizations file? (applied optimizations file? d) =
      (applied optimizations file? d).declareHelpers := by
    apply applied_optimizations_of_normal
    · exact isCleared_dropBody (isCleared_mergeMarkup (isCleared_removeDirectives _))
    · exact isMerged_dropBody (isMerged_mergeMarkup _)
    · exact isDropped_dropBody _
  refine ⟨?_, again, ?_⟩
  · simp only [optimizations, List.forall_mem_cons, List.not_mem_nil, false_implies, implies_true,
      and_true]
    exact ⟨declareHelpers_declareHelpers d, removeDirectives_removeDirectives d,
      mergeMarkup_mergeMarkup d, dropBody_dropBody d⟩
  · rw [again]
    exact declareHelpers_eq_self_iff

/-- A field inside of a directive counts as declared, and goes with the directive. -/
theorem optimized_twice_hidden_field :
    let h := ({ kind := "ITagHelper", name := "T", assembly := "App"
                rules := [{ tagName := "t" }] } : TagHelper.Draft).build
    let d : Document :=
      { children :=
          [.synthetic (.classDecl { name := "C", isPrimary := true })
            [.synthetic (.directive "d" none)
              [.synthetic (.field ["private"] "global::T" "__T") []]],
           .synthetic (.helper "t" .startAndEnd [h]) []] }
    applied optimizations none (applied optimizations none d) ≠ applied optimizations none d := by
  intro h d same
  have counts : (applied optimizations none (applied optimizations none d)).nodes.length = 3
      ∧ (applied optimizations none d).nodes.length = 2 := by decide +kernel
  rw [same, counts.2] at counts
  cases counts.1

end ProjectEngine

end TemplateCompiler
