import TemplateCompiler.Proofs.RebuiltNodes

/-!
# The first node that satisfies a test

Several passes change one node of a document: the first one in pre-order that is a primary class,
or a primary method.  Such a change is described by the surroundings of the node, given as a
function that puts any node in its place.  Another node there leaves everything in front and behind
as it was, and of the nodes around it only the children.

Most of what is asked about the nodes of a tree depends on their heads.  In the surroundings of the
first node, the answers to such questions are therefore the same whatever is put in its place.
-/

namespace TemplateCompiler

namespace IR.Node

/-- A node is the first in some trees that satisfies a test; the trees are what the surroundings
make of the node. -/
inductive First (p : Node → Bool) (n : Node) : (Node → List Node) → Prop
  | here (fits : p n = true) (rest : List Node) : First p n (fun m => m :: rest)
  | behind (t : Node) (none : t.preorder.find? p = none) {fill : Node → List Node}
      (first : First p n fill) : First p n (fun m => t :: fill m)
  | inside (head : Head) {fill : Node → List Node} (first : First p n fill)
      (outer : p (node head (fill n)) = false) (rest : List Node) :
      First p n (fun m => node head (fill m) :: rest)

/-- A question about nodes that depends on their heads only. -/
def ByHead {α : Type} (g : Node → α) : Prop :=
  ∀ head children others, g (node head children) = g (node head others)

variable {p : Node → Bool} {f : Node → Node} {n m : Node} {fill : Node → List Node}

/-! ## Where a change takes place -/

mutual

theorem preorder_find?_of_changeFirst? :
    ∀ {t : Node}, changeFirst? p f t = none → t.preorder.find? p = none
  | .absent, unchanged => by
    unfold changeFirst? at unchanged
    split at unchanged
    · cases unchanged
    · next fits => simpa [preorder] using fits
  | .node head children, unchanged => by
    unfold changeFirst? at unchanged
    split at unchanged
    · cases unchanged
    · next fits =>
      have inside := preorderAll_find?_of_changeFirstIn? (Option.map_eq_none_iff.mp unchanged)
      unfold preorder
      rw [List.find?_cons, Bool.eq_false_iff.mpr fits]
      exact inside

theorem preorderAll_find?_of_changeFirstIn? :
    ∀ {ts : List Node}, changeFirstIn? p f ts = none → (preorderAll ts).find? p = none
  | [], _ => rfl
  | t :: ts, unchanged => by
    unfold changeFirstIn? at unchanged
    split at unchanged
    · cases unchanged
    · next first =>
      unfold preorderAll
      rw [List.find?_append, preorder_find?_of_changeFirst? first,
        preorderAll_find?_of_changeFirstIn? (Option.map_eq_none_iff.mp unchanged)]
      rfl

end

mutual

/-- A change takes place at the first node that satisfies the test. -/
theorem first_of_changeFirst? :
    ∀ {t u : Node}, changeFirst? p f t = some u → ∀ rest, ∃ n fill, First p n fill
      ∧ fill n = t :: rest ∧ fill (f n) = u :: rest
  | .absent, u, changed, rest => by
    unfold changeFirst? at changed
    split at changed
    · next fits =>
      cases changed
      exact ⟨.absent, _, .here fits rest, rfl, rfl⟩
    · cases changed
  | .node head children, u, changed, rest => by
    unfold changeFirst? at changed
    split at changed
    · next fits =>
      cases changed
      exact ⟨.node head children, _, .here fits rest, rfl, rfl⟩
    · next unfit =>
      rcases Option.map_eq_some_iff.mp changed with ⟨others, inner, rfl⟩
      rcases first_of_changeFirstIn? inner with ⟨n, fill, first, before, after⟩
      refine ⟨n, _, .inside head first ?_ rest, ?_, ?_⟩
      · rw [before]
        exact Bool.eq_false_iff.mpr unfit
      · rw [before]
      · rw [after]

theorem first_of_changeFirstIn? :
    ∀ {ts us : List Node}, changeFirstIn? p f ts = some us → ∃ n fill, First p n fill
      ∧ fill n = ts ∧ fill (f n) = us
  | [], us, changed => by cases changed
  | t :: ts, us, changed => by
    unfold changeFirstIn? at changed
    split at changed
    · next u here =>
      cases changed
      exact first_of_changeFirst? here ts
    · next unchanged =>
      rcases Option.map_eq_some_iff.mp changed with ⟨others, there, rfl⟩
      rcases first_of_changeFirstIn? there with ⟨n, fill, first, before, after⟩
      refine ⟨n, _, .behind t (preorder_find?_of_changeFirst? unchanged) first, ?_, ?_⟩
      · rw [before]
      · rw [after]

end

namespace First

theorem fits (first : First p n fill) : p n = true := by
  induction first with
  | here fits rest => exact fits
  | behind t none first ih => exact ih
  | inside head first outer rest ih => exact ih

theorem ne_nil (first : First p n fill) : fill m ≠ [] := by
  cases first <;> exact List.cons_ne_nil _ _

/-- What is put in the place of the first node is the first one there to answer a question that the
first node answers. -/
theorem findSome? {α : Type} {g : Node → Option α} {a : α} (first : First p n fill)
    (byHead : ByHead p) (only : ∀ t, p t = false → g t = none) (answer : g m = some a) :
    (preorderAll (fill m)).findSome? g = some a := by
  induction first with
  | here fits rest =>
    have own : m.preorder.findSome? g = some a := by
      cases m <;> rw [preorder, List.findSome?_cons, answer]
    rw [preorderAll, List.findSome?_append, own]
    rfl
  | behind t none first ih =>
    have quiet : t.preorder.findSome? g = Option.none := by
      apply List.findSome?_eq_none_iff.mpr
      intro k member
      exact only k (Bool.eq_false_iff.mpr (List.find?_eq_none.mp none k member))
    rw [preorderAll, List.findSome?_append, quiet]
    exact ih
  | @inside head fill first outer rest ih =>
    have quiet : g (node head (fill m)) = Option.none :=
      only _ ((byHead head _ _).trans outer)
    rw [preorderAll, preorder, List.findSome?_append, List.findSome?_cons, quiet]
    dsimp only
    rw [ih]
    rfl

/-- What is put in the place of the first node is the first one there to satisfy the test. -/
theorem find? (first : First p n fill) (byHead : ByHead p) (fits : p m = true) :
    (preorderAll (fill m)).find? p = some m := by
  rw [List.find?_eq_findSome?_guard]
  apply first.findSome? byHead
  · intro t unfit
    exact if_neg (Bool.eq_false_iff.mp unfit)
  · exact if_pos fits

/-- The first answer to a question is the same whatever is put in the place of a node, if neither
the nodes around it nor what is inside of it answer differently. -/
theorem findSome?_congr {α : Type} {g : Node → Option α} (first : First p n fill)
    (around : ∀ head {inner : Node → List Node}, First p n inner →
      g (node head (inner m)) = g (node head (inner n)))
    (own : m.preorder.findSome? g = n.preorder.findSome? g) :
    (preorderAll (fill m)).findSome? g = (preorderAll (fill n)).findSome? g := by
  induction first with
  | here fits rest => rw [preorderAll, preorderAll, List.findSome?_append, List.findSome?_append, own]
  | behind t none first ih =>
    rw [preorderAll, preorderAll, List.findSome?_append, List.findSome?_append, ih]
  | inside head first outer rest ih =>
    rw [preorderAll, preorderAll, List.findSome?_append, List.findSome?_append, preorder, preorder,
      List.findSome?_cons, List.findSome?_cons, around head first, ih]

/-- What nodes have by their heads, collected in pre-order. -/
theorem flatMap {α : Type} {g : Node → List α} (first : First p n fill) (byHead : ByHead g) :
    ∃ front back, ∀ m, (preorderAll (fill m)).flatMap g =
      front ++ m.preorder.flatMap g ++ back := by
  induction first with
  | here fits rest =>
    refine ⟨[], (preorderAll rest).flatMap g, fun m => ?_⟩
    rw [preorderAll, List.flatMap_append]
    rfl
  | behind t none first ih =>
    rcases ih with ⟨front, back, split⟩
    refine ⟨t.preorder.flatMap g ++ front, back, fun m => ?_⟩
    rw [preorderAll, List.flatMap_append, split, List.append_assoc, List.append_assoc,
      List.append_assoc]
  | @inside head fill first outer rest ih =>
    rcases ih with ⟨front, back, split⟩
    refine ⟨g (node head []) ++ front, back ++ (preorderAll rest).flatMap g, fun m => ?_⟩
    rw [preorderAll, preorder, List.flatMap_append, List.flatMap_cons, split,
      byHead head (fill m) []]
    simp only [List.append_assoc]

/-- A property holds everywhere if it holds of what is put in, and the nodes around keep it. -/
theorem every {Q : Node → Prop} (first : First p n fill)
    (around : ∀ head {inner : Node → List Node}, First p n inner →
      Q (node head (inner n)) → Q (node head (inner m)))
    (before : EveryIn Q (fill n)) (every : m.Every Q) : EveryIn Q (fill m) := by
  induction first with
  | here fits rest => exact .cons every before.tail
  | behind t none first ih => exact .cons before.head (ih before.tail)
  | inside head first outer rest ih =>
    have self := around head first before.head.self
    exact .cons (.intro _ self (ih before.head.inside)) before.tail

/-- The node itself has what all nodes have. -/
theorem every_self {Q : Node → Prop} (first : First p n fill) (before : EveryIn Q (fill n)) :
    n.Every Q := by
  induction first with
  | here fits rest => exact before.head
  | behind t none first ih => exact ih before.tail
  | inside head first outer rest ih => exact ih before.head.inside

end First

end IR.Node

namespace IR.Document

open Node

/-- A change of the first node that satisfies a test takes place there, unless there is none. -/
theorem changeFirst_cases (d : Document) (p : Node → Bool) (f : Node → Node) :
    (d.nodes.find? p = none ∧ d.changeFirst p f = d) ∨
      ∃ n fill, First p n fill ∧ d.children = fill n
        ∧ d.changeFirst p f = { d with children := fill (f n) } := by
  unfold changeFirst nodes
  cases changed : changeFirstIn? p f d.children with
  | none => exact .inl ⟨preorderAll_find?_of_changeFirstIn? changed, rfl⟩
  | some others =>
    rcases first_of_changeFirstIn? changed with ⟨n, fill, first, before, after⟩
    refine .inr ⟨n, fill, first, before.symm, ?_⟩
    rw [after]
    rfl

end IR.Document

end TemplateCompiler
