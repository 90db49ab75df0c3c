import TemplateCompiler.Syntax.HelperBinding

/-!
# Trees with nothing left to bind

A tree is settled under some rules if no element of it is selected where it stands.  Tag helper
nodes are not looked into, so the elements that count are those around which there is no tag
helper.  The scope of such an element is the name of its parent and nothing else: it restricts no
children, and nothing is reported in it but by binding.

Binding settles a tree, and changes and reports nothing in a settled one.  Hence the trees that
binding leaves as they are are the settled ones, and binding a second time is of no effect.
-/

namespace TemplateCompiler

namespace Syntax

namespace HelperRules

variable (r : HelperRules)

mutual

/-- Whether nothing is selected in a node around which there is an element of a name. -/
def isSettled (around : Text) : Node → Bool
  | .element _ tag _ body =>
    (r.bind? { tagName := around } tag).isNone && areSettled tag.name body
  | .directive _ _ body => areSettled [] body
  | _ => true

def areSettled (around : Text) : List Node → Bool
  | [] => true
  | n :: ns => isSettled around n && areSettled around ns

end

/-! ## A scope that restricts no children -/

variable {r} (around : Text)

theorem checkChild_unrestricted (tag : StartTag) : r.checkChild { tagName := around } tag = [] := by
  simp [checkChild]

theorem checkText_unrestricted (span : Span) (text : Text) :
    checkText { tagName := around } span text = [] := by
  simp [checkText]

theorem checkComment_unrestricted (span : Span) :
    r.checkComment { tagName := around } span = [] := by
  simp [checkComment]

/-! ## Binding and settled nodes -/

mutual

/-- The body of an element that is not selected is bound in a scope of the same form, and that of
one that is selected disappears in a tag helper node. -/
theorem isSettled_bindNode (around : Text) :
    ∀ n : Node, r.isSettled around (r.bindNode { tagName := around } n).1 = true
  | .element span tag endTag? body => by
    have inside := areSettled_bindNodes tag.name body
    unfold bindNode
    cases selected : r.bind? { tagName := around } tag with
    | none => simpa [isSettled, selected] using inside
    | some binding => simp [isSettled]
  | .directive span head body => by
    have inside := areSettled_bindNodes [] body
    simpa [bindNode, isSettled] using inside
  | .text .. | .markupComment .. | .transition _ | .expression .. | .codeBlock .. | .comment ..
  | .helper .. => by simp [bindNode, isSettled]

theorem areSettled_bindNodes (around : Text) :
    ∀ ns : List Node, r.areSettled around (r.bindNodes { tagName := around } ns).1 = true
  | [] => by simp [bindNodes, areSettled]
  | n :: ns => by
    have first := isSettled_bindNode around n
    have rest := areSettled_bindNodes around ns
    simp [bindNodes, areSettled, first, rest]

end

mutual

theorem bindNode_of_isSettled (around : Text) :
    ∀ n : Node, r.isSettled around n = true → r.bindNode { tagName := around } n = (n, [])
  | .element span tag endTag? body, settled => by
    simp only [isSettled, Bool.and_eq_true, Option.isNone_iff_eq_none] at settled
    have inside := bindNodes_of_areSettled tag.name body settled.2
    simp [bindNode, settled.1, inside, checkChild_unrestricted]
  | .directive span head body, settled => by
    have inside := bindNodes_of_areSettled [] body (by simpa [isSettled] using settled)
    simp [bindNode, inside]
  | .text span text, _ => by simp [bindNode, checkText_unrestricted]
  | .markupComment span text, _ => by simp [bindNode, checkComment_unrestricted]
  | .transition _, _ | .expression .., _ | .codeBlock .., _ | .comment .., _ | .helper .., _ => by
    simp [bindNode]

theorem bindNodes_of_areSettled (around : Text) :
    ∀ ns : List Node, r.areSettled around ns = true →
      r.bindNodes { tagName := around } ns = (ns, [])
  | [], _ => by simp [bindNodes]
  | n :: ns, settled => by
    simp only [areSettled, Bool.and_eq_true] at settled
    have first := bindNode_of_isSettled around n settled.1
    have rest := bindNodes_of_areSettled around ns settled.2
    simp [bindNodes, first, rest]

end

end HelperRules

/-! ## Trees -/

namespace Tree

/-- Whether a binder selects nothing in a tree. -/
def isSettled (t : Tree) (binder : Binder) : Bool :=
  binder.helpers.isEmpty || HelperRules.areSettled ⟨binder, t.options.features⟩ [] t.body

theorem isSettled_bindHelpers (t : Tree) (binder : Binder) :
    (t.bindHelpers binder).isSettled binder = true := by
  unfold bindHelpers
  split
  case isTrue without => simp [isSettled, without]
  case isFalse =>
    have settled := HelperRules.areSettled_bindNodes (r := ⟨binder, t.options.features⟩) [] t.body
    simp [isSettled, settled]

theorem bindHelpers_of_isSettled {t : Tree} {binder : Binder}
    (settled : t.isSettled binder = true) : t.bindHelpers binder = t := by
  unfold bindHelpers
  split
  case isTrue => rfl
  case isFalse given =>
    have same : HelperRules.bindNodes ⟨binder, t.options.features⟩ {} t.body = (t.body, []) := by
      apply HelperRules.bindNodes_of_areSettled
      simpa [isSettled, given] using settled
    simp [same]

/-- Binding a tree that is bound changes no node and adds no finding.  The trees that binding
leaves as they are are those in which nothing is selected. -/
theorem bindHelpers_twice (t : Tree) (binder : Binder) :
    (t.bindHelpers binder).bindHelpers binder = t.bindHelpers binder
      ∧ (t.bindHelpers binder = t ↔ t.isSettled binder = true) := by
  refine ⟨bindHelpers_of_isSettled (isSettled_bindHelpers t binder), ?_, bindHelpers_of_isSettled⟩
  intro same
  rw [← same]
  exact isSettled_bindHelpers t binder

end Tree

end Syntax

end TemplateCompiler
