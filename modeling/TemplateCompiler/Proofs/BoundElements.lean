import Mathlib.Data.List.Induction
import TemplateCompiler.Proofs.LosslessParse
import TemplateCompiler.Proofs.PreparedTrees

/-!
# Which elements are bound

Binding walks a tree with a scope that changes from element to element.  Here the outcome is
described without a walk, node by node.  A path leads to a node by positions in bodies, and its
parent is found on the path without its last position.  Whether the element at a path is bound
depends on the element itself, on the name of its parent, and on what became of its parent.

What binding loses is described by entries: the nodes, attributes and parts of values of a tree in
the order of the text, each with the path of its node.  Only the entries of code in the place of an
attribute are lost, and only at elements that are bound.  Each such attribute is reported.

Trees that are read from a file have no nodes of tag helpers, which binding would leave alone.
-/

namespace TemplateCompiler

namespace Syntax

/-! ## Paths -/

namespace Node

def below? (n : Node) : List Nat → Option Node
  | [] => some n
  | i :: path => n.body[i]?.bind (below? · path)

/-- The node at a path of a list of trees.  The empty path leads to none. -/
def at? (ns : List Node) : List Nat → Option Node
  | [] => none
  | i :: path => ns[i]?.bind (below? · path)

theorem below?_snoc (path : List Nat) (i : Nat) :
    ∀ n : Node, n.below? (path ++ [i]) = (n.below? path).bind (·.body[i]?) := by
  induction path with
  | nil =>
    intro n
    simp [below?]
  | cons j path ih =>
    intro n
    simp [below?, ih, Option.bind_assoc]

theorem at?_snoc (ns : List Node) {path : List Nat} (inner : path ≠ []) (i : Nat) :
    at? ns (path ++ [i]) = (at? ns path).bind (·.body[i]?) := by
  cases path with
  | nil => exact absurd rfl inner
  | cons j path => simp [at?, below?_snoc, Option.bind_assoc]

theorem Every.descend {P : Node → Prop} (path : List Nat) :
    ∀ {n k : Node}, n.Every P → n.below? path = some k → k.Every P := by
  induction path with
  | nil =>
    intro n k every found
    cases found
    exact every
  | cons i path ih =>
    intro n k every found
    rcases Option.bind_eq_some_iff.mp found with ⟨child, member, inside⟩
    exact ih (every.inside child (List.mem_of_getElem? member)) inside

theorem Every.at {P : Node → Prop} {ns : List Node} {path : List Nat} {k : Node}
    (every : ∀ n ∈ ns, n.Every P) (found : at? ns path = some k) : k.Every P := by
  cases path with
  | nil => cases found
  | cons i path =>
    rcases Option.bind_eq_some_iff.mp found with ⟨n, member, inside⟩
    exact (every n (List.mem_of_getElem? member)).descend path inside

def elementName? : Node → Option Text
  | .element _ tag _ _ => some tag.name
  | _ => none

def binding? : Node → Option ElementBinding
  | .helper _ head _ => some head.binding
  | _ => none

end Node

/-! ## What becomes of a node -/

/-- A matched rule selects elements by their name, so that the element itself is one of a tag helper
and not merely one with attributes of tag helpers. -/
def selectsByName (b : ElementBinding) : Bool :=
  b.matched.any fun m => m.2.any fun rule => !rule.isCatchAll

/-- The name of the element around a path; empty outside of elements. -/
def nameAround (before : List Node) (path : List Nat) : Text :=
  ((Node.at? before path.dropLast).bind Node.elementName?).getD []

/-- Whether the element around a path was bound, and by its name. -/
def boundAround (after : List Node) (path : List Nat) : Bool :=
  ((Node.at? after path.dropLast).bind Node.binding?).any selectsByName

/-- The binding of an element that starts with a tag and stands at a path. -/
def bindingAt? (binder : Binder) (before after : List Node) (path : List Nat) (tag : StartTag) :
    Option ElementBinding :=
  if tag.optOut then none
  else
    binder.bind? tag.name (HelperRules.writtenAttributes tag.attributes) (nameAround before path)
      (boundAround after path)

/-- What becomes of a node, its body left aside: an element with a binding becomes a tag helper,
and everything else stays what it is. -/
def Node.Becomes (bind? : StartTag → Option ElementBinding) (n after : Node) : Prop :=
  match n with
  | .element span tag endTag? _ =>
    match bind? tag with
    | none => ∃ body, after = .element span tag endTag? body
    | some binding => ∃ head body, after = .helper span head body
        ∧ head.binding = binding ∧ head.name = tag.name ∧ head.startTag = tag.span
  | .directive span head _ => ∃ body, after = .directive span head body
  | _ => after = n

namespace HelperRules

variable {r : HelperRules}

theorem bindNodes_eq_map (r : HelperRules) (scope : Scope) (ns : List Node) :
    (r.bindNodes scope ns).1 = ns.map fun n => (r.bindNode scope n).1 := by
  induction ns with
  | nil => rfl
  | cons n ns ih => rw [bindNodes, List.map_cons, ← ih]

theorem isHelper_innerScope (tag : StartTag) (binding : ElementBinding) :
    (innerScope tag binding).isHelper = selectsByName binding := by
  simp [innerScope, ElementBinding.isAttributeMatch, selectsByName, List.not_all_eq_any_not]

theorem bindNode_becomes (r : HelperRules) (scope : Scope) (n : Node) :
    n.Becomes (r.bind? scope) (r.bindNode scope n).1 := by
  cases n with
  | element span tag endTag? body =>
    unfold Node.Becomes bindNode
    dsimp only
    cases r.bind? scope tag with
    | none => exact ⟨_, rfl⟩
    | some binding => exact ⟨_, _, rfl, rfl, rfl, rfl⟩
  | directive span head body => exact ⟨_, rfl⟩
  | text | markupComment | transition | expression | codeBlock | comment | helper => rfl

/-- The body of a node is bound in a scope that tells of the node before and after. -/
theorem body_bindNode (scope : Scope) {n : Node} (unbound : n.binding? = none) :
    ∃ inner : Scope, inner.tagName = n.elementName?.getD []
      ∧ inner.isHelper = (r.bindNode scope n).1.binding?.any selectsByName
      ∧ (r.bindNode scope n).1.body = (r.bindNodes inner n.body).1 := by
  cases n with
  | element span tag endTag? body =>
    unfold bindNode
    dsimp only
    cases r.bind? scope tag with
    | none => exact ⟨{ tagName := tag.name }, rfl, rfl, rfl⟩
    | some binding => exact ⟨innerScope tag binding, rfl, isHelper_innerScope tag binding, rfl⟩
  | directive span head body => exact ⟨{}, rfl, rfl, rfl⟩
  | helper => cases unbound
  | text | markupComment | transition | expression | codeBlock | comment =>
    exact ⟨{}, rfl, rfl, rfl⟩

/-- Every node of a bound tree is a node of the tree, bound in a scope that the path determines.
The induction takes the last position off the path, so that the parent is known first. -/
theorem at?_bindNodes {before : List Node}
    (unbound : ∀ n ∈ before, n.Every fun k => k.binding? = none) (path : List Nat) :
    ∃ scope : Scope, scope.tagName = nameAround before path
      ∧ scope.isHelper = boundAround (r.bindNodes {} before).1 path
      ∧ Node.at? (r.bindNodes {} before).1 path
        = (Node.at? before path).map fun n => (r.bindNode scope n).1 := by
  induction path using List.reverseRecOn with
  | nil => exact ⟨{}, rfl, rfl, rfl⟩
  | append_singleton path i ih =>
    by_cases outermost : path = []
    · subst outermost
      refine ⟨{}, rfl, rfl, ?_⟩
      simp [Node.at?, Node.below?, bindNodes_eq_map]
    · rcases ih with ⟨scope, -, -, parent⟩
      unfold nameAround boundAround
      rw [List.dropLast_concat, Node.at?_snoc _ outermost, Node.at?_snoc _ outermost, parent]
      cases found : Node.at? before path with
      | none => exact ⟨{}, rfl, rfl, rfl⟩
      | some n =>
        have plain : n.binding? = none := (Node.Every.at unbound found).self
        rcases body_bindNode (r := r) scope plain with ⟨inner, name, byName, body⟩
        refine ⟨inner, name, byName, ?_⟩
        simp [body, bindNodes_eq_map]

theorem bind?_eq_bindingAt? {before after : List Node} {path : List Nat} {scope : Scope}
    (name : scope.tagName = nameAround before path)
    (byName : scope.isHelper = boundAround after path) :
    r.bind? scope = bindingAt? r.binder before after path := by
  funext tag
  rw [bind?, bindingAt?, name, byName]

/-- At every path stands what binding makes of the node that stood there. -/
theorem bindNodes_becomes {before : List Node}
    (unbound : ∀ n ∈ before, n.Every fun k => k.binding? = none) (path : List Nat) :
    Option.Rel (Node.Becomes (bindingAt? r.binder before (r.bindNodes {} before).1 path))
      (Node.at? before path) (Node.at? (r.bindNodes {} before).1 path) := by
  rcases at?_bindNodes (r := r) unbound path with ⟨scope, name, byName, same⟩
  rw [same, ← bind?_eq_bindingAt? name byName]
  cases Node.at? before path with
  | none => exact .none
  | some n => exact .some (bindNode_becomes r scope n)

end HelperRules

/-! ## Entries -/

/-- What an entry stands for.  Attributes and parts of values are told apart by whether the
attribute is code in the place of one. -/
inductive Role where
  | node
  | attribute (code : Bool)
  | value (code : Bool)
  deriving DecidableEq

/-- Whether code in the place of an attribute is meant, or its value. -/
def Role.ofCode : Role → Bool
  | .node => false
  | .attribute code | .value code => code

/-- A node, or an attribute or a part of a value of the node at a path. -/
structure Entry where
  path : List Nat
  role : Role
  span : Span
  deriving DecidableEq

namespace Entry

/-- An attribute, and then the parts of its value. -/
def ofAttribute (path : List Nat) (code : Bool) (span : Span) (value : List ValuePart) :
    List Entry :=
  ⟨path, .attribute code, span⟩ :: value.map fun part => ⟨path, .value code, part.span⟩

def ofAttributes (path : List Nat) (attributes : List Attribute) : List Entry :=
  attributes.flatMap fun a => ofAttribute path a.isCode a.span a.value

/-- The attributes of a tag helper, none of which is code in the place of one. -/
def ofHelperAttributes (path : List Nat) (attributes : List HelperAttribute) : List Entry :=
  attributes.flatMap fun a => ofAttribute path false a.span a.value

mutual

/-- The entries of a tree at a path in the order of the text: a node comes before its attributes,
and these before its body. -/
def ofNode (path : List Nat) : Node → List Entry
  | .element span tag _ body =>
    ⟨path, .node, span⟩ :: (ofAttributes path tag.attributes ++ ofNodes path 0 body)
  | .helper span head body =>
    ⟨path, .node, span⟩ :: (ofHelperAttributes path head.attributes ++ ofNodes path 0 body)
  | .directive span _ body => ⟨path, .node, span⟩ :: ofNodes path 0 body
  | n => [⟨path, .node, n.span⟩]

/-- The entries of trees that follow each other below a path, the first at a position. -/
def ofNodes (path : List Nat) (i : Nat) : List Node → List Entry
  | [] => []
  | n :: ns => ofNode (path ++ [i]) n ++ ofNodes path (i + 1) ns

end

/-- Whether an entry is lost where the nodes at some paths become tag helpers. -/
def isLost (bound : List Nat → Bool) (e : Entry) : Bool := e.role.ofCode && bound e.path

end Entry

/-- Whether the node at a path is a tag helper. -/
def isBoundAt (after : List Node) (path : List Nat) : Bool :=
  ((Node.at? after path).bind Node.binding?).isSome

/-- No finding is about code in the place of an attribute. -/
def Elsewhere (found : List Diagnostic) : Prop := ∀ x ∈ found, x.code ≠ .codeInAttributeArea

/-- What a check of binding finds is something else. -/
theorem Elsewhere.of_within {found : List Diagnostic}
    (within : Diagnostic.Within DiagnosticCode.ofBinding found) : Elsewhere found := by
  have apart : ∀ code ∈ DiagnosticCode.ofBinding, code ≠ .codeInAttributeArea := by decide
  intro x member
  exact apart x.code (within x member)

theorem Elsewhere.append {found more : List Diagnostic} (first : Elsewhere found)
    (second : Elsewhere more) : Elsewhere (found ++ more) := by
  intro x member
  rcases List.mem_append.mp member with here | there
  · exact first x here
  · exact second x there

theorem Elsewhere.nil : Elsewhere [] := fun _ member => absurd member List.not_mem_nil

/-- What binding leaves of some entries and what it reports: the entries that are lost are missing,
and there is one report for each attribute among them. -/
structure Accounted (bound : List Nat → Bool) (before after : List Entry)
    (found : List Diagnostic) : Prop where
  kept : after = before.filter fun e => !e.isLost bound
  reported : found.countP (fun x => x.code == .codeInAttributeArea)
    = before.countP fun e => e.isLost bound && e.role == .attribute true

namespace Accounted

variable {bound : List Nat → Bool} {path : List Nat}

theorem append {before after before' after' : List Entry} {found found' : List Diagnostic}
    (first : Accounted bound before after found) (second : Accounted bound before' after' found') :
    Accounted bound (before ++ before') (after ++ after') (found ++ found') := by
  constructor
  · rw [first.kept, second.kept, List.filter_append]
  · rw [List.countP_append, List.countP_append, first.reported, second.reported]

/-- Nothing is lost, and what is found is something else. -/
theorem same {entries : List Entry} {found : List Diagnostic} (elsewhere : Elsewhere found)
    (none : ∀ e ∈ entries, e.isLost bound = false) : Accounted bound entries entries found := by
  constructor
  · symm
    simpa using none
  · have reports : found.countP (fun x => x.code == .codeInAttributeArea) = 0 := by
      simpa [Elsewhere] using elsewhere
    have lost : entries.countP (fun e => e.isLost bound && e.role == .attribute true) = 0 := by
      simp only [List.countP_eq_zero, Bool.and_eq_true, not_and]
      intro e member lost
      rw [none e member] at lost
      cases lost
    rw [reports, lost]

theorem ofNode {found : List Diagnostic} (elsewhere : Elsewhere found) (span : Span) :
    Accounted bound [⟨path, .node, span⟩] [⟨path, .node, span⟩] found := by
  apply same elsewhere
  simp [Entry.isLost, Role.ofCode]

/-- The attributes of an element that is not bound. -/
theorem ofAttributes (unbound : bound path = false) (attributes : List Attribute) :
    Accounted bound (Entry.ofAttributes path attributes) (Entry.ofAttributes path attributes) [] := by
  apply same .nil
  intro e member
  have place : e.path = path := by
    rcases List.mem_flatMap.mp member with ⟨a, -, inside⟩
    rcases List.mem_cons.mp inside with rfl | value
    · rfl
    · rcases List.mem_map.mp value with ⟨part, -, rfl⟩
      rfl
  simp [Entry.isLost, place, unbound]

/-- An attribute of an element that is bound, where it is not code. -/
theorem ofAttribute {found : List Diagnostic} (elsewhere : Elsewhere found) {a : Attribute}
    (written : a.isCode = false) :
    Accounted bound (Entry.ofAttribute path a.isCode a.span a.value)
      (Entry.ofAttribute path false a.span a.value) found := by
  rw [written]
  apply same elsewhere
  simp [Entry.ofAttribute, Entry.isLost, Role.ofCode]

/-- Code in the place of an attribute is lost with its value, and reported once. -/
theorem ofCode (isBound : bound path = true) {a : Attribute} (code : a.isCode = true)
    (message : Text) :
    Accounted bound (Entry.ofAttribute path a.isCode a.span a.value) []
      [.error .codeInAttributeArea a.span message] := by
  rw [code]
  constructor
  · simp [Entry.ofAttribute, Entry.isLost, Role.ofCode, isBound]
  · simp [Entry.ofAttribute, Entry.isLost, Role.ofCode, isBound, Diagnostic.error, List.countP_map]

end Accounted

namespace HelperRules

/-! ## What binding loses -/

variable (r : HelperRules) (tag : StartTag) (binding : ElementBinding) {bound : List Nat → Bool}

theorem bindAttributes_accounted {path : List Nat} (isBound : bound path = true)
    (attributes : List Attribute) :
    Accounted bound (Entry.ofAttributes path attributes)
      (Entry.ofHelperAttributes path (r.bindAttributes tag binding attributes).1)
      (r.bindAttributes tag binding attributes).2 := by
  induction attributes with
  | nil => exact .same .nil fun e member => absurd member List.not_mem_nil
  | cons a rest ih =>
    unfold bindAttributes
    cases code : a.isCode with
    | true => exact (Accounted.ofCode isBound code _).append ih
    | false =>
      have others := Elsewhere.of_within (r.bindAttribute_within tag binding a)
      exact (Accounted.ofAttribute others code).append ih

mutual

/-- The paths below the node of a path lead into what the node becomes. -/
theorem bindNode_accounted (scope : Scope) (path : List Nat) :
    ∀ n : Node, (n.Every fun k => k.binding? = none) →
      (∀ inner, bound (path ++ inner)
        = (((r.bindNode scope n).1.below? inner).bind Node.binding?).isSome) →
      Accounted bound (Entry.ofNode path n) (Entry.ofNode path (r.bindNode scope n).1)
        (r.bindNode scope n).2
  | .element span tag endTag? body, unbound, paths => by
    have own := paths []
    rw [List.append_nil] at own
    have child := Elsewhere.of_within (r.checkChild_within scope tag)
    unfold bindNode at own paths ⊢
    cases selected : r.bind? scope tag with
    | none =>
      rw [selected] at own paths
      have inside := bindNodes_accounted { tagName := tag.name } path 0 body unbound.inside (by
        intro j k inner at'
        rw [Nat.zero_add, paths (j :: inner)]
        simp [Node.below?, Node.body, at'])
      exact (Accounted.ofNode child span).append ((Accounted.ofAttributes own _).append inside)
    | some binding =>
      rw [selected] at own paths
      have inside := bindNodes_accounted (innerScope tag binding) path 0 body unbound.inside (by
        intro j k inner at'
        rw [Nat.zero_add, paths (j :: inner)]
        simp [Node.below?, Node.body, at'])
      have found := child.append (.of_within (tagMode_within tag binding endTag?))
      exact ((Accounted.ofNode found span).append
        (bindAttributes_accounted r tag binding own _)).append inside
  | .directive span head body, unbound, paths => by
    have inside := bindNodes_accounted {} path 0 body unbound.inside (by
      intro j k inner at'
      rw [Nat.zero_add, paths (j :: inner)]
      simp [Node.below?, bindNode, Node.body, at'])
    exact (Accounted.ofNode .nil span).append inside
  | .text span text, _, _ => .ofNode (.of_within (checkText_within scope span text)) span
  | .markupComment span text, _, _ =>
    .ofNode (.of_within (r.checkComment_within scope span)) span
  | .transition _, _, _ => .ofNode .nil _
  | .expression .., _, _ => .ofNode .nil _
  | .codeBlock .., _, _ => .ofNode .nil _
  | .comment .., _, _ => .ofNode .nil _
  | .helper .., unbound, _ => nomatch unbound.self

theorem bindNodes_accounted (scope : Scope) (path : List Nat) (i : Nat) :
    ∀ ns : List Node, (∀ n ∈ ns, n.Every fun k => k.binding? = none) →
      (∀ j k inner, (r.bindNodes scope ns).1[j]? = some k →
        bound (path ++ (i + j) :: inner) = ((k.below? inner).bind Node.binding?).isSome) →
      Accounted bound (Entry.ofNodes path i ns) (Entry.ofNodes path i (r.bindNodes scope ns).1)
        (r.bindNodes scope ns).2
  | [], _, _ => .same .nil fun e member => absurd member List.not_mem_nil
  | n :: ns, unbound, paths => by
    have first := bindNode_accounted scope (path ++ [i]) n (unbound n List.mem_cons_self) (by
      intro inner
      rw [List.append_assoc]
      exact paths 0 _ inner rfl)
    have rest := bindNodes_accounted scope path (i + 1) ns
      (fun k member => unbound k (List.mem_cons_of_mem n member)) (by
        intro j k inner child
        rw [Nat.add_right_comm, Nat.add_assoc]
        exact paths (j + 1) k inner child)
    exact first.append rest

end

end HelperRules

/-! ## Bound trees -/

theorem parse_unbound (file : SourceFile) (options : ParserOptions) :
    ∀ n ∈ (parse file options).body, n.Every fun k => k.binding? = none := by
  rcases parse_gathered file options with ⟨_, -, faithful, -⟩
  intro n member
  apply (faithful n member).imp
  intro k read
  cases k with
  | helper => exact absurd read.written id
  | text | element | markupComment | transition | expression | codeBlock | directive | comment =>
    rfl

/-- Binding the tree of a file turns exactly the elements with a binding into tag helpers, where
the binding of an element depends on its parent and on what became of that.  Besides, it loses
nothing but code in the place of attributes of such elements, and reports each loss. -/
theorem bindHelpers_exact (file : SourceFile) (options : ParserOptions) (binder : Binder)
    (given : binder.helpers ≠ []) :
    let before := parse file options
    let after := before.bindHelpers binder
    (∀ path, Option.Rel (Node.Becomes (bindingAt? binder before.body after.body path))
        (Node.at? before.body path) (Node.at? after.body path))
      ∧ Entry.ofNodes [] 0 after.body
        = (Entry.ofNodes [] 0 before.body).filter (fun e => !e.isLost (isBoundAt after.body))
      ∧ ∃ added, after.diagnostics = before.diagnostics ++ added
        ∧ added.countP (fun x => x.code == .codeInAttributeArea)
          = (Entry.ofNodes [] 0 before.body).countP fun e =>
            e.isLost (isBoundAt after.body) && e.role == .attribute true := by
  intro before after
  let r : HelperRules := ⟨binder, before.options.features⟩
  have bound : after = { before with
      body := (r.bindNodes {} before.body).1
      diagnostics := before.diagnostics ++ (r.bindNodes {} before.body).2 } := by
    unfold after Tree.bindHelpers
    rw [if_neg (by simpa using given)]
  have unbound := parse_unbound file options
  have accounted : Accounted (isBoundAt (r.bindNodes {} before.body).1)
      (Entry.ofNodes [] 0 before.body) (Entry.ofNodes [] 0 (r.bindNodes {} before.body).1)
      (r.bindNodes {} before.body).2 := by
    apply HelperRules.bindNodes_accounted r {} [] 0 before.body unbound
    intro j k inner child
    simp [isBoundAt, Node.at?, child]
  rw [bound]
  exact ⟨HelperRules.bindNodes_becomes (r := r) unbound, accounted.kept, _, rfl,
    accounted.reported⟩

/-- A tag helper for elements of one name. -/
def mailBinder : Binder :=
  { tagStart := [], helpers := [TagHelper.Draft.build
      { kind := "ITagHelper", name := "Mail", assembly := "Site"
        rules := [{ tagName := "mail" }] }] }

/-- An element with code in the place of an attribute, with another element in it. -/
def mailPage : SourceFile :=
  .ofContent 0 "page.quill" "<mail @(x) to=\"a\"><b @(y)></b></mail>" .none

theorem bindHelpers_exact_mail :
    let before := parse mailPage {}
    let after := before.bindHelpers mailBinder
    mailBinder.helpers ≠ [] ∧ isBoundAt after.body [0] = true ∧ isBoundAt after.body [0, 0] = false
      ∧ (Entry.ofNodes [] 0 before.body).length = (Entry.ofNodes [] 0 after.body).length + 2
      ∧ ∃ added, after.diagnostics = before.diagnostics ++ added
        ∧ added.countP (fun x => x.code == .codeInAttributeArea) = 1 := by
  have given : mailBinder.helpers ≠ [] := List.cons_ne_nil _ _
  rcases bindHelpers_exact mailPage {} mailBinder given with ⟨-, kept, added, longer, reported⟩
  refine ⟨given, by decide +kernel, by decide +kernel, ?_, added, longer, reported.trans ?_⟩
  · rw [kept]
    decide +kernel
  · decide +kernel

end Syntax

end TemplateCompiler
