import TemplateCompiler.Proofs.SilentNodes

/-!
# Joining markup and dropping bodies keep findings

Joined markup has the findings of both pieces, and what was found in a dropped body moves to the
document.  So neither change loses a finding or makes one up.
-/

namespace TemplateCompiler

namespace IR

namespace Node

theorem allDiagnostics_eq (n : Node) : n.allDiagnostics = diagnosticsAll [n] := by
  unfold allDiagnostics diagnosticsAll
  rw [preorderAll, preorderAll, List.append_nil]

theorem allDiagnostics_node (head : Head) (children : List Node) :
    (node head children).allDiagnostics = head.diagnostics ++ diagnosticsAll children := by
  rw [allDiagnostics_eq, diagnosticsAll_cons, diagnosticsAll_nil, List.append_nil]

theorem diagnosticsAll_cons_eq (n : Node) (ns : List Node) :
    diagnosticsAll (n :: ns) = n.allDiagnostics ++ diagnosticsAll ns := by
  rw [allDiagnostics_eq]
  exact diagnosticsAll_append [n] ns

/-! ## Joining markup -/

theorem mem_joinMarkup? {a b joined : Node} (found : joinMarkup? a b = some joined)
    (x : Diagnostic) :
    x ∈ joined.allDiagnostics ↔ x ∈ a.allDiagnostics ∨ x ∈ b.allDiagnostics := by
  unfold joinMarkup? at found
  split at found
  · cases found
    simp only [allDiagnostics_node, diagnosticsAll_append, Node.diagnostics, List.mem_append]
    grind
  · cases found

theorem mem_joinRuns (x : Diagnostic) (ns : List Node) :
    ∀ first : Node, x ∈ diagnosticsAll (joinRuns first ns) ↔ x ∈ diagnosticsAll (first :: ns) := by
  induction ns with
  | nil =>
    intro first
    rfl
  | cons n ns ih =>
    intro first
    unfold joinRuns
    split
    · next joined found =>
      rw [ih, diagnosticsAll_cons_eq, diagnosticsAll_cons_eq, diagnosticsAll_cons_eq,
        List.mem_append, List.mem_append, List.mem_append, mem_joinMarkup? found, or_assoc]
    · rw [diagnosticsAll_cons_eq, diagnosticsAll_cons_eq first, List.mem_append, List.mem_append,
        ih]

theorem mem_joinSiblings (x : Diagnostic) (ns : List Node) :
    x ∈ diagnosticsAll (joinSiblings ns) ↔ x ∈ diagnosticsAll ns := by
  cases ns with
  | nil => rfl
  | cons n ns => exact mem_joinRuns x ns n

theorem mem_mergeLevels (x : Diagnostic) (levels : Nat) :
    ∀ n : Node, x ∈ (mergeLevels levels n).allDiagnostics ↔ x ∈ n.allDiagnostics := by
  induction levels with
  | zero =>
    intro n
    rfl
  | succ levels ih =>
    intro n
    cases n with
    | absent => rfl
    | node head children =>
      have each : ∀ ns : List Node,
          x ∈ diagnosticsAll (ns.map (mergeLevels levels)) ↔ x ∈ diagnosticsAll ns := by
        intro ns
        induction ns with
        | nil => rfl
        | cons n ns more =>
          rw [List.map_cons, diagnosticsAll_cons_eq, diagnosticsAll_cons_eq, List.mem_append,
            List.mem_append, ih, more]
      rw [mergeLevels, allDiagnostics_node, allDiagnostics_node, List.mem_append, List.mem_append,
        each, mem_joinSiblings]

/-! ## Changing one node -/

/-- What changing the first of some nodes does to the findings: those of one node give way to those
of another one. -/
def Replaced (n m : Node) (before after : List Diagnostic) : Prop :=
  ∃ front back, before = front ++ n.allDiagnostics ++ back ∧ after = front ++ m.allDiagnostics ++ back

section ChangeFirst

variable (p : Node → Bool) (f : Node → Node)

mutual

theorem changeFirst?_replaced :
    ∀ t : Node, (t.preorder.find? p = none ∧ changeFirst? p f t = none) ∨
      ∃ n m, t.preorder.find? p = some n ∧ changeFirst? p f t = some m ∧
        Replaced n (f n) t.allDiagnostics m.allDiagnostics
  | .absent => by
    unfold changeFirst? preorder
    cases fits : p .absent with
    | true =>
      refine .inr ⟨.absent, f .absent, ?_, rfl, [], [], ?_, ?_⟩
      · simp [fits]
      · simp
      · simp
    | false => exact .inl ⟨by simp [fits], rfl⟩
  | .node head children => by
    unfold changeFirst? preorder
    cases fits : p (.node head children) with
    | true =>
      refine .inr ⟨.node head children, f (.node head children), ?_, rfl, [], [], ?_, ?_⟩
      · simp [fits]
      · simp
      · simp
    | false =>
      rcases changeFirstIn?_replaced children with ⟨none, same⟩ | ⟨n, ms, found, same, replaced⟩
      · refine .inl ⟨?_, ?_⟩
        · simp [fits, none]
        · simp [same]
      · rcases replaced with ⟨front, back, before, after⟩
        refine .inr ⟨n, .node head ms, ?_, ?_, head.diagnostics ++ front, back, ?_, ?_⟩
        · simp [fits, found]
        · simp [same]
        · simp [allDiagnostics_node, before]
        · simp [allDiagnostics_node, after]

theorem changeFirstIn?_replaced :
    ∀ ts : List Node, ((preorderAll ts).find? p = none ∧ changeFirstIn? p f ts = none) ∨
      ∃ n ms, (preorderAll ts).find? p = some n ∧ changeFirstIn? p f ts = some ms ∧
        Replaced n (f n) (diagnosticsAll ts) (diagnosticsAll ms)
  | [] => .inl ⟨rfl, rfl⟩
  | t :: ts => by
    unfold changeFirstIn? preorderAll
    rcases changeFirst?_replaced t with ⟨none, same⟩ | ⟨n, m, found, same, front, back, before, after⟩
    · rcases changeFirstIn?_replaced ts with ⟨noneIn, sameIn⟩ | ⟨n, ms, found, sameIn, replaced⟩
      · refine .inl ⟨?_, ?_⟩
        · rw [List.find?_append, none, noneIn]
          rfl
        · rw [same, sameIn]
          rfl
      · rcases replaced with ⟨front, back, before, after⟩
        refine .inr ⟨n, t :: ms, ?_, ?_, t.allDiagnostics ++ front, back, ?_, ?_⟩
        · rw [List.find?_append, none, found]
          rfl
        · rw [same, sameIn]
          rfl
        · simp [diagnosticsAll_cons_eq, before]
        · simp [diagnosticsAll_cons_eq, after]
    · refine .inr ⟨n, m :: ts, ?_, ?_, front, back ++ diagnosticsAll ts, ?_, ?_⟩
      · rw [List.find?_append, found]
        rfl
      · rw [same]
      · simp [diagnosticsAll_cons_eq, before]
      · simp [diagnosticsAll_cons_eq, after]

end

end ChangeFirst

end Node

namespace Document

open Node

theorem allDiagnostics_eq (d : Document) :
    d.allDiagnostics = d.diagnostics ++ diagnosticsAll d.children := rfl

/-- Joining markup keeps findings. -/
theorem mem_mergeMarkup (d : Document) (x : Diagnostic) :
    x ∈ d.mergeMarkup.allDiagnostics ↔ x ∈ d.allDiagnostics := by
  have levels := mem_mergeLevels x d.toNode.height d.toNode
  unfold allDiagnostics
  rw [← levels]
  have head : d.mergeMarkup.toNode = mergeLevels d.toNode.height d.toNode := by
    unfold mergeMarkup Node.mergeMarkup
    generalize d.toNode.height = height
    cases height <;> rfl
  rw [head]

theorem withoutBody_allDiagnostics (head : Head) (m : MethodShape) :
    (withoutBody head m).allDiagnostics = [] := by
  have statement : AllSilent (if m.returnType == "void" then []
      else [Node.synthetic .statement [.codeToken completedTask]]) := by
    split
    · exact EveryIn.nil
    · exact EveryIn.single (every_silent rfl (EveryIn.single (every_silent_codeToken _)))
  unfold withoutBody
  rw [allDiagnostics_node, diagnosticsAll_of_silent statement]
  rfl

/-- Changing the first node of a document that satisfies a test. -/
theorem changeFirst_replaced {d : Document} {p : Node → Bool} {n : Node}
    (found : d.nodes.find? p = some n) (f : Node → Node) :
    Replaced n (f n) (diagnosticsAll d.children) (diagnosticsAll (d.changeFirst p f).children) := by
  unfold nodes at found
  rcases changeFirstIn?_replaced p f d.children with ⟨none, -⟩ | ⟨m, ms, foundIn, same, replaced⟩
  · rw [none] at found
    cases found
  · rw [foundIn] at found
    cases found
    unfold changeFirst
    rw [same]
    exact replaced

/-- Changing the method is changing the first node that is a primary method. -/
theorem changeMethod_eq (d : Document) (g : Head → MethodShape → List Node → Node) :
    ∃ f : Node → Node, d.changeMethod g = d.changeFirst isPrimaryMethod f ∧
      ∀ head shape body, head.content = .methodDecl shape →
        f (.node head body) = g head shape body := by
  refine ⟨_, rfl, ?_⟩
  intro head shape body same
  dsimp only
  rw [same]

/-- Dropping a body keeps findings. -/
theorem mem_dropBody (d : Document) (x : Diagnostic) :
    x ∈ d.dropBody.allDiagnostics ↔ x ∈ d.allDiagnostics := by
  unfold dropBody
  split
  · rfl
  split
  · next method shape body found _ =>
    split
    · rfl
    rcases changeMethod_eq (d.report method.allDiagnostics)
      (fun head shape _ => withoutBody head shape) with ⟨f, changed, isMethod⟩
    have primary : isPrimaryMethod method = true := List.find?_some found
    have empty : (f method).allDiagnostics = [] := by
      rcases method with - | ⟨⟨content, span?, diagnostics, label?⟩, children⟩
      · cases primary
      · cases content with
        | methodDecl shape =>
          rw [isMethod _ shape children rfl]
          exact withoutBody_allDiagnostics _ _
        | _ => cases primary
    have again : (d.report method.allDiagnostics).nodes.find? isPrimaryMethod = some method := found
    rcases changeFirst_replaced again f with ⟨front, back, before, after⟩
    rw [changed, allDiagnostics_eq, allDiagnostics_eq, after, empty]
    change x ∈ (d.diagnostics ++ method.allDiagnostics) ++ (front ++ [] ++ back) ↔ _
    change diagnosticsAll d.children = _ at before
    rw [before]
    simp only [List.mem_append, List.not_mem_nil]
    grind
  · rfl

end Document

end IR

end TemplateCompiler
