import TemplateCompiler.Proofs.BoundElements
import TemplateCompiler.Proofs.RecutPasses

/-!
# Lowering a merged tree

Merging neighbouring texts commutes with everything else that happens to a tree before it is
lowered: trimming the tokens of directives, finding the tag helpers in scope and binding them.  None
of these looks at texts, and none turns a text into something else or the other way round.

Lowering writes each text as a piece of literal markup.  A merged tree is therefore lowered to what
the tree itself is lowered to, except that the markup is cut into fewer pieces.
-/

namespace TemplateCompiler

namespace Syntax

namespace Node

/-! ## Merging beside other changes -/

def isText : Node → Bool
  | text .. => true
  | _ => false

theorem join_of_first {n : Node} (other : n.isText = false) (ns : List Node) :
    (join n ns).1 = n :: ns := by
  cases n with
  | text => cases other
  | _ => rfl

theorem join_of_second (n : Node) {m : Node} (other : m.isText = false) (ns : List Node) :
    (join n (m :: ns)).1 = n :: m :: ns := by
  cases n with
  | text =>
    cases m with
    | text => cases other
    | _ => rfl
  | _ => rfl

/-- A change of nodes that leaves texts alone, and makes none, may take place before nodes are
joined or behind. -/
theorem join_map {f : Node → Node} (texts : ∀ s t, f (text s t) = text s t)
    (keeps : ∀ n, (f n).isText = n.isText) (n : Node) (ns : List Node) :
    (join (f n) (ns.map f)).1 = (join n ns).1.map f := by
  cases first : n.isText with
  | false =>
    rw [join_of_first first, join_of_first ((keeps n).trans first)]
    rfl
  | true =>
    cases ns with
    | nil =>
      cases n with
      | text s t => simp [join, texts]
      | _ => cases first
    | cons m ns =>
      cases second : m.isText with
      | false =>
        rw [join_of_second n second, List.map_cons, join_of_second _ ((keeps m).trans second)]
        rfl
      | true =>
        cases n with
        | text s t =>
          cases m with
          | text s' t' =>
            simp only [List.map_cons, texts, join]
            split <;> simp [texts]
          | _ => cases second
        | _ => cases first

theorem trimAll_eq_map (ns : List Node) : (trimAll ns).1 = ns.map fun n => (trim n).1 := by
  induction ns with
  | nil => rfl
  | cons n ns ih => rw [trimAll, List.map_cons, ← ih]

theorem isText_trim (n : Node) : (trim n).1.isText = n.isText := by
  cases n <;> rfl

mutual

theorem merge_trim (n : Node) : (merge (trim n).1).1 = (trim (merge n).1).1 := by
  cases n with
  | element s tag endTag? body => simp only [trim, merge, mergeAll_trimAll body]
  | directive s head body => simp only [trim, merge, mergeAll_trimAll body]
  | helper s head body => simp only [trim, merge, mergeAll_trimAll body]
  | _ => rfl

/-- Merging texts and trimming tokens can be done in either order. -/
theorem mergeAll_trimAll (ns : List Node) :
    (mergeAll (trimAll ns).1).1 = (trimAll (mergeAll ns).1).1 := by
  cases ns with
  | nil => rfl
  | cons n ns =>
    change (join (merge (trim n).1).1 (mergeAll (trimAll ns).1).1).1 =
      (trimAll (join (merge n).1 (mergeAll ns).1).1).1
    rw [merge_trim n, mergeAll_trimAll ns, trimAll_eq_map, trimAll_eq_map]
    exact join_map (f := fun n => (trim n).1) (fun _ _ => rfl) isText_trim _ _

end

mutual

theorem directives_merge (n : Node) : (merge n).1.directives = n.directives := by
  cases n with
  | element s tag endTag? body => exact directivesAll_mergeAll body
  | directive s head body => exact congrArg (head :: ·) (directivesAll_mergeAll body)
  | helper s head body => exact directivesAll_mergeAll body
  | _ => rfl

/-- A merged tree has the directives that it had before. -/
theorem directivesAll_mergeAll (ns : List Node) :
    directivesAll (mergeAll ns).1 = directivesAll ns := by
  cases ns with
  | nil => rfl
  | cons n ns =>
    have joined : ∀ (n : Node) (ns : List Node),
        directivesAll (join n ns).1 = n.directives ++ directivesAll ns := by
      intro n ns
      unfold join
      split
      · split <;> rfl
      · rfl
    change directivesAll (join (merge n).1 (mergeAll ns).1).1 = n.directives ++ directivesAll ns
    rw [joined, directives_merge n, directivesAll_mergeAll ns]

end

theorem isEmpty_mergeAll (ns : List Node) : (mergeAll ns).1.isEmpty = ns.isEmpty := by
  cases ns with
  | nil => rfl
  | cons n ns =>
    change (join (merge n).1 (mergeAll ns).1).1.isEmpty = false
    unfold join
    split
    · split <;> rfl
    · rfl

end Node

namespace HelperRules

open Node

theorem isText_bindNode (r : HelperRules) (scope : Scope) (n : Node) :
    (r.bindNode scope n).1.isText = n.isText := by
  cases n with
  | element s tag endTag? body =>
    unfold bindNode
    dsimp only
    split <;> rfl
  | _ => rfl

mutual

theorem merge_bindNode (r : HelperRules) (scope : Scope) (n : Node) :
    (merge (r.bindNode scope n).1).1 = (r.bindNode scope (merge n).1).1 := by
  cases n with
  | element s tag endTag? body =>
    simp only [merge, bindNode]
    cases r.bind? scope tag with
    | none => simp only [merge, mergeAll_bindNodes r _ body]
    | some binding => simp only [merge, mergeAll_bindNodes r _ body]
  | directive s head body => simp only [merge, bindNode, mergeAll_bindNodes r _ body]
  | _ => rfl

/-- Merging texts and binding tag helpers can be done in either order. -/
theorem mergeAll_bindNodes (r : HelperRules) (scope : Scope) (ns : List Node) :
    (mergeAll (r.bindNodes scope ns).1).1 = (r.bindNodes scope (mergeAll ns).1).1 := by
  cases ns with
  | nil => rfl
  | cons n ns =>
    change (join (merge (r.bindNode scope n).1).1 (mergeAll (r.bindNodes scope ns).1).1).1 =
      (r.bindNodes scope (join (merge n).1 (mergeAll ns).1).1).1
    rw [merge_bindNode r scope n, mergeAll_bindNodes r scope ns, bindNodes_eq_map, bindNodes_eq_map]
    exact join_map (f := fun n => (r.bindNode scope n).1) (fun _ _ => rfl)
      (r.isText_bindNode scope) _ _

end

end HelperRules

/-! ## Merged trees -/

/-- A tree is another one with its texts merged; what was found may differ. -/
structure Tree.Merges (t u : Tree) : Prop where
  source : t.source = u.source
  options : t.options = u.options
  body : t.body = (Node.mergeAll u.body).1

namespace Tree.Merges

theorem mergeText (u : Tree) : u.mergeText.1.Merges u := ⟨rfl, rfl, rfl⟩

variable {t u : Tree}

theorem trimTokens (merges : t.Merges u) : t.trimTokens.1.Merges u.trimTokens.1 := by
  refine ⟨merges.source, merges.options, ?_⟩
  change (Node.trimAll t.body).1 = (Node.mergeAll (Node.trimAll u.body).1).1
  rw [merges.body, Node.mergeAll_trimAll]

theorem report (merges : t.Merges u) (found others : List Diagnostic) :
    Merges { t with diagnostics := found } { u with diagnostics := others } :=
  ⟨merges.source, merges.options, merges.body⟩

theorem bindHelpers (merges : t.Merges u) (binder : Binder) :
    (t.bindHelpers binder).Merges (u.bindHelpers binder) := by
  unfold Tree.bindHelpers
  split
  · exact merges
  · refine ⟨merges.source, merges.options, ?_⟩
    dsimp only
    rw [merges.options, merges.body, HelperRules.mergeAll_bindNodes]

theorem directives (merges : t.Merges u) : t.directives = u.directives := by
  unfold Tree.directives
  rw [merges.body, Node.directivesAll_mergeAll]

/-- The tag helpers in scope are found by directives. -/
theorem discover (merges : t.Merges u) (all : List TagHelper) (kind : FileKind)
    (imports : List Tree) :
    Discovery.discover all kind t imports = Discovery.discover all kind u imports := by
  unfold Discovery.discover
  rw [merges.directives]

end Tree.Merges

end Syntax

namespace Lowering

open IR IR.Node

/-! ## Pieces of an element

All markup that lowering makes is literal. -/

theorem recut_of_forall {ns : List Node} (each : ∀ n ∈ ns, Recut [n] [n]) : Recut ns ns := by
  induction ns with
  | nil => exact .nil
  | cons n ns ih =>
    rcases List.forall_mem_cons.mp each with ⟨first, others⟩
    exact first.append (ih others)

theorem markup_recut (t : Text) : Recut (markup t) (markup t) := by
  unfold markup
  split
  · exact .nil
  · exact .run (isLiteral_markupToken t).single (isLiteral_markupToken t).single rfl .nil

theorem expression_recut (span : Span) (code : Text) :
    Recut [expression span code] [expression span code] :=
  .node nofun (.node nofun .nil .nil) .nil

theorem gathers_recut : Gathers fun ns => Recut ns ns := ⟨markup_recut, Recut.append⟩

theorem attributePart_recut (part : Syntax.ValuePart) :
    Recut [attributePart part] [attributePart part] := by
  cases part with
  | code span code isExplicit => exact expression_recut span code
  | _ => exact .node nofun (.node nofun .nil .nil) .nil

theorem tag_recut (features : LanguageFeatures) (tag : Syntax.StartTag) :
    Recut (gather (tagPieces features tag)) (gather (tagPieces features tag)) := by
  apply gathers_recut.tag
  · intro a _ span code explicit _
    exact expression_recut span code
  · intro a _ opening quote
    refine .node nofun (recut_of_forall fun n inside => ?_) .nil
    rcases List.mem_map.mp inside with ⟨part, -, rfl⟩
    exact attributePart_recut part

/-! ## Tag helpers and directives -/

theorem markupValue_recut (value : List Syntax.ValuePart) :
    Recut (markupValue value) (markupValue value) :=
  gathers_recut.markupValue fun _ => expression_recut _ _

theorem codeValue_recut (value : List Syntax.ValuePart) :
    Recut (codeValue value) (codeValue value) := by
  cases value with
  | nil => exact .nil
  | cons part value =>
    refine .node nofun (recut_of_forall fun n member => ?_) .nil
    rcases List.mem_map.mp member with ⟨p, -, rfl⟩
    exact .node nofun .nil .nil

theorem boundContent_unlike (a : Syntax.HelperAttribute) (b : Syntax.BoundMatch) :
    boundContent a b ≠ .markup := by
  unfold boundContent
  dsimp only
  split
  · split <;> nofun
  · nofun

theorem helperAttribute_recut (a : Syntax.HelperAttribute) :
    Recut (helperAttribute a) (helperAttribute a) := by
  unfold helperAttribute
  split
  · exact .node nofun (markupValue_recut a.value) .nil
  · apply recut_of_forall
    intro n member
    rcases List.mem_map.mp member with ⟨b, -, rfl⟩
    refine .node (boundContent_unlike a b) ?_ .nil
    split
    · exact markupValue_recut a.value
    · exact codeValue_recut a.value

theorem tokens_recut (head : Syntax.DirectiveHead) : Recut (tokens head) (tokens head) := by
  apply recut_of_forall
  intro n member
  rcases List.mem_map.mp member with ⟨t, -, rfl⟩
  exact .node nofun .nil .nil

theorem importNamespace_recut (seen : List Text) (head : Syntax.DirectiveHead) :
    Recut (importNamespace seen head).1 (importNamespace seen head).1 := by
  unfold importNamespace
  split
  · exact .nil
  · split
    · exact .nil
    · exact .node nofun .nil .nil

/-! ## Nodes -/

/-- What is lowered is the same but for how markup is cut, and so are the imports that were seen. -/
structure Same (a b : List Node × List Text) : Prop where
  recut : Recut a.1 b.1
  sameSeen : a.2 = b.2

/-- A text in front of what is already lowered: it may be a piece of its own, or the front of the
first piece. -/
theorem markup_append_recut (t u : Text) {ns ms : List Node} (recut : Recut (markup u ++ ns) ms) :
    Recut (markup (t ++ u) ++ ns) (markup t ++ ms) := by
  by_cases first : t = []
  · subst first
    exact recut
  by_cases second : u = []
  · subst second
    rw [List.append_nil]
    exact (markup_recut t).append recut
  · have literal : ∀ {v : Text}, v ≠ [] →
        markup v = [.synthetic .markup [.markupToken v]] := by
      intro v nonempty
      unfold markup
      rw [List.isEmpty_eq_false_iff.mpr nonempty]
      rfl
    rw [literal second] at recut
    rw [literal first, literal (List.append_ne_nil_of_left_ne_nil first u)]
    exact recut.cut

theorem Same.cons {features : LanguageFeatures} {seen : List Text} {n m : Syntax.Node}
    {ns ms : List Syntax.Node} (first : Same (node features seen n) (node features seen m))
    (after : Same (nodes features (node features seen m).2 ns)
      (nodes features (node features seen m).2 ms)) :
    Same (nodes features seen (n :: ns)) (nodes features seen (m :: ms)) := by
  unfold nodes
  dsimp only
  rw [first.sameSeen]
  exact ⟨first.recut.append after.recut, after.sameSeen⟩

/-- A text is lowered with the text behind it, if the two are joined. -/
theorem Same.join_text {features : LanguageFeatures} {seen : List Text} (s : Span) (t : Text)
    {ns ms : List Syntax.Node} (after : Same (nodes features seen ns) (nodes features seen ms)) :
    Same (nodes features seen (Syntax.Node.join (.text s t) ns).1)
      (nodes features seen (.text s t :: ms)) := by
  have apart : Same (nodes features seen (.text s t :: ns)) (nodes features seen (.text s t :: ms)) :=
    Same.cons ⟨markup_recut t, rfl⟩ after
  rcases ns with - | ⟨n, ns⟩
  · exact apart
  cases n with
  | text s' t' =>
    unfold Syntax.Node.join
    dsimp only
    split
    · exact ⟨markup_append_recut t t' after.recut, after.sameSeen⟩
    · exact apart
  | _ => exact apart

mutual

theorem node_merge (features : LanguageFeatures) (seen : List Text) (n : Syntax.Node) :
    Same (node features seen n.merge.1) (node features seen n) := by
  cases n with
  | text s t => exact ⟨markup_recut t, rfl⟩
  | transition s => exact ⟨markup_recut "@", rfl⟩
  | markupComment s t => exact ⟨markup_recut ("<!--" ++ t ++ "-->"), rfl⟩
  | comment s t => exact ⟨.nil, rfl⟩
  | expression s code isExplicit => exact ⟨expression_recut s code, rfl⟩
  | codeBlock s code isStatement => exact ⟨.node nofun (.node nofun .nil .nil) .nil, rfl⟩
  | directive s head body =>
    have block := nodes_mergeAll features seen body
    unfold Syntax.Node.merge node
    dsimp only
    split
    · exact ⟨.node nofun (tokens_recut head) .nil, rfl⟩
    split
    · exact ⟨importNamespace_recut seen head, rfl⟩
    split
    · exact ⟨.node nofun ((tokens_recut head).append block.recut) .nil, block.sameSeen⟩
    · refine ⟨.node nofun ((tokens_recut head).append ?_) .nil, rfl⟩
      exact .node nofun (.node nofun .nil .nil) .nil
    · exact ⟨.node nofun ((tokens_recut head).append .nil) .nil, rfl⟩
  | element s tag endTag? body =>
    have content := nodes_mergeAll features seen body
    have ending : Recut (if endTag?.isSome then markup ("</" ++ tag.name ++ ">") else [])
        (if endTag?.isSome then markup ("</" ++ tag.name ++ ">") else []) := by
      split
      · exact markup_recut _
      · exact .nil
    unfold Syntax.Node.merge node
    dsimp only
    exact ⟨((tag_recut features tag).append content.recut).append ending,
      content.sameSeen⟩
  | helper s head body =>
    have content := nodes_mergeAll features seen body
    have attributes : Recut (head.attributes.flatMap helperAttribute)
        (head.attributes.flatMap helperAttribute) :=
      gathers_recut.flatMap fun a _ => helperAttribute_recut a
    unfold Syntax.Node.merge node
    dsimp only
    rw [Syntax.Node.isEmpty_mergeAll]
    refine ⟨.node nofun (attributes.append ?_) .nil, content.sameSeen⟩
    split
    · exact .node nofun content.recut .nil
    · exact .nil

/-- A merged tree is lowered to the same nodes, but for how markup is cut. -/
theorem nodes_mergeAll (features : LanguageFeatures) (seen : List Text) (ns : List Syntax.Node) :
    Same (nodes features seen (Syntax.Node.mergeAll ns).1) (nodes features seen ns) := by
  cases ns with
  | nil => exact ⟨.nil, rfl⟩
  | cons n ns =>
    have first := node_merge features seen n
    have after := nodes_mergeAll features (node features seen n).2 ns
    change Same (nodes features seen (Syntax.Node.join n.merge.1 (Syntax.Node.mergeAll ns).1).1) _
    cases n with
    | text s t => exact Same.join_text s t after
    | _ => exact Same.cons first after

end

/-! ## Documents -/

/-- A merged tree is lowered to a recut of the document. -/
theorem document_recut {t u : Syntax.Tree} (merges : t.Merges u) (imports : List Syntax.Tree) :
    (document t imports).Recut (document u imports) := by
  have keywords : onceKeywords t = onceKeywords u := by
    unfold onceKeywords
    rw [merges.directives]
  constructor
  · unfold document
    rw [merges.source]
  · unfold document
    dsimp only
    rw [merges.options, merges.body, keywords]
    apply Recut.append
    · exact (nodes_mergeAll _ _ _).recut.self
    · exact (nodes_mergeAll _ _ _).recut

end Lowering

end TemplateCompiler
