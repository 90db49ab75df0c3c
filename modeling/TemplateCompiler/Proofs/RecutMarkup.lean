import TemplateCompiler.Proofs.RepeatedOptimization

/-!
# Markup that is cut differently

Literal markup may be one node or several nodes next to each other, and one token or several tokens.
Two lists of trees are recuts of each other if that is all they differ in: where one has a run of
literal markup, the other has a run with the same text, and otherwise they have nodes with the same
heads, whose children are again recuts.  All markup in them is literal, so this is at the same time
something to know about a single tree.

Most questions about trees overlook markup.  Such a question has the same answer for recuts, as long
as a node answers by its head and by what its children answer.  After joining, two recuts have their
markup in the same places, and the texts of the joined nodes are the same.
-/

namespace TemplateCompiler

namespace IR.Node

/-! ## The relation -/

/-- The texts of all tokens in some trees, one after another. -/
def textAll (ns : List Node) : Text := (preorderAll ns).flatMap tokenText

theorem textAll_append (ns ms : List Node) : textAll (ns ++ ms) = textAll ns ++ textAll ms := by
  unfold textAll
  rw [preorderAll_append, List.flatMap_append]

theorem textAll_cons (n : Node) (ns : List Node) : textAll (n :: ns) = n.text ++ textAll ns := by
  unfold textAll
  rw [preorderAll, List.flatMap_append]
  rfl

theorem textAll_singleton (n : Node) : textAll [n] = n.text := by
  rw [textAll_cons]
  exact List.append_nil _

theorem text_node (head : Head) (children : List Node) :
    (node head children).text = (node head []).tokenText ++ textAll children := by
  rcases head with ⟨content, span?, diagnostics, label?⟩
  cases content <;> rfl

/-- Literal markup: tokens of markup, at least one, and nothing else.  Nothing was found about it,
for findings are never about literal text. -/
inductive IsLiteral : Node → Prop
  | intro (span? : Option Span) (label? : Option Text) (t : Text) (ts : List Text) :
      IsLiteral (.node { content := .markup, span?, label? } ((t :: ts).map markupToken))

/-- Literal markup in one or more pieces, which joining makes one piece of. -/
structure IsRun (ns : List Node) : Prop where
  nonempty : ns ≠ []
  literal : ∀ n ∈ ns, n.IsLiteral

/-- Two lists of trees in which all markup is literal, and which differ at most in how it is cut. -/
inductive Recut : List Node → List Node → Prop
  | nil : Recut [] []
  | run {run other ns ms : List Node} (literal : IsRun run) (otherLiteral : IsRun other)
      (same : textAll run = textAll other) (rest : Recut ns ms) : Recut (run ++ ns) (other ++ ms)
  | node {head : Head} {children others ns ms : List Node} (unlike : head.content ≠ .markup)
      (inside : Recut children others) (rest : Recut ns ms) :
      Recut (node head children :: ns) (node head others :: ms)

/-- Two nodes that are no markup, with the same head and with children that are recuts. -/
inductive Alike : Node → Node → Prop
  | intro {head : Head} {children others : List Node} (unlike : head.content ≠ .markup)
      (inside : Recut children others) : Alike (node head children) (node head others)

/-- A question about nodes to which all markup gives one answer. -/
def OnMarkup {α : Type} (ask : Node → α) (answer : α) : Prop :=
  ∀ span? label? children, ask (.node { content := .markup, span?, label? } children) = answer

/-- A question about nodes to which markup and its tokens give no answer. -/
structure Overlooks {α : Type} (ask : Node → α) (nothing : α) : Prop where
  markup : OnMarkup ask nothing
  token : ∀ t, ask (markupToken t) = nothing

/-- A question to which nodes that are alike give the same answer. -/
def Respects {α : Type} (ask : Node → α) : Prop := ∀ {n m : Node}, Alike n m → ask n = ask m

theorem ByHead.respects {α : Type} {ask : Node → α} (byHead : ByHead ask) : Respects ask := by
  intro n m alike
  cases alike
  exact byHead _ _ _

variable {α : Type} {ns ms : List Node}

/-! ## Runs -/

theorem IsLiteral.every {ask : Node → α} {nothing : α} (overlooks : Overlooks ask nothing) {n : Node}
    (literal : n.IsLiteral) : n.Every fun m => ask m = nothing := by
  cases literal with
  | intro span? label? t ts =>
    apply Every.intro _ (overlooks.markup span? label? _)
    intro child member
    rcases List.mem_map.mp member with ⟨u, -, rfl⟩
    exact .intro _ (overlooks.token u) EveryIn.nil

theorem OnMarkup.literal {ask : Node → α} {answer : α} (markup : OnMarkup ask answer) {n : Node}
    (literal : n.IsLiteral) : ask n = answer := by
  cases literal
  exact markup _ _ _

theorem IsRun.every {ask : Node → α} {nothing : α} (overlooks : Overlooks ask nothing)
    (run : IsRun ns) : EveryIn (fun m => ask m = nothing) ns :=
  fun n member => (run.literal n member).every overlooks

theorem IsRun.flatMap_eq_nil {ask : Node → List α} (overlooks : Overlooks ask []) (run : IsRun ns) :
    (preorderAll ns).flatMap ask = [] := by
  apply List.flatMap_eq_nil_iff.mpr
  intro n member
  exact (Every.of_mem_preorderAll (run.every overlooks) n member).self

theorem IsLiteral.silent {n : Node} (literal : n.IsLiteral) : n.Every (Headed Head.Silent) := by
  cases literal with
  | intro span? label? t ts =>
    apply Every.intro _ ⟨rfl, rfl⟩
    intro child member
    rcases List.mem_map.mp member with ⟨u, -, rfl⟩
    exact every_silent_markupToken u

theorem IsRun.silent (run : IsRun ns) : AllSilent ns :=
  fun n member => (run.literal n member).silent

theorem IsLiteral.isMarkup {n : Node} (literal : n.IsLiteral) : n.isMarkup = true := by
  cases literal
  rfl

theorem IsLiteral.single {n : Node} (literal : n.IsLiteral) : IsRun [n] :=
  ⟨List.cons_ne_nil n [], by simpa using literal⟩

theorem isLiteral_markupToken (t : Text) : (synthetic .markup [markupToken t]).IsLiteral :=
  .intro none none t []

/-! ## Putting recuts together -/

namespace Recut

theorem append {ns' ms' : List Node} (first : Recut ns ms) (second : Recut ns' ms') :
    Recut (ns ++ ns') (ms ++ ms') := by
  induction first with
  | nil => exact second
  | run literal otherLiteral same rest ih =>
    rw [List.append_assoc, List.append_assoc]
    exact .run literal otherLiteral same ih
  | node unlike inside rest _ ih => exact .node unlike inside ih

/-- What is a recut of something has only literal markup. -/
theorem self (recut : Recut ns ms) : Recut ms ms := by
  induction recut with
  | nil => exact .nil
  | run literal otherLiteral same rest ih => exact .run otherLiteral otherLiteral rfl ih
  | node unlike inside rest ihInside ih => exact .node unlike ihInside ih

/-- A piece may be cut off from the front of a piece. -/
theorem cut {t u : Text} (recut : Recut (synthetic .markup [markupToken u] :: ns) ms) :
    Recut (synthetic .markup [markupToken (t ++ u)] :: ns)
      (synthetic .markup [markupToken t] :: ms) := by
  generalize before : synthetic .markup [markupToken u] :: ns = whole at recut
  cases recut with
  | nil => cases before
  | node unlike inside rest =>
    cases before
    exact absurd rfl unlike
  | @run run other ns' ms' literal otherLiteral same rest =>
    cases run with
    | nil => exact absurd rfl literal.nonempty
    | cons piece more =>
      have first : synthetic .markup [markupToken u] = piece := (List.cons.inj before).1
      have behind : ns = more ++ ns' := (List.cons.inj before).2
      subst first behind
      have pieces : IsRun (synthetic .markup [markupToken (t ++ u)] :: more) :=
        ⟨List.cons_ne_nil _ _, List.forall_mem_cons.mpr
          ⟨isLiteral_markupToken _, (List.forall_mem_cons.mp literal.literal).2⟩⟩
      have others : IsRun (synthetic .markup [markupToken t] :: other) :=
        ⟨List.cons_ne_nil _ _, List.forall_mem_cons.mpr
          ⟨isLiteral_markupToken _, otherLiteral.literal⟩⟩
      refine .run pieces others ?_ rest
      have texts : ∀ v, (synthetic .markup [markupToken v]).text = v := fun v => List.append_nil v
      rw [textAll_cons, texts] at same
      rw [textAll_cons, textAll_cons, texts, texts, List.append_assoc, same]

theorem isEmpty (recut : Recut ns ms) : ns.isEmpty = ms.isEmpty := by
  cases recut with
  | nil => rfl
  | run literal otherLiteral same rest =>
    rw [List.isEmpty_eq_false_iff.mpr (List.append_ne_nil_of_left_ne_nil literal.nonempty _),
      List.isEmpty_eq_false_iff.mpr (List.append_ne_nil_of_left_ne_nil otherLiteral.nonempty _)]
  | node => rfl

/-! ## Questions about nodes and all nodes inside them -/

/-- Answers collected in pre-order are related if those of nodes that are alike are. -/
theorem flatMap_preorderAll {ask : Node → List α} {R : List α → List α → Prop} (nil : R [] [])
    (append : ∀ {as bs cs ds}, R as bs → R cs ds → R (as ++ cs) (bs ++ ds))
    (overlooks : Overlooks ask []) (each : ∀ {n m}, Alike n m → R (ask n) (ask m))
    (recut : Recut ns ms) : R ((preorderAll ns).flatMap ask) ((preorderAll ms).flatMap ask) := by
  induction recut with
  | nil => exact nil
  | run literal otherLiteral same rest ih =>
    rw [preorderAll_append, preorderAll_append, List.flatMap_append, List.flatMap_append,
      literal.flatMap_eq_nil overlooks, otherLiteral.flatMap_eq_nil overlooks]
    exact ih
  | node unlike inside rest ihInside ih =>
    simp only [preorderAll, preorder, List.flatMap_append, List.flatMap_cons]
    exact append (append (each (.intro unlike inside)) ihInside) ih

theorem flatMap_preorderAll_eq {ask : Node → List α} (overlooks : Overlooks ask [])
    (respects : Respects ask) (recut : Recut ns ms) :
    (preorderAll ns).flatMap ask = (preorderAll ms).flatMap ask :=
  recut.flatMap_preorderAll rfl (congrArg₂ (· ++ ·)) overlooks respects

theorem filterMap_preorderAll {ask : Node → Option α} (overlooks : Overlooks ask none)
    (respects : Respects ask) (recut : Recut ns ms) :
    (preorderAll ns).filterMap ask = (preorderAll ms).filterMap ask := by
  rw [List.filterMap_eq_flatMap_toList, List.filterMap_eq_flatMap_toList]
  apply recut.flatMap_preorderAll_eq
  · constructor
    · intro span? label? children
      exact congrArg Option.toList (overlooks.markup span? label? children)
    · intro t
      exact congrArg Option.toList (overlooks.token t)
  · intro n m alike
    exact congrArg Option.toList (respects alike)

theorem findSome?_preorderAll {ask : Node → Option α} (overlooks : Overlooks ask none)
    (respects : Respects ask) (recut : Recut ns ms) :
    (preorderAll ns).findSome? ask = (preorderAll ms).findSome? ask := by
  rw [← List.head?_filterMap, ← List.head?_filterMap,
    recut.filterMap_preorderAll overlooks respects]

/-- The first nodes that satisfy a test are alike. -/
theorem find?_preorderAll {p : Node → Bool} (overlooks : Overlooks p false) (respects : Respects p)
    (recut : Recut ns ms) :
    Option.Rel Alike ((preorderAll ns).find? p) ((preorderAll ms).find? p) := by
  have skip : ∀ {run : List Node}, IsRun run → (preorderAll run).find? p = none := by
    intro run literal
    apply List.find?_eq_none.mpr
    intro n member
    rw [(Every.of_mem_preorderAll (literal.every overlooks) n member).self]
    exact Bool.false_ne_true
  induction recut with
  | nil => exact .none
  | run literal otherLiteral same rest ih =>
    rw [preorderAll_append, preorderAll_append, List.find?_append, List.find?_append, skip literal,
      skip otherLiteral]
    exact ih
  | @node head children others ns ms unlike inside rest ihInside ih =>
    have alike : Alike (.node head children) (.node head others) := .intro unlike inside
    rw [preorderAll, preorderAll, preorder, preorder, List.find?_append, List.find?_append,
      List.find?_cons, List.find?_cons, respects alike]
    cases p (.node head others) with
    | true => exact .some alike
    | false =>
      dsimp only
      generalize (preorderAll children).find? p = first at ihInside ⊢
      generalize (preorderAll others).find? p = otherFirst at ihInside ⊢
      cases ihInside with
      | none => exact ih
      | some found => exact .some found

theorem any_preorderAll {p : Node → Bool} (overlooks : Overlooks p false) (respects : Respects p)
    (recut : Recut ns ms) : (preorderAll ns).any p = (preorderAll ms).any p := by
  have found := recut.find?_preorderAll overlooks respects
  have first : ∀ ks : List Node, (ks.find? p).isSome = ks.any p := fun ks => List.isSome_find?
  rw [← first, ← first]
  generalize (preorderAll ns).find? p = one at found ⊢
  generalize (preorderAll ms).find? p = other at found ⊢
  cases found <;> rfl

theorem textAll (recut : Recut ns ms) : Node.textAll ns = Node.textAll ms := by
  induction recut with
  | nil => rfl
  | run literal otherLiteral same rest ih => rw [textAll_append, textAll_append, same, ih]
  | node unlike inside rest ihInside ih =>
    rw [textAll_cons, textAll_cons, text_node, text_node, ihInside, ih]

end Recut

theorem Alike.text {n m : Node} (alike : Alike n m) : n.text = m.text := by
  cases alike with
  | intro unlike inside => rw [text_node, text_node, inside.textAll]

namespace Recut

/-! ## Questions about the nodes of a list -/

theorem flatMap {ask : Node → List α} (markup : OnMarkup ask []) (respects : Respects ask)
    (recut : Recut ns ms) : ns.flatMap ask = ms.flatMap ask := by
  have skip : ∀ {run : List Node}, IsRun run → run.flatMap ask = [] := fun literal =>
    List.flatMap_eq_nil_iff.mpr fun n member => markup.literal (literal.literal n member)
  induction recut with
  | nil => rfl
  | run literal otherLiteral same rest ih =>
    rw [List.flatMap_append, List.flatMap_append, skip literal, skip otherLiteral, ih]
  | node unlike inside rest _ ih =>
    rw [List.flatMap_cons, List.flatMap_cons, respects (.intro unlike inside), ih]

theorem filterMap {ask : Node → Option α} (markup : OnMarkup ask none) (respects : Respects ask)
    (recut : Recut ns ms) : ns.filterMap ask = ms.filterMap ask := by
  rw [List.filterMap_eq_flatMap_toList, List.filterMap_eq_flatMap_toList]
  apply recut.flatMap
  · intro span? label? children
    exact congrArg Option.toList (markup span? label? children)
  · intro n m alike
    exact congrArg Option.toList (respects alike)

theorem any {p : Node → Bool} (markup : OnMarkup p false) (respects : Respects p)
    (recut : Recut ns ms) : ns.any p = ms.any p := by
  have skip : ∀ {run : List Node}, IsRun run → run.any p = false := by
    intro run literal
    apply List.any_eq_false.mpr
    intro n member
    rw [markup.literal (literal.literal n member)]
    exact Bool.false_ne_true
  induction recut with
  | nil => rfl
  | run literal otherLiteral same rest ih =>
    rw [List.any_append, List.any_append, skip literal, skip otherLiteral, ih]
  | node unlike inside rest _ ih =>
    rw [List.any_cons, List.any_cons, respects (.intro unlike inside), ih]

/-- A test keeps all pieces of markup or none, and of nodes that are alike both or none. -/
theorem filter {p : Node → Bool} (kept : Bool) (markup : OnMarkup p kept) (respects : Respects p)
    (recut : Recut ns ms) : Recut (ns.filter p) (ms.filter p) := by
  induction recut with
  | nil => exact .nil
  | @run run other ns ms literal otherLiteral same rest ih =>
    rw [List.filter_append, List.filter_append]
    cases kept with
    | true =>
      rw [List.filter_eq_self.mpr fun n member => markup.literal (literal.literal n member),
        List.filter_eq_self.mpr fun n member => markup.literal (otherLiteral.literal n member)]
      exact .run literal otherLiteral same ih
    | false =>
      have none : ∀ {pieces : List Node}, IsRun pieces → pieces.filter p = [] := by
        intro pieces literal
        apply List.filter_eq_nil_iff.mpr
        intro n member
        rw [markup.literal (literal.literal n member)]
        exact Bool.false_ne_true
      rw [none literal, none otherLiteral]
      exact ih
  | @node head children others ns ms unlike inside rest _ ih =>
    rw [List.filter_cons, List.filter_cons, respects (.intro unlike inside)]
    split
    · exact .node unlike inside ih
    · exact ih

/-! ## Removing nodes -/

end Recut

/-- A change of lists of trees that removes the nodes that satisfy a test, wherever they are, and
keeps silent nodes. -/
structure Removes (p : Node → Bool) (f : List Node → List Node) : Prop where
  nil : f [] = []
  silent : ∀ {ns : List Node}, AllSilent ns → ∀ ms, f (ns ++ ms) = ns ++ f ms
  node : ∀ head children ns, f (node head children :: ns) =
    if p (node head children) then f ns else node head (f children) :: f ns

namespace Recut

theorem removed {p : Node → Bool} {f : List Node → List Node} (removes : Removes p f)
    (byHead : ByHead p) (recut : Recut ns ms) : Recut (f ns) (f ms) := by
  induction recut with
  | nil =>
    rw [removes.nil]
    exact .nil
  | run literal otherLiteral same rest ih =>
    rw [removes.silent literal.silent, removes.silent otherLiteral.silent]
    exact .run literal otherLiteral same ih
  | @node head children others ns ms unlike inside rest ihInside ih =>
    rw [removes.node, removes.node, byHead head children others]
    split
    · exact ih
    · exact .node unlike ihInside ih

/-! ## Changing the first node that satisfies a test -/

theorem changeFirstIn? {p : Node → Bool} {f g : Node → Node} (overlooks : Overlooks p false)
    (respects : Respects p)
    (changed : ∀ {n m}, Alike n m → p n = true → Recut [f n] [g m]) (recut : Recut ns ms) :
    Option.Rel Recut (Node.changeFirstIn? p f ns) (Node.changeFirstIn? p g ms) := by
  induction recut with
  | nil => exact .none
  | run literal otherLiteral same rest ih =>
    rw [changeFirstIn?_of_every f (fun _ => id) (literal.every overlooks),
      changeFirstIn?_of_every g (fun _ => id) (otherLiteral.every overlooks)]
    generalize Node.changeFirstIn? p f _ = after at ih ⊢
    generalize Node.changeFirstIn? p g _ = otherAfter at ih ⊢
    cases ih with
    | none => exact .none
    | some others => exact .some (.run literal otherLiteral same others)
  | @node head children others ns ms unlike inside rest ihInside ih =>
    have alike : Alike (.node head children) (.node head others) := .intro unlike inside
    rw [Node.changeFirstIn?, Node.changeFirstIn?, changeFirst?, changeFirst?, respects alike]
    cases fits : p (.node head others) with
    | true =>
      have here := changed alike ((respects alike).trans fits)
      exact .some (here.append rest)
    | false =>
      simp only [Bool.false_eq_true, if_false]
      generalize Node.changeFirstIn? p f children = inner at ihInside ⊢
      generalize Node.changeFirstIn? p g others = otherInner at ihInside ⊢
      generalize Node.changeFirstIn? p f ns = after at ih ⊢
      generalize Node.changeFirstIn? p g ms = otherAfter at ih ⊢
      cases ihInside with
      | some within => exact .some (.node unlike within rest)
      | none =>
        cases ih with
        | none => exact .none
        | some behind => exact .some (.node unlike inside behind)

end Recut

/-! ## Joining markup -/

theorem isMarkup_of_unlike {head : Head} (unlike : head.content ≠ .markup) (children : List Node) :
    (node head children).isMarkup = false := by
  rcases head with ⟨content, span?, diagnostics, label?⟩
  cases content with
  | markup => exact absurd rfl unlike
  | _ => rfl

/-- Two pieces of literal markup are joined to one with both texts. -/
theorem IsLiteral.join {a b : Node} (first : a.IsLiteral) (second : b.IsLiteral) :
    ∃ joined, joinMarkup? a b = some joined ∧ joined.IsLiteral ∧ joined.text = a.text ++ b.text := by
  cases first with
  | intro span? label? t ts =>
    cases second with
    | intro otherSpan? otherLabel? u us =>
      refine ⟨_, rfl, ?_, ?_⟩
      · rw [← List.map_append]
        exact .intro _ _ t (ts ++ u :: us)
      · rw [text_node, text_node, text_node, textAll_append]
        rfl

/-- Pieces of literal markup are joined to what stands before them. -/
theorem joinRuns_literal {run : List Node} : ∀ {first : Node}, first.IsLiteral →
    (∀ n ∈ run, n.IsLiteral) → ∃ joined, joined.IsLiteral
      ∧ joined.text = first.text ++ textAll run
      ∧ ∀ rest, joinRuns first (run ++ rest) = joinRuns joined rest := by
  induction run with
  | nil =>
    intro first literal _
    exact ⟨first, literal, (List.append_nil _).symm, fun _ => rfl⟩
  | cons n run ih =>
    intro first literal pieces
    rcases List.forall_mem_cons.mp pieces with ⟨piece, others⟩
    rcases literal.join piece with ⟨both, found, isLiteral, text⟩
    rcases ih isLiteral others with ⟨joined, joinedLiteral, whole, same⟩
    refine ⟨joined, joinedLiteral, ?_, fun rest => ?_⟩
    · rw [whole, text, textAll_cons, List.append_assoc]
    · rw [List.cons_append, joinRuns, found]
      exact same rest

/-- A node that is no markup starts no run. -/
theorem joinSiblings_of_not_isMarkup {n : Node} (other : n.isMarkup = false) (ns : List Node) :
    joinSiblings (n :: ns) = n :: joinSiblings ns := by
  cases ns with
  | nil => rfl
  | cons m ns =>
    have apart : joinMarkup? n m = none := apart_iff.mpr (by rw [other, Bool.false_and])
    rw [joinSiblings, joinRuns, apart]
    rfl

/-- A node that is no markup ends a run. -/
theorem joinRuns_of_not_isMarkup {n : Node} (other : n.isMarkup = false) (first : Node)
    (ns : List Node) : joinRuns first (n :: ns) = first :: joinSiblings (n :: ns) := by
  have apart : joinMarkup? first n = none := apart_iff.mpr (by rw [other, Bool.and_false])
  rw [joinRuns, apart]
  rfl

theorem joinSiblings_unlike {head : Head} (unlike : head.content ≠ .markup)
    (children ns : List Node) :
    joinSiblings (node head children :: ns) = node head children :: joinSiblings ns :=
  joinSiblings_of_not_isMarkup (isMarkup_of_unlike unlike children) ns

theorem joinRuns_unlike {head : Head} (unlike : head.content ≠ .markup) (first : Node)
    (children ns : List Node) :
    joinRuns first (node head children :: ns) = first :: node head children :: joinSiblings ns := by
  rw [joinRuns_of_not_isMarkup (isMarkup_of_unlike unlike children), joinSiblings_unlike unlike]

/-! Joining has nothing to do inside of literal markup. -/

theorem heightAll_of_forall {levels : Nat} (nonempty : ns ≠ [])
    (each : ∀ n ∈ ns, n.height = levels) : heightAll ns = levels := by
  induction ns with
  | nil => exact absurd rfl nonempty
  | cons n ns ih =>
    rcases List.forall_mem_cons.mp each with ⟨first, others⟩
    cases ns with
    | nil => simp [heightAll, first]
    | cons m ns =>
      rw [heightAll, first, ih (List.cons_ne_nil m ns) others]
      exact Nat.max_self levels

theorem IsLiteral.height {n : Node} (literal : n.IsLiteral) : n.height = 2 := by
  cases literal with
  | intro span? label? t ts =>
    have tokens : heightAll ((t :: ts).map markupToken) = 1 := by
      refine heightAll_of_forall (List.cons_ne_nil _ _) fun n member => ?_
      rcases List.mem_map.mp member with ⟨u, -, rfl⟩
      rfl
    rw [Node.height, tokens]

theorem IsRun.heightAll (run : IsRun ns) : heightAll ns = 2 :=
  heightAll_of_forall run.nonempty fun n member => (run.literal n member).height

theorem IsLiteral.childrenApart {n : Node} (literal : n.IsLiteral) : n.Every ChildrenApart := by
  cases literal with
  | intro span? label? t ts =>
    apply Every.intro
    · change ((t :: ts).map markupToken).IsChain Apart
      rw [List.isChain_map]
      exact (List.pairwise_of_forall fun _ _ => rfl).isChain
    · intro child member
      rcases List.mem_map.mp member with ⟨u, -, rfl⟩
      exact .intro _ List.isChain_nil EveryIn.nil

theorem IsRun.map_mergeLevels (run : IsRun ns) (levels : Nat) :
    ns.map (mergeLevels levels) = ns := by
  refine (List.map_congr_left fun n member => ?_).trans (List.map_id' ns)
  exact mergeLevels_of_merged levels (run.literal n member).childrenApart

namespace Recut

/-- Pieces with one text, before recuts, are the start of recuts. -/
theorem cons {n m : Node} (literal : n.IsLiteral) (otherLiteral : m.IsLiteral)
    (same : n.text = m.text) (rest : Recut ns ms) : Recut (n :: ns) (m :: ms) := by
  refine .run literal.single otherLiteral.single ?_ rest
  rw [textAll_singleton, textAll_singleton, same]

/-- Joining recuts gives recuts.  What stands before a list is joined with it, and may be cut
differently in the two. -/
theorem joinSiblings_and_joinRuns (recut : Recut ns ms) :
    Recut (joinSiblings ns) (joinSiblings ms) ∧
      ∀ {first other : Node}, first.IsLiteral → other.IsLiteral → first.text = other.text →
        Recut (joinRuns first ns) (joinRuns other ms) := by
  induction recut with
  | nil => exact ⟨.nil, fun literal otherLiteral same => .cons literal otherLiteral same .nil⟩
  | @run run other ns ms runs otherRuns texts rest ih =>
    have before : ∀ {first before : Node}, first.IsLiteral → before.IsLiteral →
        ∀ {pieces others : List Node}, (∀ n ∈ pieces, n.IsLiteral) → (∀ n ∈ others, n.IsLiteral) →
          first.text ++ Node.textAll pieces = before.text ++ Node.textAll others →
            Recut (joinRuns first (pieces ++ ns)) (joinRuns before (others ++ ms)) := by
      intro first before literal otherLiteral pieces others areLiteral areOtherLiteral same
      rcases joinRuns_literal literal areLiteral with ⟨joined, isLiteral, text, joins⟩
      rcases joinRuns_literal otherLiteral areOtherLiteral with
        ⟨otherJoined, isOtherLiteral, otherText, otherJoins⟩
      rw [joins, otherJoins]
      exact ih.2 isLiteral isOtherLiteral (by rw [text, otherText, same])
    constructor
    · rcases run with - | ⟨n, pieces⟩
      · exact absurd rfl runs.nonempty
      rcases other with - | ⟨m, others⟩
      · exact absurd rfl otherRuns.nonempty
      rcases List.forall_mem_cons.mp runs.literal with ⟨literal, areLiteral⟩
      rcases List.forall_mem_cons.mp otherRuns.literal with ⟨otherLiteral, areOtherLiteral⟩
      rw [textAll_cons, textAll_cons] at texts
      exact before literal otherLiteral areLiteral areOtherLiteral texts
    · intro first before' literal otherLiteral same
      exact before literal otherLiteral runs.literal otherRuns.literal (by rw [same, texts])
  | node unlike inside rest _ ih =>
    constructor
    · rw [joinSiblings_unlike unlike, joinSiblings_unlike unlike]
      exact .node unlike inside ih.1
    · intro first other literal otherLiteral same
      rw [joinRuns_unlike unlike, joinRuns_unlike unlike]
      exact .cons literal otherLiteral same (.node unlike inside ih.1)

theorem heightAll (recut : Recut ns ms) : Node.heightAll ns = Node.heightAll ms := by
  induction recut with
  | nil => rfl
  | run literal otherLiteral same rest ih =>
    rw [heightAll_append, heightAll_append, literal.heightAll, otherLiteral.heightAll, ih]
  | node unlike inside rest ihInside ih => simp only [Node.heightAll, height, ihInside, ih]

theorem map_mergeLevels (levels : Nat) : ∀ {ns ms : List Node}, Recut ns ms →
    Recut (ns.map (mergeLevels levels)) (ms.map (mergeLevels levels)) := by
  induction levels with
  | zero =>
    intro ns ms recut
    have same : ∀ ks : List Node, ks.map (mergeLevels 0) = ks := List.map_id'
    rw [same, same]
    exact recut
  | succ levels ihLevels =>
    intro ns ms recut
    induction recut with
    | nil => exact .nil
    | run literal otherLiteral same rest ih =>
      rw [List.map_append, List.map_append, literal.map_mergeLevels, otherLiteral.map_mergeLevels]
      exact .run literal otherLiteral same ih
    | node unlike inside rest _ ih =>
      exact .node unlike (ihLevels inside.joinSiblings_and_joinRuns.1) ih

end Recut

end IR.Node

end TemplateCompiler
