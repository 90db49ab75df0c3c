import TemplateCompiler.Proofs.RecutMarkup

/-!
# What joining markup keeps

Joining goes through a tree from the top down.  Each run of neighbouring pieces of markup becomes one
node, whose children are those of the pieces one after another, and which are joined in turn.  So
pieces that were apart can become neighbours, if they stand inside of markup.

`Merging` relates a tree to the joined one, run by run.  It says what one node of the result is made
of; what joining keeps of a tree as a whole is proved from it by induction: how the tree looks from
outside of markup, every node that is no markup, and what was found.
-/

namespace TemplateCompiler

namespace Span

/-- A span of the same file lies inside of this one. -/
structure Encloses (s t : Span) : Prop where
  file : s.file = t.file
  start : s.start ≤ t.start
  stop : t.stop ≤ s.stop

/-- The smallest span that encloses some spans. -/
structure IsHull (parts : List Span) (s : Span) : Prop where
  encloses : ∀ p ∈ parts, s.Encloses p
  least : ∀ t : Span, (∀ p ∈ parts, t.Encloses p) → t.Encloses s

theorem IsHull.single (s : Span) : IsHull [s] s where
  encloses := by
    intro p member
    rw [List.mem_singleton.mp member]
    exact ⟨rfl, Nat.le_refl _, Nat.le_refl _⟩
  least := fun _ encloses => encloses s List.mem_cons_self

theorem cover_of_file {s t : Span} (same : s.file = t.file) :
    s.cover t = ⟨s.file, min s.start t.start, max s.stop t.stop⟩ :=
  if_pos (beq_iff_eq.mpr same)

/-- A hull grows with the spans that it is of. -/
theorem IsHull.cover {parts : List Span} {s t : Span} (hull : IsHull parts s)
    (same : s.file = t.file) : IsHull (parts ++ [t]) (s.cover t) := by
  rw [cover_of_file same]
  refine ⟨List.forall_mem_append.mpr ⟨fun p member => ?_, ?_⟩, fun u encloses => ?_⟩
  · have inside := hull.encloses p member
    exact ⟨inside.file, Nat.le_trans (Nat.min_le_left _ _) inside.start,
      Nat.le_trans inside.stop (Nat.le_max_left _ _)⟩
  · rw [List.forall_mem_singleton]
    exact ⟨same, Nat.min_le_right _ _, Nat.le_max_right _ _⟩
  · rcases List.forall_mem_append.mp encloses with ⟨those, this⟩
    have first := hull.least u those
    have second := List.forall_mem_singleton.mp this
    exact ⟨first.file, Nat.le_min.mpr ⟨first.start, second.start⟩,
      Nat.max_le.mpr ⟨first.stop, second.stop⟩⟩

/-- A span is the smallest one around some others, if these are all known and in a file. -/
def HullOf (file : Nat) (places : List (Option Span)) (span? : Option Span) : Prop :=
  ∀ parts, places = parts.map some → (∀ p ∈ parts, p.file = file) →
    ∃ s, span? = some s ∧ s.file = file ∧ IsHull parts s

theorem HullOf.single {file : Nat} (span? : Option Span) : HullOf file [span?] span? := by
  intro parts places one
  rcases parts with - | ⟨s, others⟩
  · cases places
  rcases List.cons.inj places with ⟨place, none⟩
  cases List.map_eq_nil_iff.mp none.symm
  exact ⟨s, place, one s List.mem_cons_self, .single s⟩

end Span

namespace IR

/-! ## Trees without the cuts in their markup -/

inductive Appearance where
  | absent
  | markup (text : Text)
  | node (head : Head) (inside : List Appearance)

/-- An appearance in front of others.  Markup in front of markup is one text. -/
def Appearance.before : Appearance → List Appearance → List Appearance
  | markup t, markup u :: rest => markup (t ++ u) :: rest
  | v, rest => v :: rest

namespace Node

mutual

/-- How a tree looks from outside of its markup.  Two trees with the same appearance differ in how
literal markup is divided into nodes and tokens, and in nothing else. -/
def appearance : Node → Appearance
  | absent => .absent
  | node head children =>
    if head.content = .markup then .markup (node head children).text
    else .node head (appearanceAll children)

/-- How neighbouring trees look from outside of their markup: each run of markup is one text. -/
def appearanceAll : List Node → List Appearance
  | [] => []
  | n :: ns => (appearance n).before (appearanceAll ns)

end

mutual

/-- A tree with the children of each piece of markup in its place. -/
def unwrap : Node → List Node
  | absent => [absent]
  | node head children =>
    if head.content = .markup then unwrapAll children else [node head (unwrapAll children)]

def unwrapAll : List Node → List Node
  | [] => []
  | n :: ns => unwrap n ++ unwrapAll ns

end

theorem unwrapAll_append (ns ms : List Node) :
    unwrapAll (ns ++ ms) = unwrapAll ns ++ unwrapAll ms := by
  induction ns with
  | nil => rfl
  | cons n ns ih =>
    change unwrap n ++ unwrapAll (ns ++ ms) = _
    rw [ih, ← List.append_assoc]
    rfl

theorem unwrapAll_singleton (n : Node) : unwrapAll [n] = n.unwrap := List.append_nil _

theorem appearanceAll_singleton (n : Node) : appearanceAll [n] = [n.appearance] := by
  rw [appearanceAll, appearanceAll]
  cases n.appearance <;> rfl

/-! ## Pieces of markup -/

theorem isMarkup_of_content {head : Head} (markup : head.content = .markup) (children : List Node) :
    (node head children).isMarkup = true := by
  rcases head with ⟨content, span?, diagnostics, label?⟩
  cases markup
  rfl

theorem content_of_isMarkup {head : Head} {children : List Node}
    (markup : (node head children).isMarkup = true) : head.content = .markup := by
  by_cases same : head.content = .markup
  · exact same
  · rw [isMarkup_of_unlike same] at markup
    cases markup

theorem exists_of_isMarkup {n : Node} (markup : n.isMarkup = true) :
    ∃ head children, n = node head children ∧ head.content = .markup := by
  cases n with
  | absent => cases markup
  | node head children => exact ⟨head, children, rfl, content_of_isMarkup markup⟩

section Markup

variable {n : Node}

theorem text_of_markup (markup : n.isMarkup = true) : n.text = textAll n.children := by
  rcases exists_of_isMarkup markup with ⟨⟨content, _, _, _⟩, children, rfl, same⟩
  cases same
  rw [text_node]
  rfl

theorem appearance_of_markup (markup : n.isMarkup = true) : n.appearance = .markup n.text := by
  rcases exists_of_isMarkup markup with ⟨head, children, rfl, same⟩
  rw [appearance, if_pos same]

theorem unwrap_of_markup (markup : n.isMarkup = true) : n.unwrap = unwrapAll n.children := by
  rcases exists_of_isMarkup markup with ⟨head, children, rfl, same⟩
  rw [unwrap, if_pos same]
  rfl

theorem allDiagnostics_of_markup (markup : n.isMarkup = true) :
    n.allDiagnostics = n.diagnostics ++ diagnosticsAll n.children := by
  rcases exists_of_isMarkup markup with ⟨head, children, rfl, -⟩
  exact allDiagnostics_node head children

end Markup

/-- Markup is apart from what stands behind it, unless that is markup. -/
theorem markup_before_appearanceAll {ns : List Node} (ends : ns.head?.any isMarkup = false)
    (t : Text) :
    (Appearance.markup t).before (appearanceAll ns) = .markup t :: appearanceAll ns := by
  rcases ns with - | ⟨n, ns⟩
  · rfl
  rcases n with - | ⟨head, children⟩
  · rfl
  · have other : head.content ≠ .markup := by
      intro same
      have markup := isMarkup_of_content same children
      rw [show (node head children).isMarkup = false from ends] at markup
      cases markup
    rw [appearanceAll, appearance, if_neg other]
    rfl

section Parts

variable {parts : List Node}

theorem textAll_flatMap_children (markup : ∀ p ∈ parts, p.isMarkup = true) :
    textAll (parts.flatMap children) = textAll parts := by
  induction parts with
  | nil => rfl
  | cons p parts ih =>
    rcases List.forall_mem_cons.mp markup with ⟨first, others⟩
    rw [List.flatMap_cons, textAll_append, textAll_cons, ih others, text_of_markup first]

theorem unwrapAll_flatMap_children (markup : ∀ p ∈ parts, p.isMarkup = true) :
    unwrapAll (parts.flatMap children) = unwrapAll parts := by
  induction parts with
  | nil => rfl
  | cons p parts ih =>
    rcases List.forall_mem_cons.mp markup with ⟨first, others⟩
    rw [List.flatMap_cons, unwrapAll_append, unwrapAll, ih others, unwrap_of_markup first]

/-- What was found about pieces of markup and in them, when the pieces come first. -/
theorem diagnosticsAll_parts (markup : ∀ p ∈ parts, p.isMarkup = true) :
    (parts.flatMap diagnostics ++ diagnosticsAll (parts.flatMap children)).Perm
      (diagnosticsAll parts) := by
  induction parts with
  | nil => exact .nil
  | cons p parts ih =>
    rcases List.forall_mem_cons.mp markup with ⟨first, others⟩
    rw [List.flatMap_cons, List.flatMap_cons, diagnosticsAll_append, diagnosticsAll_cons_eq,
      allDiagnostics_of_markup first, List.append_assoc, List.append_assoc]
    apply List.Perm.append_left
    -- The findings in the first piece move in front of those about the other pieces.
    exact List.perm_append_comm_assoc _ _ _ |>.trans ((ih others).append_left _)

/-- A run of markup is seen as one text. -/
theorem appearanceAll_parts (markup : ∀ p ∈ parts, p.isMarkup = true) (nonempty : parts ≠ [])
    {ns : List Node} (ends : ns.head?.any isMarkup = false) :
    appearanceAll (parts ++ ns) = .markup (textAll parts) :: appearanceAll ns := by
  induction parts with
  | nil => exact absurd rfl nonempty
  | cons p parts ih =>
    rcases List.forall_mem_cons.mp markup with ⟨first, others⟩
    rw [List.cons_append, appearanceAll, appearance_of_markup first, textAll_cons]
    by_cases last : parts = []
    · subst last
      rw [List.nil_append, markup_before_appearanceAll ends]
      exact congrArg (Appearance.markup · :: _) (List.append_nil _).symm
    · rw [ih others last]
      rfl

end Parts

/-! ## The relation -/

theorem joinSpans_hull {file : Nat} {places : List (Option Span)} {a : Option Span}
    (hull : Span.HullOf file places a) (b : Option Span) :
    Span.HullOf file (places ++ [b]) (joinSpans a b) := by
  intro parts known one
  rcases List.append_eq_map_iff.mp known with ⟨before, last, rfl, front, back⟩
  rcases last with - | ⟨t, none⟩
  · cases back
  rcases List.cons.inj back with ⟨place, nothing⟩
  cases List.map_eq_nil_iff.mp nothing
  rcases List.forall_mem_append.mp one with ⟨oneBefore, oneLast⟩
  rcases hull before front.symm oneBefore with ⟨s, rfl, inFile, isHull⟩
  have together : s.file = t.file := inFile.trans (oneLast t List.mem_cons_self).symm
  refine ⟨s.cover t, ?_, ?_, isHull.cover together⟩
  · rw [← place, joinSpans, if_pos (beq_iff_eq.mpr together)]
  · rw [Span.cover_of_file together]
    exact inFile

/-- A piece of markup, apart from its children, that stands for a run of them: it has their findings,
and if their spans are all known and of one file, it has the smallest span around them. -/
structure JoinedFrom (parts : List Node) (head : Head) : Prop where
  nonempty : parts ≠ []
  markup : ∀ p ∈ parts, p.isMarkup = true
  content : head.content = .markup
  diagnostics : head.diagnostics = parts.flatMap diagnostics
  span : ∀ file, Span.HullOf file (parts.map span?) head.span?

/-- Trees, and the same trees with all neighbouring markup joined. -/
inductive Merging : List Node → List Node → Prop
  | nil : Merging [] []
  | absent {ns ms : List Node} (rest : Merging ns ms) : Merging (absent :: ns) (absent :: ms)
  | node {head : Head} {children others ns ms : List Node} (unlike : head.content ≠ .markup)
      (inside : Merging children others) (rest : Merging ns ms) :
      Merging (node head children :: ns) (node head others :: ms)
  /-- A run of markup that goes on as far as it can. -/
  | run {parts : List Node} {head : Head} {inner ns ms : List Node} (joined : JoinedFrom parts head)
      (ends : ns.head?.any isMarkup = false) (inside : Merging (parts.flatMap children) inner)
      (rest : Merging ns ms) : Merging (parts ++ ns) (node head inner :: ms)

theorem JoinedFrom.single {head : Head} (content : head.content = .markup) (children : List Node) :
    JoinedFrom [node head children] head := by
  refine ⟨List.cons_ne_nil _ _, ?_, content, (List.append_nil _).symm, fun _ => .single _⟩
  rw [List.forall_mem_singleton]
  exact isMarkup_of_content content children

/-- One more piece of markup is joined to a run. -/
theorem JoinedFrom.join {parts : List Node} {head : Head} (joined : JoinedFrom parts head)
    {n : Node} (markup : n.isMarkup = true) :
    ∃ next : Head, JoinedFrom (parts ++ [n]) next
      ∧ ∀ children, joinMarkup? (node head children) n =
          some (node next (children ++ n.children)) := by
  rcases exists_of_isMarkup markup with
    ⟨⟨otherContent, otherSpan?, found, otherLabel?⟩, others, rfl, other⟩
  rcases head with ⟨content, span?, diagnostics, label?⟩
  have same : content = .markup := joined.content
  subst same
  have alike : otherContent = .markup := other
  subst alike
  refine ⟨{ content := .markup, span? := joinSpans span? otherSpan?
            diagnostics := diagnostics ++ found, label? }, ?_, fun _ => rfl⟩
  refine ⟨?_, List.forall_mem_append.mpr ⟨joined.markup, ?_⟩, rfl, ?_, ?_⟩
  · exact List.append_ne_nil_of_right_ne_nil _ (List.cons_ne_nil _ _)
  · exact List.forall_mem_singleton.mpr rfl
  · rw [List.flatMap_append, ← joined.diagnostics]
    exact congrArg (diagnostics ++ ·) (List.append_nil found).symm
  · intro file
    rw [List.map_append]
    exact joinSpans_hull (joined.span file) otherSpan?

/-! ## Joining follows the relation -/

theorem height_pos (n : Node) : 0 < n.height := by
  cases n with
  | absent => exact Nat.one_pos
  | node head children => exact Nat.succ_pos _

/-- On one level, the relation follows from that on the levels below.  The second part is about
markup that has already been joined and stands before the others.  A piece of markup starts a run of
its own, or goes on with the one before it. -/
theorem joinSiblings_merging_succ {levels : Nat}
    (below : ∀ ns : List Node, heightAll ns ≤ levels →
      Merging ns ((joinSiblings ns).map (mergeLevels levels)))
    (ns : List Node) (low : heightAll ns ≤ levels + 1) :
    Merging ns ((joinSiblings ns).map (mergeLevels (levels + 1)))
      ∧ ∀ {parts : List Node} {head : Head}, JoinedFrom parts head →
        heightAll (parts.flatMap children) ≤ levels →
        Merging (parts ++ ns)
          ((joinRuns (node head (parts.flatMap children)) ns).map (mergeLevels (levels + 1))) := by
  induction ns with
  | nil => exact ⟨.nil, fun joined inside => .run joined rfl (below _ inside) .nil⟩
  | cons n ns ih =>
    rcases Nat.max_le.mp low with ⟨here, rest⟩
    rcases ih rest with ⟨siblings, runs⟩
    by_cases markup : n.isMarkup = true
    · have under : heightAll n.children ≤ levels := by
        rcases exists_of_isMarkup markup with ⟨head, children, rfl, -⟩
        exact Nat.le_of_succ_le_succ here
      constructor
      · rcases exists_of_isMarkup markup with ⟨head, children, rfl, content⟩
        have alone : JoinedFrom [node head children] head := .single content children
        have joined := runs alone
        rw [List.flatMap_singleton] at joined
        exact joined under
      · intro parts head joined inside
        rcases joined.join markup with ⟨next, longer, joins⟩
        rw [joinRuns, joins]
        have more := runs longer
        rw [List.flatMap_append, List.flatMap_singleton, heightAll_append, List.append_assoc] at more
        exact more (Nat.max_le.mpr ⟨inside, under⟩)
    · have other := Bool.eq_false_iff.mpr markup
      have next : Merging (n :: ns) ((joinSiblings (n :: ns)).map (mergeLevels (levels + 1))) := by
        rw [joinSiblings_of_not_isMarkup other]
        cases n with
        | absent => exact .absent siblings
        | node head children =>
          refine .node (fun content => markup (isMarkup_of_content content children)) ?_ siblings
          exact below children (Nat.le_of_succ_le_succ here)
      refine ⟨next, fun joined inside => ?_⟩
      rw [joinRuns_of_not_isMarkup other]
      exact .run joined other (below _ inside) next

/-- Joining on as many levels as there are joins all neighbouring markup. -/
theorem joinSiblings_merging (levels : Nat) : ∀ ns : List Node, heightAll ns ≤ levels →
    Merging ns ((joinSiblings ns).map (mergeLevels levels)) := by
  induction levels with
  | zero =>
    intro ns low
    cases ns with
    | nil => exact .nil
    | cons n ns =>
      have flat := Nat.le_trans (Nat.le_max_left n.height (heightAll ns)) low
      exact absurd n.height_pos (Nat.not_lt.mpr flat)
  | succ levels ih =>
    intro ns low
    exact (joinSiblings_merging_succ ih ns low).1

/-! ## What the relation keeps -/

namespace Merging

variable {ns ms : List Node}

theorem head?_isMarkup (merging : Merging ns ms) :
    ms.head?.any isMarkup = ns.head?.any isMarkup := by
  cases merging with
  | nil => rfl
  | absent => rfl
  | node unlike => exact isMarkup_byHead _ _ _
  | @run parts head inner ns ms joined =>
    rcases parts with - | ⟨p, parts⟩
    · exact absurd rfl joined.nonempty
    · exact (isMarkup_of_content joined.content inner).trans
        (joined.markup p List.mem_cons_self).symm

/-- The texts of all tokens stay in order. -/
theorem textAll (merging : Merging ns ms) : Node.textAll ms = Node.textAll ns := by
  induction merging with
  | nil => rfl
  | absent _ ih => rw [textAll_cons, textAll_cons, ih]
  | node _ _ _ inside ih => rw [textAll_cons, textAll_cons, text_node, text_node, inside, ih]
  | @run parts head inner ns ms joined _ _ _ inside ih =>
    rw [textAll_cons, textAll_append, text_of_markup (isMarkup_of_content joined.content inner),
      ← textAll_flatMap_children joined.markup, ← inside, ih]
    rfl

/-- From outside of markup, joining is not seen. -/
theorem appearanceAll (merging : Merging ns ms) : Node.appearanceAll ms = Node.appearanceAll ns := by
  induction merging with
  | nil => rfl
  | absent _ ih => rw [Node.appearanceAll, Node.appearanceAll, ih]
  | node unlike _ _ inside ih =>
    rw [Node.appearanceAll, Node.appearanceAll, appearance, appearance, if_neg unlike,
      if_neg unlike, inside, ih]
  | @run parts head inner ns ms joined ends inside rest _ ih =>
    have markup := isMarkup_of_content joined.content inner
    rw [appearanceAll_parts joined.markup joined.nonempty ends, Node.appearanceAll,
      appearance_of_markup markup, markup_before_appearanceAll (rest.head?_isMarkup.trans ends), ih,
      text_of_markup markup,
      ← textAll_flatMap_children joined.markup, ← inside.textAll]
    rfl

/-- Nodes that are no markup stay as they are, with everything inside of them. -/
theorem unwrapAll (merging : Merging ns ms) : Node.unwrapAll ms = Node.unwrapAll ns := by
  induction merging with
  | nil => rfl
  | absent _ ih => rw [Node.unwrapAll, Node.unwrapAll, ih]
  | node unlike _ _ inside ih =>
    rw [Node.unwrapAll, Node.unwrapAll, unwrap, unwrap, if_neg unlike, if_neg unlike, inside, ih]
  | @run parts head inner ns ms joined _ _ _ inside ih =>
    have markup := isMarkup_of_content joined.content inner
    rw [Node.unwrapAll, unwrapAll_append, unwrap_of_markup markup,
      ← unwrapAll_flatMap_children joined.markup, ← inside, ih]
    rfl

/-- All findings are kept, each as often as it was there. -/
theorem diagnosticsAll (merging : Merging ns ms) :
    (Node.diagnosticsAll ms).Perm (Node.diagnosticsAll ns) := by
  induction merging with
  | nil => exact .nil
  | absent _ ih =>
    rw [diagnosticsAll_cons_eq, diagnosticsAll_cons_eq]
    exact ih.append_left _
  | node _ _ _ inside ih =>
    rw [diagnosticsAll_cons_eq, diagnosticsAll_cons_eq, allDiagnostics_node, allDiagnostics_node]
    exact (inside.append_left _).append ih
  | @run parts head inner ns ms joined _ _ _ inside ih =>
    rw [diagnosticsAll_cons_eq, diagnosticsAll_append, allDiagnostics_node, joined.diagnostics]
    exact ((inside.append_left _).trans (diagnosticsAll_parts joined.markup)).append ih

end Merging

end Node

namespace Document

open Node

/-- Joining the markup of a document leaves no two pieces of markup next to each other.  The document
looks the same from outside of its markup, where each run of markup is one text; its nodes of other
kinds are the same, in the same order and inside of one another as before; the same things were
found as often as before; and each piece of markup that is left stands for a run of the pieces there
were, with the smallest span around them if these are of one file. -/
theorem mergeMarkup_merging (d : Document) :
    (∀ n ∈ d.mergeMarkup.toNode.preorder,
        n.children.IsChain fun a b => (a.isMarkup && b.isMarkup) = false)
      ∧ d.mergeMarkup.toNode.appearance = d.toNode.appearance
      ∧ d.mergeMarkup.toNode.unwrap = d.toNode.unwrap
      ∧ d.mergeMarkup.allDiagnostics.Perm d.allDiagnostics
      ∧ Merging d.children d.mergeMarkup.children := by
  have merging : Merging d.children d.mergeMarkup.children :=
    joinSiblings_merging (heightAll d.children) d.children (Nat.le_refl _)
  have whole : Merging [d.toNode] [d.mergeMarkup.toNode] := .node nofun merging .nil
  refine ⟨?_, ?_, ?_, ?_, merging⟩
  · have merged : d.mergeMarkup.toNode.Every ChildrenApart :=
      .intro _ d.isMerged_mergeMarkup.apart d.isMerged_mergeMarkup.inside
    intro n member
    exact (merged.of_mem_preorder n member).self.imp fun _ _ => apart_iff.mp
  · have same := whole.appearanceAll
    rw [appearanceAll_singleton, appearanceAll_singleton] at same
    exact List.singleton_inj.mp same
  · have same := whole.unwrapAll
    rwa [unwrapAll_singleton, unwrapAll_singleton] at same
  · have same := whole.diagnosticsAll
    rwa [← Node.allDiagnostics_eq, ← Node.allDiagnostics_eq] at same

end Document

end IR

end TemplateCompiler
