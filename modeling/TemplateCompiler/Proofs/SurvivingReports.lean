import TemplateCompiler.Proofs.BindingReports
import TemplateCompiler.Proofs.SilentNodes

/-!
# Which findings about directives are left

A malformed directive carries its findings into the intermediate tree, unless it stands in the block
of another malformed directive, which is not lowered at all.  Later the well-formed directives are
removed with everything in their blocks, so a finding is left only if no well-formed directive is
around it.  Sections are the exception: a section directive becomes a section with the block before
directives are removed.  That happens once for each name, not for the sections inside it, and
cannot save what is in the block of another directive.

`Syntax.Node.survivingAll` computes what is left from a syntax tree, and the main statement of this
module says that passes on the lowered nodes leave exactly that.
-/

namespace TemplateCompiler

namespace Syntax

def DirectiveHead.sectionName (head : DirectiveHead) : Text :=
  (head.tokens.head?.map DirectiveToken.content).getD []

/-- Whether a directive has the definition of sections. -/
def DirectiveHead.isSection (head : DirectiveHead) : Bool :=
  head.descriptor.digest == DirectiveDescriptor.sectionBlock.digest

namespace Node

mutual

/-- The findings about malformed directives of a tree that are in no other directive. -/
def openReports : Node → List Diagnostic
  | .directive _ head _ => if head.isMalformed then head.diagnostics else []
  | .element _ _ _ body | .helper _ _ body => openReportsAll body
  | _ => []

/-- The findings about malformed directives of some trees that are in no other directive. -/
def openReportsAll : List Node → List Diagnostic
  | [] => []
  | n :: ns => openReports n ++ openReportsAll ns

end

mutual

/-- The findings about directives of a tree that are left after the passes.  `names` are those of
the sections defined so far, and the names defined afterwards come with the findings.  Where only
directives are kept, what is in a tag helper is dropped. -/
def surviving (directivesOnly : Bool) (names : List Text) : Node → List Diagnostic × List Text
  | .directive _ head body =>
    if head.isMalformed then (head.diagnostics, names)
    else if Lowering.isImport head then ([], names)
    else
      let isBlock := head.descriptor.kind == .markupBlock
      if head.isSection then
        if names.contains head.sectionName then ([], names)
        else (if isBlock then openReportsAll body else [], head.sectionName :: names)
      else ([], if isBlock then (survivingAll false names body).2 else names)
  | .element _ _ _ body => survivingAll directivesOnly names body
  | .helper _ _ body => if directivesOnly then ([], names) else survivingAll false names body
  | _ => ([], names)

def survivingAll (directivesOnly : Bool) (names : List Text) :
    List Node → List Diagnostic × List Text
  | [] => ([], names)
  | n :: ns =>
    let (here, names) := surviving directivesOnly names n
    let (after, names) := survivingAll directivesOnly names ns
    (here ++ after, names)

end

end Node

end Syntax

namespace Lowering

open IR IR.Node

/-! ## What lowering makes of other nodes -/

def NoTokens (ns : List Node) : Prop := ∀ n ∈ ns, n.isToken = false

theorem NoTokens.nil : NoTokens [] := fun _ member => absurd member List.not_mem_nil

theorem NoTokens.cons {n : Node} {ns : List Node} (first : n.isToken = false)
    (rest : NoTokens ns) : NoTokens (n :: ns) := by
  intro m member
  rcases List.mem_cons.mp member with rfl | behind
  · exact first
  · exact rest m behind

theorem NoTokens.append {ns ms : List Node} (first : NoTokens ns) (second : NoTokens ms) :
    NoTokens (ns ++ ms) := by
  intro n member
  rcases List.mem_append.mp member with here | there
  · exact first n here
  · exact second n there

theorem markup_silent (text : Text) : AllSilent (markup text) := by
  unfold markup
  split
  · exact EveryIn.nil
  · exact EveryIn.single (every_silent rfl (EveryIn.single (every_silent_markupToken text)))

theorem markup_noTokens (text : Text) : NoTokens (markup text) := by
  unfold markup
  split
  · exact .nil
  · exact .cons rfl .nil

theorem expression_silent (span : Span) (code : Text) :
    (expression span code).Every (Headed Head.Silent) :=
  every_silent rfl (EveryIn.single (every_silent_codeToken code))

theorem gathers_silent : Gathers AllSilent := ⟨markup_silent, EveryIn.append⟩

theorem gathers_noTokens : Gathers NoTokens := ⟨markup_noTokens, NoTokens.append⟩

theorem attributePart_silent (part : Syntax.ValuePart) :
    (attributePart part).Every (Headed Head.Silent) := by
  cases part with
  | text span t => exact every_silent rfl (EveryIn.single (every_silent_markupToken t))
  | transition span => exact every_silent rfl (EveryIn.single (every_silent_markupToken _))
  | code span code explicit => exact expression_silent span code

theorem tag_silent (features : LanguageFeatures) (tag : Syntax.StartTag) :
    AllSilent (gather (tagPieces features tag)) := by
  apply gathers_silent.tag
  · intro a _ span code explicit _
    exact .single (expression_silent span code)
  · intro a _ opening quote
    exact .single (every_silent rfl (EveryIn.map fun part _ => attributePart_silent part))

theorem tag_noTokens (features : LanguageFeatures) (tag : Syntax.StartTag) :
    NoTokens (gather (tagPieces features tag)) :=
  gathers_noTokens.tag (fun _ _ _ _ _ _ => .cons rfl .nil) fun _ _ _ _ => .cons rfl .nil

theorem helperAttribute_silent (a : Syntax.HelperAttribute) : AllSilent (helperAttribute a) := by
  have value : AllSilent (markupValue a.value) :=
    gathers_silent.markupValue fun _ => .single (expression_silent _ _)
  have code : AllSilent (codeValue a.value) := by
    unfold codeValue
    split
    · exact EveryIn.nil
    · refine EveryIn.single (every_silent rfl ?_)
      exact EveryIn.map fun part _ => every_silent_codeToken (partCode part)
  have plain : ∀ b, (boundContent a b).isPlain = true := by
    intro b
    unfold boundContent
    dsimp only
    split
    · split <;> rfl
    · rfl
  unfold helperAttribute
  split
  · exact EveryIn.single (every_silent rfl value)
  · refine EveryIn.map fun b _ => every_silent (plain b) ?_
    split
    · exact value
    · exact code

theorem helperAttributes_silent (attributes : List Syntax.HelperAttribute) :
    AllSilent (attributes.flatMap helperAttribute) :=
  EveryIn.flatMap fun a _ => helperAttribute_silent a

theorem ending_silent (name : Text) (endTag? : Option Span) :
    AllSilent (if endTag?.isSome then markup ("</" ++ name ++ ">") else []) := by
  split
  · exact markup_silent _
  · exact EveryIn.nil

theorem tokens_silent (head : Syntax.DirectiveHead) : AllSilent (tokens head) :=
  EveryIn.map fun _ _ => every_silent rfl .nil

theorem importNamespace_silent (seen : List Text) (head : Syntax.DirectiveHead) :
    AllSilent (importNamespace seen head).1 := by
  unfold importNamespace
  split
  · exact EveryIn.nil
  split
  · exact EveryIn.nil
  · exact EveryIn.single (every_silent rfl .nil)

theorem importNamespace_noTokens (seen : List Text) (head : Syntax.DirectiveHead) :
    NoTokens (importNamespace seen head).1 := by
  unfold importNamespace
  split
  · exact .nil
  split
  · exact .nil
  · exact .cons rfl .nil

mutual

/-- Tokens are nowhere but in directives. -/
theorem node_noTokens (features : LanguageFeatures) :
    ∀ (seen : List Text) (n : Syntax.Node), NoTokens (node features seen n).1
  | _, .text _ text => markup_noTokens text
  | _, .transition _ => markup_noTokens "@"
  | _, .markupComment _ text => markup_noTokens ("<!--" ++ text ++ "-->")
  | _, .comment .. => .nil
  | _, .expression .. => .cons rfl .nil
  | _, .codeBlock .. => .cons rfl .nil
  | seen, .directive span head body => by
    unfold node
    split
    · exact .cons rfl .nil
    split
    · exact importNamespace_noTokens seen head
    split
    · exact .cons rfl .nil
    · exact .cons rfl .nil
    · exact .cons rfl .nil
  | seen, .element span tag endTag? body => by
    refine NoTokens.append ((tag_noTokens features tag).append (nodes_noTokens features _ body)) ?_
    split
    · exact markup_noTokens _
    · exact .nil
  | _, .helper .. => .cons rfl .nil

theorem nodes_noTokens (features : LanguageFeatures) :
    ∀ (seen : List Text) (ns : List Syntax.Node), NoTokens (nodes features seen ns).1
  | _, [] => .nil
  | seen, n :: ns => (node_noTokens features seen n).append (nodes_noTokens features _ ns)

end

end Lowering

namespace Dialect

open IR IR.Node

/-! ## What passes leave of some nodes

`p` says which directives lose their blocks before sections are defined. -/

/-- The findings that are left of some nodes inside a section. -/
def leftInSection (p : Node → Bool) (ns : List Node) : List Diagnostic :=
  diagnosticsAll (dropDirectivesAll (withoutSectionsIn (withoutBlocksIn p false ns)))

/-- The findings that are left of some nodes, and the names of the sections afterwards. -/
def left (p : Node → Bool) (names : List Text) (ns : List Node) : List Diagnostic × List Text :=
  let defined := defineSectionsIn names (withoutBlocksIn p false ns)
  (diagnosticsAll (dropDirectivesAll defined.1), defined.2.1)

section Left

variable {p : Node → Bool}

theorem leftInSection_append (ns ms : List Node) :
    leftInSection p (ns ++ ms) = leftInSection p ns ++ leftInSection p ms := by
  unfold leftInSection
  rw [withoutBlocksIn_append, withoutSectionsIn_append, dropDirectivesAll_append,
    diagnosticsAll_append]

theorem left_append (names : List Text) (ns ms : List Node) :
    left p names (ns ++ ms) =
      let first := left p names ns
      let second := left p first.2 ms
      (first.1 ++ second.1, second.2) := by
  unfold left
  dsimp only
  rw [withoutBlocksIn_append, defineSectionsIn_append]
  dsimp only
  rw [dropDirectivesAll_append, diagnosticsAll_append]

theorem leftInSection_of_silent (directives : ∀ n, p n = true → n.isDirective = true)
    {ns : List Node} (silent : AllSilent ns) : leftInSection p ns = [] := by
  unfold leftInSection
  rw [withoutBlocksIn_of_silent directives silent, withoutSectionsIn_of_silent silent,
    dropDirectivesAll_of_silent silent, diagnosticsAll_of_silent silent]

theorem left_of_silent (directives : ∀ n, p n = true → n.isDirective = true) (names : List Text)
    {ns : List Node} (silent : AllSilent ns) : left p names ns = ([], names) := by
  unfold left
  rw [withoutBlocksIn_of_silent directives silent, defineSectionsIn_of_silent names silent]
  dsimp only
  rw [dropDirectivesAll_of_silent silent, diagnosticsAll_of_silent silent]

/-- Of a directive in a section nothing is left. -/
theorem leftInSection_directive {head : Head} {children : List Node}
    (directive : (Node.node head children).isDirective = true) :
    leftInSection p [.node head children] = [] := by
  have same : ∀ others, (Node.node head others).isDirective = true := by
    intro others
    rcases head with ⟨content, span?, diagnostics, label?⟩
    cases content <;> first | rfl | cases directive
  unfold leftInSection
  simp only [withoutBlocksIn, withoutBlocks, withoutSectionsIn, Bool.false_and,
    Bool.false_eq_true, if_false]
  split
  · rfl
  · simp [withoutSections, dropDirectivesAll, same]

theorem eq_false_of_plain (directives : ∀ n, p n = true → n.isDirective = true) {n : Node}
    (plain : n.isDirective = false) : p n = false :=
  Bool.eq_false_iff.mpr fun found => Bool.false_ne_true (plain.symm.trans (directives n found))

/-- A node that is no directive keeps its own findings and what is left of its children. -/
theorem leftInSection_node (directives : ∀ n, p n = true → n.isDirective = true) {head : Head}
    {children : List Node} (plain : ∀ others, (Node.node head others).isDirective = false) :
    leftInSection p [.node head children] = head.diagnostics ++ leftInSection p children := by
  have unblocked := eq_false_of_plain directives (plain children)
  have section? : ∀ others, isSection (.node head others) = false := fun others =>
    eq_false_of_plain (fun _ found => isDirective_of_isDirectiveOf found) (plain others)
  simp [leftInSection, withoutBlocksIn, withoutBlocks, unblocked, withoutSectionsIn, section?,
    withoutSections, dropDirectivesAll, plain, dropDirectives, diagnosticsAll_cons]

/-- The same outside of sections. -/
theorem left_node (directives : ∀ n, p n = true → n.isDirective = true) (names : List Text)
    {head : Head} {children : List Node}
    (plain : ∀ others, (Node.node head others).isDirective = false) :
    left p names [.node head children] =
      (head.diagnostics ++ (left p names children).1, (left p names children).2) := by
  have unblocked := eq_false_of_plain directives (plain children)
  have section? : ∀ others, isSection (.node head others) = false := fun others =>
    eq_false_of_plain (fun _ found => isDirective_of_isDirectiveOf found) (plain others)
  simp [left, withoutBlocksIn, withoutBlocks, unblocked, defineSectionsIn, defineSections, section?,
    dropDirectivesAll, plain, dropDirectives, diagnosticsAll_cons]

/-! Directives as they are lowered. -/

theorem withoutBlocks_isToken (n : Node) : (withoutBlocks p n).isToken = n.isToken := by
  cases n with
  | absent => rfl
  | node head children =>
    rcases head with ⟨content, span?, diagnostics, label?⟩
    cases content <;> rfl

theorem withoutBlocksIn_noTokens (tokensOnly : Bool) {ns : List Node}
    (none : Lowering.NoTokens ns) : Lowering.NoTokens (withoutBlocksIn p tokensOnly ns) := by
  induction ns with
  | nil => exact none
  | cons n ns ih =>
    have rest := ih fun m member => none m (List.mem_cons_of_mem n member)
    unfold withoutBlocksIn
    split
    · exact rest
    · exact .cons ((withoutBlocks_isToken n).trans (none n List.mem_cons_self)) rest

theorem withoutBlocks_directive (directives : ∀ n, p n = true → n.isDirective = true)
    (span : Span) (head : Syntax.DirectiveHead) (block : List Node) :
    withoutBlocks p (Lowering.directive span head block) =
      Lowering.directive span head
        (withoutBlocksIn p (p (Lowering.directive span head block)) block) := by
  have tokens : ∀ tokensOnly, withoutBlocksIn p tokensOnly (Lowering.tokens head) =
      Lowering.tokens head := by
    intro tokensOnly
    unfold Lowering.tokens
    induction head.tokens with
    | nil => rfl
    | cons t ts ih =>
      have token : withoutBlocks p (.located (.directiveToken t.content t.slot) t.span []) =
          .located (.directiveToken t.content t.slot) t.span [] :=
        withoutBlocks_of_silent directives (every_silent rfl .nil)
      rw [List.map_cons, withoutBlocksIn, ih, token]
      simp [Node.located, Node.isToken]
  unfold Lowering.directive
  rw [withoutBlocks, withoutBlocksIn_append, tokens]

theorem sectionName_directive (span : Span) (head : Syntax.DirectiveHead) {block : List Node}
    (none : Lowering.NoTokens block) :
    sectionName (Lowering.directive span head block) = head.sectionName := by
  have first : (Node.synthetic .markup block).tokens = [] := by
    unfold Node.tokens
    rw [List.filterMap_eq_nil_iff]
    intro n member
    have token := none n member
    split
    · cases token
    · rfl
  unfold sectionName Syntax.DirectiveHead.sectionName Node.firstToken?
  have all : (Lowering.directive span head block).tokens =
      (Node.synthetic .markup (Lowering.tokens head)).tokens
        ++ (Node.synthetic .markup block).tokens := List.filterMap_append
  rw [all, first, List.append_nil]
  unfold Node.tokens Lowering.tokens Node.synthetic
  cases head.tokens <;> rfl

theorem block_directive (span : Span) (head : Syntax.DirectiveHead) {block : List Node}
    (none : Lowering.NoTokens block) : (Lowering.directive span head block).block = block := by
  unfold Node.block Lowering.directive Lowering.tokens
  rw [Node.children, List.filter_append]
  have tokens : (head.tokens.map fun t =>
      Node.located (.directiveToken t.content t.slot) t.span []).filter (fun c => !c.isToken)
      = [] := by
    rw [List.filter_eq_nil_iff]
    intro n member
    rcases List.mem_map.mp member with ⟨t, -, rfl⟩
    exact Bool.false_ne_true
  have others : block.filter (fun c => !c.isToken) = block := by
    rw [List.filter_eq_self]
    intro n member
    rw [none n member]
    rfl
  rw [tokens, others]
  rfl

theorem isSection_directive (span : Span) (head : Syntax.DirectiveHead) (block : List Node) :
    isSection (Lowering.directive span head block) = head.isSection := rfl

theorem defineSections_repeated {names : List Text} {n : Node} (defines : isSection n = true)
    (used : names.contains (sectionName n) = true) :
    defineSections names n = ([], names, [duplicateFinding n]) := by
  cases n with
  | absent => cases defines
  | node head children =>
    unfold defineSections
    dsimp only
    rw [if_pos defines, if_pos used]

theorem defineSections_new {names : List Text} {n : Node} (defines : isSection n = true)
    (fresh : names.contains (sectionName n) = false) :
    defineSections names n = ([toSection n], sectionName n :: names, []) := by
  cases n with
  | absent => cases defines
  | node head children =>
    unfold defineSections
    dsimp only
    rw [if_pos defines, fresh, if_neg Bool.false_ne_true]

/-- What is left of one node that loses its block. -/
theorem left_single (directives : ∀ n, p n = true → n.isDirective = true) (names : List Text)
    (span : Span) (head : Syntax.DirectiveHead) (block : List Node) :
    left p names [Lowering.directive span head block] =
      let defined := defineSections names (Lowering.directive span head
        (withoutBlocksIn p (p (Lowering.directive span head block)) block))
      (diagnosticsAll (dropDirectivesAll defined.1), defined.2.1) := by
  unfold left
  simp [withoutBlocksIn, withoutBlocks_directive directives, defineSectionsIn]

/-- A directive that defines no section leaves nothing but the names of the sections inside. -/
theorem left_directive (directives : ∀ n, p n = true → n.isDirective = true) (names : List Text)
    (span : Span) {head : Syntax.DirectiveHead} (block : List Node)
    (other : head.isSection = false) :
    left p names [Lowering.directive span head block] =
      ([], (defineSectionsIn names
        (withoutBlocksIn p (p (Lowering.directive span head block)) block)).2.1) := by
  rw [left_single directives]
  generalize withoutBlocksIn p _ block = others
  have same := (isSection_directive span head others).trans other
  have tokens := fun names => defineSectionsIn_of_silent names (Lowering.tokens_silent head)
  have dropped : ∀ ms, dropDirectivesAll [Node.node (Head.mk (.directive head.keyword
      (some head.descriptor)) (some span) head.diagnostics none) ms] = [] := fun _ => rfl
  unfold Lowering.directive at same ⊢
  simp [defineSections, same, defineSectionsIn_append, tokens, dropped]

/-- A section directive whose name was used before leaves nothing. -/
theorem left_repeated (directives : ∀ n, p n = true → n.isDirective = true) {names : List Text}
    (span : Span) {head : Syntax.DirectiveHead} {block : List Node}
    (none : Lowering.NoTokens block) (defines : head.isSection = true)
    (used : names.contains head.sectionName = true) :
    left p names [Lowering.directive span head block] = ([], names) := by
  have kept := withoutBlocksIn_noTokens (p := p) (p (Lowering.directive span head block)) none
  have name := sectionName_directive span head kept
  rw [left_single directives,
    defineSections_repeated ((isSection_directive ..).trans defines) (by rw [name]; exact used)]
  rfl

/-- A new section leaves what is in its block. -/
theorem left_section (directives : ∀ n, p n = true → n.isDirective = true) {names : List Text}
    (span : Span) {head : Syntax.DirectiveHead} {block : List Node}
    (none : Lowering.NoTokens block) (defines : head.isSection = true)
    (fresh : names.contains head.sectionName = false) (clean : head.diagnostics = []) :
    left p names [Lowering.directive span head block] =
      (diagnosticsAll (dropDirectivesAll (withoutSectionsIn
        (withoutBlocksIn p (p (Lowering.directive span head block)) block))),
        head.sectionName :: names) := by
  have kept := withoutBlocksIn_noTokens (p := p) (p (Lowering.directive span head block)) none
  have name := sectionName_directive span head kept
  rw [left_single directives,
    defineSections_new ((isSection_directive ..).trans defines) (by rw [name]; exact fresh), name]
  unfold toSection
  rw [block_directive span head kept]
  generalize withoutSectionsIn _ = others
  have own : (Lowering.directive span head (withoutBlocksIn p
      (p (Lowering.directive span head block)) block)).diagnostics = [] := clean
  rw [own]
  simp [dropDirectivesAll, dropDirectives, Node.isDirective, diagnosticsAll_cons]

/-- What is left of a directive, by what it keeps of its block. -/
theorem left_block (directives : ∀ n, p n = true → n.isDirective = true) (names : List Text)
    (span : Span) {head : Syntax.DirectiveHead} {block : List Node}
    (none : Lowering.NoTokens block) (clean : head.diagnostics = []) :
    left p names [Lowering.directive span head block] =
      let kept := withoutBlocksIn p (p (Lowering.directive span head block)) block
      if head.isSection then
        if names.contains head.sectionName then ([], names)
        else (diagnosticsAll (dropDirectivesAll (withoutSectionsIn kept)),
          head.sectionName :: names)
      else ([], (defineSectionsIn names kept).2.1) := by
  cases defines : head.isSection with
  | false => exact left_directive directives names span block defines
  | true =>
    cases used : names.contains head.sectionName with
    | true => exact left_repeated directives span none defines used
    | false => exact left_section directives span none defines used clean

end Left

end Dialect

namespace Lowering

open IR IR.Node Dialect

/-! ## What passes leave of lowered nodes -/

section Left

variable {p : Node → Bool}

mutual

/-- Inside a section malformed directives are left that are in no other directive. -/
theorem node_leftInSection (directives : ∀ n, p n = true → n.isDirective = true)
    (features : LanguageFeatures) :
    ∀ (seen : List Text) (n : Syntax.Node),
      leftInSection p (node features seen n).1 = n.openReports
  | _, .text _ text => leftInSection_of_silent directives (markup_silent text)
  | _, .transition _ => leftInSection_of_silent directives (markup_silent "@")
  | _, .markupComment _ text =>
    leftInSection_of_silent directives (markup_silent ("<!--" ++ text ++ "-->"))
  | _, .comment .. => rfl
  | _, .expression span code _ =>
    leftInSection_of_silent directives (EveryIn.single (expression_silent span code))
  | _, .codeBlock _ code _ => leftInSection_of_silent directives
      (EveryIn.single (every_silent rfl (EveryIn.single (every_silent_codeToken code))))
  | seen, .directive span head body => by
    unfold node Syntax.Node.openReports
    split
    · change leftInSection p [Node.node _ (tokens head)] = head.diagnostics
      rw [leftInSection_node directives fun _ => rfl,
        leftInSection_of_silent directives (tokens_silent head), List.append_nil]
    split
    · exact leftInSection_of_silent directives (importNamespace_silent seen head)
    split
    · exact leftInSection_directive rfl
    · exact leftInSection_directive rfl
    · exact leftInSection_directive rfl
  | seen, .element span tag endTag? body => by
    unfold node Syntax.Node.openReports
    dsimp only
    rw [leftInSection_append, leftInSection_append,
      leftInSection_of_silent directives (tag_silent features tag),
      leftInSection_of_silent directives (ending_silent tag.name endTag?),
      nodes_leftInSection directives features seen body, List.append_nil]
    rfl
  | seen, .helper span head body => by
    unfold node Syntax.Node.openReports
    dsimp only
    change leftInSection p [Node.node _ _] = _
    rw [leftInSection_node directives fun _ => rfl, leftInSection_append,
      leftInSection_of_silent directives (helperAttributes_silent head.attributes)]
    change leftInSection p _ = _
    split
    · change leftInSection p [Node.node _ _] = _
      rw [leftInSection_node directives fun _ => rfl, nodes_leftInSection directives features]
      rfl
    · next bare =>
      cases body with
      | nil => rfl
      | cons n ns => simp at bare

theorem nodes_leftInSection (directives : ∀ n, p n = true → n.isDirective = true)
    (features : LanguageFeatures) :
    ∀ (seen : List Text) (ns : List Syntax.Node),
      leftInSection p (nodes features seen ns).1 = Syntax.Node.openReportsAll ns
  | _, [] => rfl
  | seen, n :: ns => by
    unfold nodes Syntax.Node.openReportsAll
    dsimp only
    rw [leftInSection_append, node_leftInSection directives features,
      nodes_leftInSection directives features]

end

/-- Whether a lowered node is kept where only directives may be kept. -/
def isKept (directivesOnly : Bool) (n : Node) : Bool := !directivesOnly || isAnyDirective n

theorem filter_isKept_false (ns : List Node) : ns.filter (isKept false) = ns :=
  List.filter_eq_self.mpr fun _ _ => rfl

theorem filter_isKept_directive (directivesOnly : Bool) (span : Span) (head : Syntax.DirectiveHead)
    (block : List Node) :
    [directive span head block].filter (isKept directivesOnly) = [directive span head block] := by
  cases directivesOnly <;> rfl

theorem filter_isKept_malformed (directivesOnly : Bool) (span : Span)
    (head : Syntax.DirectiveHead) :
    [malformed span head].filter (isKept directivesOnly) = [malformed span head] := by
  cases directivesOnly <;> rfl

variable {registered : List DirectiveDescriptor}

/-- The directives that lose their blocks are not among those with a block of markup. -/
def KeepsMarkup (p : Node → Bool) (registered : List DirectiveDescriptor) : Prop :=
  ∀ (span : Span) (head : Syntax.DirectiveHead) (block : List Node),
    head.descriptor ∈ registered → head.descriptor.kind = .markupBlock →
      p (directive span head block) = false

/-- A directive whose block is silent. -/
theorem left_silent_block (directives : ∀ n, p n = true → n.isDirective = true)
    (names : List Text) (span : Span) {head : Syntax.DirectiveHead} {block : List Node}
    (silent : AllSilent block) (none : NoTokens block) (clean : head.diagnostics = []) :
    left p names [directive span head block] =
      if head.isSection then
        if names.contains head.sectionName then ([], names) else ([], head.sectionName :: names)
      else ([], names) := by
  have kept := withoutBlocksIn_silent directives (p (directive span head block)) silent
  rw [left_block directives names span none clean]
  dsimp only
  rw [withoutSectionsIn_of_silent kept, dropDirectivesAll_of_silent kept,
    diagnosticsAll_of_silent kept, defineSectionsIn_of_silent names kept]

/-- A directive that keeps its block. -/
theorem left_open_block (directives : ∀ n, p n = true → n.isDirective = true)
    (names : List Text) (span : Span) {head : Syntax.DirectiveHead} {block : List Node}
    (none : NoTokens block) (clean : head.diagnostics = [])
    (unblocked : p (directive span head block) = false) :
    left p names [directive span head block] =
      if head.isSection then
        if names.contains head.sectionName then ([], names)
        else (leftInSection p block, head.sectionName :: names)
      else ([], (left p names block).2) := by
  rw [left_block directives names span none clean, unblocked]
  rfl

/-- What passes leave of a lowered directive, by what they leave of its lowered body. -/
theorem directive_left (directives : ∀ n, p n = true → n.isDirective = true)
    (keeps : KeepsMarkup p registered) {features : LanguageFeatures} (directivesOnly : Bool)
    {names seen : List Text} (span : Span) {head : Syntax.DirectiveHead} {body : List Syntax.Node}
    (reported : head.Reported registered)
    (inside : left p names (nodes features seen body).1 =
      Syntax.Node.survivingAll false names body) :
    left p names ((node features seen (.directive span head body)).1.filter
      (isKept directivesOnly)) =
      (Syntax.Node.directive span head body).surviving directivesOnly names := by
  unfold node Syntax.Node.surviving
  cases wellFormed : head.isMalformed with
  | true =>
    rw [if_pos rfl, if_pos rfl, filter_isKept_malformed]
    change left p names [Node.node _ (tokens head)] = _
    rw [left_node directives names fun _ => rfl,
      left_of_silent directives names (tokens_silent head), List.append_nil]
  | false =>
    have clean := reported.diagnostics_eq_nil wellFormed
    rw [if_neg Bool.false_ne_true, if_neg Bool.false_ne_true]
    split
    · exact left_of_silent directives names ((importNamespace_silent seen head).filter _)
    split
    · next kind =>
      have unblocked := keeps span head (nodes features seen body).1 reported.registered kind
      dsimp only
      rw [filter_isKept_directive, kind, left_open_block directives names span
        (nodes_noTokens features seen body) clean unblocked, nodes_leftInSection directives, inside]
      rfl
    · next kind =>
      have statement : AllSilent [Node.located .statement span [.codeToken head.code]] :=
        EveryIn.single (every_silent rfl (EveryIn.single (every_silent_codeToken head.code)))
      dsimp only
      rw [filter_isKept_directive, kind,
        left_silent_block directives names span statement (.cons rfl .nil) clean]
      rfl
    · next markup code =>
      have other : (head.descriptor.kind == .markupBlock) = false := by
        rw [beq_eq_false_iff_ne]
        exact markup
      dsimp only
      rw [filter_isKept_directive, other,
        left_silent_block directives names span EveryIn.nil .nil clean]
      rfl

mutual

/-- What passes leave of a lowered node. -/
theorem node_left (directives : ∀ n, p n = true → n.isDirective = true)
    (keeps : KeepsMarkup p registered) (features : LanguageFeatures) :
    ∀ (directivesOnly : Bool) (names seen : List Text) {n : Syntax.Node},
      n.Every (Syntax.Node.Reported registered) →
        left p names ((node features seen n).1.filter (isKept directivesOnly)) =
          n.surviving directivesOnly names
  | _, names, _, .text _ text, _ =>
    left_of_silent directives names ((markup_silent text).filter _)
  | _, names, _, .transition _, _ =>
    left_of_silent directives names ((markup_silent "@").filter _)
  | _, names, _, .markupComment _ text, _ =>
    left_of_silent directives names ((markup_silent ("<!--" ++ text ++ "-->")).filter _)
  | _, _, _, .comment .., _ => rfl
  | _, names, _, .expression span code _, _ =>
    left_of_silent directives names ((EveryIn.single (expression_silent span code)).filter _)
  | _, names, _, .codeBlock _ code _, _ => left_of_silent directives names (EveryIn.filter
      (EveryIn.single (every_silent rfl (EveryIn.single (every_silent_codeToken code)))) _)
  | directivesOnly, names, seen, .directive span head body, every => by
    have inside := nodes_left directives keeps features false names seen every.inside
    rw [filter_isKept_false] at inside
    exact directive_left directives keeps directivesOnly span every.self inside
  | directivesOnly, names, seen, .element span tag endTag? body, every => by
    unfold node Syntax.Node.surviving
    dsimp only
    rw [List.filter_append, List.filter_append, left_append, left_append,
      left_of_silent directives names ((tag_silent features tag).filter _)]
    dsimp only
    have reported : Syntax.Node.AllReported registered body := every.inside
    rw [nodes_left directives keeps features directivesOnly names seen reported,
      left_of_silent directives _ ((ending_silent tag.name endTag?).filter _), List.append_nil]
    rfl
  | true, names, seen, .helper span head body, _ => rfl
  | false, names, seen, .helper span head body, every => by
    have reported : Syntax.Node.AllReported registered body := every.inside
    have inside := nodes_left directives keeps features false names seen reported
    rw [filter_isKept_false] at inside
    unfold node Syntax.Node.surviving
    dsimp only
    change left p names [Node.node _ _] = _
    rw [left_node directives names fun _ => rfl, left_append,
      left_of_silent directives names (helperAttributes_silent head.attributes)]
    dsimp only
    split
    · change (_ ++ (_ ++ (left p names [Node.node _ _]).1), (left p names [Node.node _ _]).2) = _
      rw [left_node directives names fun _ => rfl, inside]
      rfl
    · next bare =>
      cases body with
      | nil => rfl
      | cons n ns => simp at bare

theorem nodes_left (directives : ∀ n, p n = true → n.isDirective = true)
    (keeps : KeepsMarkup p registered) (features : LanguageFeatures) :
    ∀ (directivesOnly : Bool) (names seen : List Text) {ns : List Syntax.Node},
      Syntax.Node.AllReported registered ns →
        left p names ((nodes features seen ns).1.filter (isKept directivesOnly)) =
          Syntax.Node.survivingAll directivesOnly names ns
  | _, _, _, [], _ => rfl
  | directivesOnly, names, seen, n :: ns, reported => by
    unfold nodes Syntax.Node.survivingAll
    dsimp only
    rw [List.filter_append, left_append,
      node_left directives keeps features directivesOnly names seen reported.head]
    dsimp only
    rw [nodes_left directives keeps features directivesOnly _ _ reported.tail]

end

end Left

end Lowering

end TemplateCompiler
