import TemplateCompiler.Dialect.Pass
import TemplateCompiler.Proofs.TracedLowering

/-!
# Nodes that passes have nothing to do with

A silent node declares nothing, is no directive, and nothing was found about it; the same holds of
everything inside it.  Passes that look for directives or declarations give silent nodes back as
they are.  Most of what lowering produces is silent: markup, code, attributes and tokens.
-/

namespace TemplateCompiler

namespace IR

/-- Whether a content is neither a declaration around others nor a directive. -/
def Content.isPlain : Content → Bool
  | .document _ | .namespaceDecl .. | .classDecl _ | .methodDecl _ | .directive ..
  | .malformedDirective .. => false
  | _ => true

/-- What a silent node says about itself: nothing was found about it, and it is neither a
declaration around others nor a directive. -/
structure Head.Silent (head : Head) : Prop where
  diagnostics : head.diagnostics = []
  plain : head.content.isPlain = true

namespace Node

/-- A property of the head of a node, if it is there. -/
def Headed (P : Head → Prop) : Node → Prop
  | absent => True
  | node head _ => P head

/-- Some nodes are silent, with everything inside them. -/
def AllSilent (ns : List Node) : Prop := EveryIn (Headed Head.Silent) ns

/-- What was found about some trees, in pre-order. -/
def diagnosticsAll (ns : List Node) : List Diagnostic := (preorderAll ns).flatMap diagnostics

/-- A node that is read from a span or made up, with silent children. -/
theorem every_silent {content : Content} {span? : Option Span} {label? : Option Text}
    {children : List Node} (plain : content.isPlain = true) (inside : AllSilent children) :
    (Node.node { content, span?, label? } children).Every (Headed Head.Silent) :=
  .intro _ ⟨rfl, plain⟩ inside

theorem every_silent_codeToken (code : Text) : (codeToken code).Every (Headed Head.Silent) :=
  every_silent rfl .nil

theorem every_silent_markupToken (text : Text) : (markupToken text).Every (Headed Head.Silent) :=
  every_silent rfl .nil

theorem isDirective_of_silent {n : Node} (silent : n.Headed Head.Silent) :
    n.isDirective = false := by
  cases n with
  | absent => rfl
  | node head children =>
    rcases head with ⟨content, span?, diagnostics, label?⟩
    have plain := silent.plain
    cases content <;> first | rfl | cases plain

theorem isDirective_of_isDirectiveOf {n : Node} {d : DirectiveDescriptor}
    (same : n.isDirectiveOf d = true) : n.isDirective = true := by
  unfold isDirectiveOf at same
  split at same
  · rfl
  · cases same

/-! ## Walks -/

theorem preorderAll_append (ns ms : List Node) :
    preorderAll (ns ++ ms) = preorderAll ns ++ preorderAll ms := by
  induction ns with
  | nil => rfl
  | cons n ns ih =>
    change preorder n ++ preorderAll (ns ++ ms) = preorder n ++ preorderAll ns ++ preorderAll ms
    rw [ih, List.append_assoc]

theorem diagnosticsAll_append (ns ms : List Node) :
    diagnosticsAll (ns ++ ms) = diagnosticsAll ns ++ diagnosticsAll ms := by
  unfold diagnosticsAll
  rw [preorderAll_append, List.flatMap_append]

theorem diagnosticsAll_cons (head : Head) (children rest : List Node) :
    diagnosticsAll (node head children :: rest) =
      head.diagnostics ++ diagnosticsAll children ++ diagnosticsAll rest := by
  change List.flatMap diagnostics ((node head children :: preorderAll children)
    ++ preorderAll rest) = _
  rw [List.flatMap_append, List.flatMap_cons]
  rfl

theorem diagnosticsAll_of_silent {ns : List Node} (silent : AllSilent ns) :
    diagnosticsAll ns = [] := by
  unfold diagnosticsAll
  rw [List.flatMap_eq_nil_iff]
  intro n member
  have self := (Every.of_mem_preorderAll silent n member).self
  cases n with
  | absent => rfl
  | node head children => exact self.diagnostics

@[simp] theorem diagnosticsAll_nil : diagnosticsAll [] = [] := rfl

/-- There is nothing to change in nodes of which none satisfies the test. -/
theorem changeFirstIn?_of_every {P : Node → Prop} {p : Node → Bool} (f : Node → Node)
    (unchanged : ∀ n, P n → p n = false) {ns : List Node} (every : EveryIn P ns)
    (rest : List Node) :
    changeFirstIn? p f (ns ++ rest) = (changeFirstIn? p f rest).map (ns ++ ·) := by
  induction ns with
  | nil =>
    cases same : changeFirstIn? p f rest with
    | none => exact same
    | some others => exact same
  | cons n ns ih =>
    have none : ∀ {m : Node}, m.Every P → changeFirst? p f m = Option.none := by
      intro m every
      induction every with
      | intro m self inside ih =>
        cases m with
        | absent =>
          unfold changeFirst?
          rw [unchanged _ self]
          rfl
        | node head children =>
          have below : changeFirstIn? p f children = Option.none := by
            have each : ∀ c ∈ children, changeFirst? p f c = Option.none := ih
            clear ih inside self
            induction children with
            | nil => rfl
            | cons c cs more =>
              unfold changeFirstIn?
              rw [each c List.mem_cons_self, more fun d member => each d (.tail c member)]
              rfl
          unfold changeFirst?
          rw [unchanged _ self, below]
          rfl
    change changeFirstIn? p f (n :: (ns ++ rest)) = _
    rw [changeFirstIn?, none every.head, ih every.tail]
    cases changeFirstIn? p f rest <;> rfl

end Node

end IR

open IR

/-! ## Passes -/

namespace IR.Node

mutual

theorem dropDirectives_of_silent :
    ∀ {n : Node}, n.Every (Headed Head.Silent) → dropDirectives n = n
  | .absent, _ => rfl
  | .node head children, silent => by
    have inside : AllSilent children := silent.inside
    rw [dropDirectives, dropDirectivesAll_of_silent inside]

theorem dropDirectivesAll_of_silent :
    ∀ {ns : List Node}, AllSilent ns → dropDirectivesAll ns = ns
  | [], _ => rfl
  | n :: ns, silent => by
    rw [dropDirectivesAll, isDirective_of_silent silent.head.self,
      dropDirectives_of_silent silent.head, dropDirectivesAll_of_silent silent.tail]
    rfl

end

theorem dropDirectivesAll_append (ns ms : List Node) :
    dropDirectivesAll (ns ++ ms) = dropDirectivesAll ns ++ dropDirectivesAll ms := by
  induction ns with
  | nil => rfl
  | cons n ns ih =>
    change dropDirectivesAll (n :: (ns ++ ms)) = _
    rw [dropDirectivesAll, dropDirectivesAll, ih]
    split <;> rfl

end IR.Node

namespace Dialect

open IR.Node

section Blocks

variable {p : Node → Bool}

/-- A test that only directives satisfy. -/
theorem not_of_silent (directives : ∀ n, p n = true → n.isDirective = true) {n : Node}
    (silent : n.Headed Head.Silent) : p n = false := by
  cases found : p n with
  | false => rfl
  | true =>
    have directive := directives n found
    rw [isDirective_of_silent silent] at directive
    cases directive

mutual

theorem withoutBlocks_of_silent (directives : ∀ n, p n = true → n.isDirective = true) :
    ∀ {n : Node}, n.Every (Headed Head.Silent) → withoutBlocks p n = n
  | .absent, _ => rfl
  | .node head children, silent => by
    have inside : AllSilent children := silent.inside
    rw [withoutBlocks, not_of_silent directives silent.self,
      withoutBlocksIn_of_silent directives inside]

theorem withoutBlocksIn_of_silent (directives : ∀ n, p n = true → n.isDirective = true) :
    ∀ {ns : List Node}, AllSilent ns → withoutBlocksIn p false ns = ns
  | [], _ => rfl
  | n :: ns, silent => by
    rw [withoutBlocksIn, withoutBlocks_of_silent directives silent.head,
      withoutBlocksIn_of_silent directives silent.tail]
    rfl

end

theorem withoutBlocksIn_silent (directives : ∀ n, p n = true → n.isDirective = true)
    (tokensOnly : Bool) {ns : List Node} (silent : AllSilent ns) :
    AllSilent (withoutBlocksIn p tokensOnly ns) := by
  induction ns with
  | nil => exact silent
  | cons n ns ih =>
    unfold withoutBlocksIn
    split
    · exact ih silent.tail
    · rw [withoutBlocks_of_silent directives silent.head]
      exact .cons silent.head (ih silent.tail)

theorem withoutBlocksIn_append (tokensOnly : Bool) (ns ms : List Node) :
    withoutBlocksIn p tokensOnly (ns ++ ms) =
      withoutBlocksIn p tokensOnly ns ++ withoutBlocksIn p tokensOnly ms := by
  induction ns with
  | nil => rfl
  | cons n ns ih =>
    change withoutBlocksIn p tokensOnly (n :: (ns ++ ms)) = _
    rw [withoutBlocksIn, withoutBlocksIn, ih]
    split <;> rfl

end Blocks

theorem isSection_of_silent {n : Node} (silent : n.Headed Head.Silent) : isSection n = false :=
  not_of_silent (fun _ same => isDirective_of_isDirectiveOf same) silent

mutual

theorem withoutSections_of_silent :
    ∀ {n : Node}, n.Every (Headed Head.Silent) → withoutSections n = n
  | .absent, _ => rfl
  | .node head children, silent => by
    have inside : AllSilent children := silent.inside
    rw [withoutSections, withoutSectionsIn_of_silent inside]

theorem withoutSectionsIn_of_silent :
    ∀ {ns : List Node}, AllSilent ns → withoutSectionsIn ns = ns
  | [], _ => rfl
  | n :: ns, silent => by
    rw [withoutSectionsIn, isSection_of_silent silent.head.self,
      withoutSections_of_silent silent.head, withoutSectionsIn_of_silent silent.tail]
    rfl

end

theorem withoutSectionsIn_append (ns ms : List Node) :
    withoutSectionsIn (ns ++ ms) = withoutSectionsIn ns ++ withoutSectionsIn ms := by
  induction ns with
  | nil => rfl
  | cons n ns ih =>
    change withoutSectionsIn (n :: (ns ++ ms)) = _
    rw [withoutSectionsIn, withoutSectionsIn, ih]
    split <;> rfl

mutual

theorem defineSections_of_silent (names : List Text) :
    ∀ {n : Node}, n.Every (Headed Head.Silent) → defineSections names n = ([n], names, [])
  | .absent, _ => rfl
  | .node head children, silent => by
    have inside : AllSilent children := silent.inside
    rw [defineSections, isSection_of_silent silent.self, defineSectionsIn_of_silent names inside]
    rfl

theorem defineSectionsIn_of_silent (names : List Text) :
    ∀ {ns : List Node}, AllSilent ns → defineSectionsIn names ns = (ns, names, [])
  | [], _ => rfl
  | n :: ns, silent => by
    rw [defineSectionsIn, defineSections_of_silent names silent.head]
    dsimp only
    rw [defineSectionsIn_of_silent names silent.tail]
    rfl

end

theorem defineSectionsIn_append (names : List Text) (ns ms : List Node) :
    defineSectionsIn names (ns ++ ms) =
      let first := defineSectionsIn names ns
      let second := defineSectionsIn first.2.1 ms
      (first.1 ++ second.1, second.2.1, first.2.2 ++ second.2.2) := by
  induction ns generalizing names with
  | nil => rfl
  | cons n ns ih =>
    change defineSectionsIn names (n :: (ns ++ ms)) = _
    rw [defineSectionsIn, defineSectionsIn]
    dsimp only
    rw [ih]
    dsimp only
    rw [List.append_assoc, List.append_assoc]

end Dialect

end TemplateCompiler
