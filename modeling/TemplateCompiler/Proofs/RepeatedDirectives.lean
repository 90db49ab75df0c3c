import TemplateCompiler.Proofs.CasedDocument
import TemplateCompiler.Proofs.ClassDirectives
import TemplateCompiler.Proofs.DefinedSections

/-!
# Directives that are applied twice

Each change that directives make to a document has a form of document in which there is nothing left
to do.  Members are moved when the directives with members have nothing but tokens in them, and
sections are defined when there is no section directive.  A change brings a document into its form,
and leaves it alone there; so a second change does nothing.

For all changes one after another, the forms that come first have to outlast the changes behind
them.  Moving members and defining sections take nodes out of directives, or drop them with a
directive.  A directive for the base type among them would be found in another place or no more, and
so would the primary class.  It is enough that neither stands inside of a directive.
-/

namespace TemplateCompiler

open IR IR.Node

/-- If there are tokens only, there are tokens only with another node in the place of the first. -/
theorem IR.Node.First.forall_isToken {p : Node → Bool} {n m : Node} {fill : Node → List Node}
    (first : First p n fill) (same : m.isToken = n.isToken)
    (tokens : ∀ k ∈ fill n, k.isToken = true) :
    ∀ k ∈ fill m, k.isToken = true := by
  have heads := first.map_congr isToken_byHead same
  rw [← List.forall_mem_map (P := (· = true))] at tokens ⊢
  rwa [heads]

namespace Dialect

open DirectiveDescriptor (sectionBlock)

/-! ## Members that are moved -/

section Blocks

variable {p : Node → Bool}

/-- A node of some sort has nothing but tokens in it. -/
def Blockless (p : Node → Bool) (n : Node) : Prop := p n = true → ∀ k ∈ n.children, k.isToken = true

theorem isToken_of_mem_withoutBlocksIn {ns : List Node} :
    ∀ k ∈ withoutBlocksIn p true ns, k.isToken = true := by
  induction ns with
  | nil => simp [withoutBlocksIn]
  | cons n ns ih =>
    unfold withoutBlocksIn
    split
    · exact ih
    · next token =>
      rw [List.forall_mem_cons, withoutBlocks_isToken]
      exact ⟨by simpa using token, ih⟩

mutual

theorem withoutBlocks_blockless (byHead : ByHead p) :
    ∀ n : Node, (withoutBlocks p n).Every (Blockless p)
  | .absent => .intro _ (fun _ k member => absurd member List.not_mem_nil) EveryIn.nil
  | .node head children => by
    refine .intro _ ?_ (withoutBlocksIn_blockless byHead _ children)
    intro fits
    rw [withoutBlocks, byHead head _ children] at fits
    rw [withoutBlocks, fits]
    exact isToken_of_mem_withoutBlocksIn

theorem withoutBlocksIn_blockless (byHead : ByHead p) (tokensOnly : Bool) :
    ∀ ns : List Node, EveryIn (Blockless p) (withoutBlocksIn p tokensOnly ns)
  | [] => EveryIn.nil
  | n :: ns => by
    unfold withoutBlocksIn
    split
    · exact withoutBlocksIn_blockless byHead tokensOnly ns
    · exact .cons (withoutBlocks_blockless byHead n)
        (withoutBlocksIn_blockless byHead tokensOnly ns)

end

mutual

theorem withoutBlocks_of_blockless : ∀ {n : Node}, n.Every (Blockless p) → withoutBlocks p n = n
  | .absent, _ => rfl
  | .node head children, every => by
    have inside : EveryIn (Blockless p) children := every.inside
    rw [withoutBlocks, withoutBlocksIn_of_blockless inside every.self]

theorem withoutBlocksIn_of_blockless {tokensOnly : Bool} :
    ∀ {ns : List Node}, EveryIn (Blockless p) ns →
      (tokensOnly = true → ∀ k ∈ ns, k.isToken = true) → withoutBlocksIn p tokensOnly ns = ns
  | [], _, _ => rfl
  | n :: ns, every, tokens => by
    have kept : (tokensOnly && !n.isToken) = false := by
      cases tokensOnly with
      | false => rfl
      | true => simp [tokens rfl n List.mem_cons_self]
    rw [withoutBlocksIn, kept, withoutBlocks_of_blockless every.head,
      withoutBlocksIn_of_blockless every.tail fun only k member =>
        tokens only k (List.mem_cons_of_mem n member)]
    rfl

end

theorem blocks_of_blockless {ns : List Node} (every : EveryIn (Blockless p) ns) :
    ((preorderAll ns).filter p).flatMap Node.block = [] := by
  rw [List.flatMap_eq_nil_iff]
  intro n among
  rcases List.mem_filter.mp among with ⟨member, fits⟩
  have tokens := (Every.of_mem_preorderAll every n member).self fits
  simpa [Node.block] using tokens

/-- A change of the class keeps blocks out of directives. -/
theorem blockless_changeClass {d : Document} (byHead : ByHead p)
    (directives : ∀ n, p n = true → n.isDirective = true)
    (every : EveryIn (Blockless p) d.children)
    {f : ClassShape → List Node → ClassShape × List Node}
    (members : ∀ shape ns, EveryIn (Blockless p) ns → EveryIn (Blockless p) (f shape ns).2) :
    EveryIn (Blockless p) (d.changeClass f).children := by
  apply Document.everyIn_changeClass _ _ members every
  · intro outer inner n m within same blockless fits
    exact within.forall_isToken same (blockless ((byHead outer _ _).trans fits))
  · intro head shape ns fits
    cases directives _ fits

end Blocks

/-- The members are moved: if there is a primary class, the directives with the given definitions
have no blocks. -/
def MembersMoved (definitions : List DirectiveDescriptor) (d : Document) : Prop :=
  d.primaryClass?.isSome = true → EveryIn (Blockless (isMember definitions)) d.children

variable {definitions : List DirectiveDescriptor} {d : Document}

/-- Members are moved into the primary class, if there is one. -/
theorem applyMembers_cases (definitions : List DirectiveDescriptor) (d : Document) :
    (d.primaryClass? = none ∧ applyMembers definitions d = d) ∨
      (d.primaryClass?.isSome = true ∧ applyMembers definitions d =
        { d with children := withoutBlocksIn (isMember definitions) false d.children }.changeClass
          fun shape members => (shape, members ++ withoutBlocksIn (isMember definitions) false
            ((d.nodes.filter (isMember definitions)).flatMap Node.block))) := by
  unfold applyMembers
  cases d.primaryClass? with
  | none => exact .inl ⟨rfl, rfl⟩
  | some found => exact .inr ⟨rfl, rfl⟩

theorem membersMoved_applyMembers (definitions : List DirectiveDescriptor) (d : Document) :
    MembersMoved definitions (applyMembers definitions d) := by
  intro present
  rcases applyMembers_cases definitions d with ⟨none, same⟩ | ⟨-, same⟩
  · rw [same, none] at present
    cases present
  · rw [same]
    have taken := withoutBlocksIn_blockless (p := isMember definitions) isMember_congr false
    apply blockless_changeClass isMember_congr isDirective_of_isMember (taken _)
    exact fun shape members inside => inside.append (taken _)

theorem applyMembers_of_membersMoved (moved : MembersMoved definitions d) :
    applyMembers definitions d = d := by
  rcases applyMembers_cases definitions d with ⟨-, same⟩ | ⟨present, same⟩
  · exact same
  · have every := moved present
    have blocks : (d.nodes.filter (isMember definitions)).flatMap Node.block = [] :=
      blocks_of_blockless every
    have whole : withoutBlocksIn (isMember definitions) false d.children = d.children :=
      withoutBlocksIn_of_blockless every nofun
    rw [same, whole, blocks]
    apply Document.changeClass_eq_self
    intro shape members _
    rw [withoutBlocksIn, List.append_nil]

theorem MembersMoved.apply (moved : MembersMoved definitions d) (r : ClassRule) :
    MembersMoved definitions (r.apply d) := by
  intro present
  have shape : d.primaryShape?.isSome = true := by
    have after : (r.apply d).primaryShape?.isSome = true := by
      simpa [Document.primaryShape?] using present
    simpa [r.primaryShape?_apply] using after
  apply blockless_changeClass isMember_congr isDirective_of_isMember
  · apply moved
    simpa [Document.primaryShape?] using shape
  · exact fun shape members inside => inside

/-! ## Sections that are defined -/

def SectionsDefined (d : Document) : Prop := EveryIn (fun n => isSection n = false) d.children

namespace Fills

variable {outer ns ms : List Node} {puts : List (List Node)}

theorem isSection_of_mem (fills : Fills outer puts ns ms) : ∀ n ∈ outer, isSection n = true := by
  induction fills with
  | nil => simp
  | directive fits _ ih => exact List.forall_mem_cons.mpr ⟨fits, ih⟩
  | absent _ ih => exact ih
  | node _ _ _ ihInside ih => exact List.forall_mem_append.mpr ⟨ihInside, ih⟩

/-- Where there are no section directives, nothing is filled in. -/
theorem eq_of_none (fills : Fills outer puts ns ms) (none : outer = []) : ms = ns := by
  induction fills with
  | nil => rfl
  | directive => cases none
  | absent _ ih => rw [ih none]
  | node _ _ _ ihInside ih =>
    rcases List.append_eq_nil_iff.mp none with ⟨within, behind⟩
    rw [ihInside within, ih behind]

end Fills

theorem applySections_converts (d : Document) :
    Converts [] d.children (outerSectionsIn d.children) (defineSectionsIn [] d.children) :=
  defineSectionsIn_converts d.children fun _ => rfl

theorem applySections_of_sectionsDefined (defined : SectionsDefined d) : applySections d = d := by
  have converts := applySections_converts d
  have none : outerSectionsIn d.children = [] := by
    apply List.eq_nil_iff_forall_not_mem.mpr
    intro n member
    have fits := converts.fills.isSection_of_mem n member
    rw [(outerSectionsIn_every defined n member).self] at fits
    cases fits
  have same := converts.fills.eq_of_none none
  have silent := converts.found
  rw [none] at silent
  unfold applySections Document.report
  rw [none]
  simp [same, silent, repeated]

/-- What is put in the places of section directives is a section, or nothing. -/
theorem sectionsDefined_applySections (d : Document) : SectionsDefined (applySections d) := by
  have fills := (applySections_converts d).fills
  refine fills.every (P := fun _ => True) ?_ (fun _ => rfl) ?_ ?_
  · exact fun other _ others => (isSection_byHead _ others _).trans other
  · exact everyIn_of_preorderAll fun _ _ => trivial
  · intro ks member
    rcases mem_replacements member with rfl | ⟨n, -, rfl⟩
    · exact EveryIn.nil
    · exact .single (toSection_cleared n)

theorem SectionsDefined.apply (defined : SectionsDefined d) (r : ClassRule) :
    SectionsDefined (r.apply d) := by
  apply Document.everyIn_changeClass _ (fun _ => rfl) (fun _ _ inside => inside) defined
  exact fun _ _ none => (isSection_byHead _ _ _).trans none

/-! ## Sections behind members -/

theorem isToken_of_isSection {n : Node} (fits : isSection n = true) : n.isToken = false := by
  rcases n with - | ⟨⟨content, span?, diagnostics, label?⟩, children⟩
  · rfl
  · cases content with
    | directiveToken => cases fits
    | _ => rfl

namespace Fills

variable {outer ns ms : List Node} {puts : List (List Node)} {p : Node → Bool}

theorem forall_isToken (fills : Fills outer puts ns ms) (tokens : ∀ k ∈ ns, k.isToken = true) :
    ∀ k ∈ ms, k.isToken = true := by
  induction fills with
  | nil => exact tokens
  | directive fits _ _ =>
    have token := tokens _ List.mem_cons_self
    rw [isToken_of_isSection fits] at token
    cases token
  | absent _ ih =>
    rw [List.forall_mem_cons] at tokens ⊢
    exact ⟨tokens.1, ih tokens.2⟩
  | node _ _ _ _ ih =>
    rw [List.forall_mem_cons] at tokens ⊢
    exact ⟨(isToken_byHead _ _ _).trans tokens.1, ih tokens.2⟩

theorem blockless (fills : Fills outer puts ns ms) (byHead : ByHead p)
    (every : EveryIn (Blockless p) ns) (put : ∀ ks ∈ puts, EveryIn (Blockless p) ks) :
    EveryIn (Blockless p) ms := by
  induction fills with
  | nil => exact EveryIn.nil
  | directive _ _ ih =>
    rcases List.forall_mem_cons.mp put with ⟨first, others⟩
    exact first.append (ih every.tail others)
  | absent _ ih => exact .cons every.head (ih every.tail put)
  | node _ inside _ ihInside ih =>
    rcases List.forall_mem_append.mp put with ⟨within, behind⟩
    refine .cons (.intro _ ?_ (ihInside every.head.inside within)) (ih every.tail behind)
    intro fits
    exact inside.forall_isToken (every.head.self ((byHead _ _ _).trans fits))

end Fills

/-! ## Anchors -/

variable (definition : DirectiveDescriptor)

/-- Whether a node is a directive with a definition, or a primary class for it to describe. -/
def isAnchor (n : Node) : Bool := n.isDirectiveOf definition || n.isPrimaryClass

/-- Some nodes are no anchors, and none is inside of them. -/
abbrev NoAnchors (ns : List Node) : Prop := EveryIn (fun n => isAnchor definition n = false) ns

/-- A directive has neither directives with a definition in it nor a primary class. -/
def HoldsNoAnchor (n : Node) : Prop := n.isDirective = true → NoAnchors definition n.children

variable {definition}

theorem isAnchor_ofHead : OfHead fun n => isAnchor definition n = false := by
  intro head children others none
  rw [← none]
  unfold isAnchor
  rw [isDirectiveOf_byHead definition head others children,
    Document.isPrimaryClass_byHead head others children]

theorem holdsNoAnchor_of_not_directive {head : Head} {children : List Node}
    (other : (Node.node head children).isDirective = false) :
    HoldsNoAnchor definition (.node head children) := by
  intro directive
  rw [other] at directive
  cases directive

/-- Nodes without anchors hold none. -/
theorem holdsNoAnchor_of_none {ns : List Node} (none : NoAnchors definition ns) :
    EveryIn (HoldsNoAnchor definition) ns :=
  everyIn_of_preorderAll fun n member _ => (Every.of_mem_preorderAll none n member).inside

/-- A question that anchors answer, by their heads and their tokens. -/
structure AsksAnchors {α : Type} (definition : DirectiveDescriptor) (g : Node → List α) : Prop where
  byTokens : ByTokens g
  quiet : ∀ n, isAnchor definition n = false → g n = []

theorem toldBy_asksAnchors : AsksAnchors definition (toldBy definition) where
  byTokens := toldBy_byTokens definition
  quiet n none := by
    have other : n.isDirectiveOf definition = false := (Bool.or_eq_false_iff.mp none).1
    simp [toldBy, other]

/-- The shape of a primary class; nothing for other nodes. -/
def shapeOf : Node → List ClassShape
  | .node { content := .classDecl shape, .. } _ => if shape.isPrimary then [shape] else []
  | _ => []

theorem shapeOf_asksAnchors : AsksAnchors definition shapeOf where
  byTokens {head _ _} _ := by
    rcases head with ⟨content, span?, diagnostics, label?⟩
    cases content <;> rfl
  quiet n none := by
    have other : n.isPrimaryClass = false := (Bool.or_eq_false_iff.mp none).2
    rcases n with - | ⟨⟨content, span?, diagnostics, label?⟩, children⟩
    · rfl
    · cases content with
      | classDecl shape => exact if_neg (Bool.eq_false_iff.mp other)
      | _ => rfl

theorem primaryShape?_eq (d : Document) : d.primaryShape? = (d.nodes.flatMap shapeOf).head? := by
  unfold Document.primaryShape? Document.primaryClass?
  induction d.nodes with
  | nil => rfl
  | cons n ns ih =>
    rw [List.flatMap_cons, List.head?_append, List.findSome?_cons, ← ih]
    rcases n with - | ⟨⟨content, span?, diagnostics, label?⟩, children⟩
    · rfl
    · cases content with
      | classDecl shape =>
        cases primary : shape.isPrimary <;> simp [shapeOf, primary]
      | _ => rfl

theorem tokenOf?_withoutBlocks {p : Node → Bool} (n : Node) :
    (withoutBlocks p n).tokenOf? = n.tokenOf? := by
  cases n with
  | absent => rfl
  | node head children => exact tokenOf?_byHead head _ children

theorem filterMap_tokenOf?_withoutBlocksIn {p : Node → Bool} (tokensOnly : Bool) (ns : List Node) :
    (withoutBlocksIn p tokensOnly ns).filterMap tokenOf? = ns.filterMap tokenOf? := by
  induction ns with
  | nil => simp [withoutBlocksIn]
  | cons n ns ih =>
    unfold withoutBlocksIn
    split
    · next gone =>
      rw [Bool.and_eq_true, Bool.not_eq_true'] at gone
      rw [ih, List.filterMap_cons_none (tokenOf?_of_not_isToken gone.2)]
    · rw [List.filterMap_cons, List.filterMap_cons, ih, tokenOf?_withoutBlocks]

theorem Fills.filterMap_tokenOf? {outer ns ms : List Node} {puts : List (List Node)}
    (fills : Fills outer puts ns ms) (tokens : ∀ ks ∈ puts, ks.filterMap tokenOf? = []) :
    ms.filterMap tokenOf? = ns.filterMap tokenOf? := by
  induction fills with
  | nil => rfl
  | directive fits _ ih =>
    rw [List.forall_mem_cons] at tokens
    have none := tokenOf?_of_not_isToken (isToken_of_isSection fits)
    rw [List.filterMap_append, tokens.1, ih tokens.2, List.filterMap_cons_none none]
    rfl
  | absent _ ih => rw [List.filterMap_cons, List.filterMap_cons, ih tokens]
  | @node head children others _ _ _ _ _ _ _ _ _ _ ih =>
    rw [List.forall_mem_append] at tokens
    rw [List.filterMap_cons, List.filterMap_cons, ih tokens.2,
      tokenOf?_byHead head others children]

namespace AsksAnchors

variable {α : Type} {g : Node → List α} {p : Node → Bool}

theorem flatMap_eq_nil (asks : AsksAnchors definition g) {ns : List Node}
    (none : NoAnchors definition ns) :
    (preorderAll ns).flatMap g = [] := by
  rw [List.flatMap_eq_nil_iff]
  exact fun n member => asks.quiet n (Every.of_mem_preorderAll none n member).self

mutual

theorem flatMap_withoutBlocks (asks : AsksAnchors definition g)
    (directives : ∀ n, p n = true → n.isDirective = true) :
    ∀ {n : Node}, n.Every (HoldsNoAnchor definition) →
      (withoutBlocks p n).preorder.flatMap g = n.preorder.flatMap g
  | .absent, _ => rfl
  | .node head children, every => by
    have own : g (withoutBlocks p (.node head children)) = g (.node head children) :=
      asks.byTokens (filterMap_tokenOf?_withoutBlocksIn _ children)
    have inside : (preorderAll (withoutBlocksIn p (p (.node head children)) children)).flatMap g
        = (preorderAll children).flatMap g := by
      cases fits : p (.node head children) with
      | false => exact flatMap_withoutBlocksIn asks directives every.inside
      | true =>
        have none : EveryIn _ children := every.self (directives _ fits)
        rw [asks.flatMap_eq_nil none,
          asks.flatMap_eq_nil (withoutBlocksIn_every (fun _ _ => isAnchor_ofHead _) true none)]
    rw [withoutBlocks] at own ⊢
    rw [preorder, preorder, List.flatMap_cons, List.flatMap_cons, own, inside]

/-- Blocks that are taken out of directives have no answers. -/
theorem flatMap_withoutBlocksIn (asks : AsksAnchors definition g)
    (directives : ∀ n, p n = true → n.isDirective = true) :
    ∀ {ns : List Node}, EveryIn (HoldsNoAnchor definition) ns →
      (preorderAll (withoutBlocksIn p false ns)).flatMap g = (preorderAll ns).flatMap g
  | [], _ => rfl
  | n :: ns, every => by
    change (preorderAll (withoutBlocks p n :: withoutBlocksIn p false ns)).flatMap g = _
    rw [preorderAll, preorderAll, List.flatMap_append, List.flatMap_append,
      flatMap_withoutBlocks asks directives every.head,
      flatMap_withoutBlocksIn asks directives every.tail]

end

/-- Neither section directives nor what is put in their places has answers. -/
theorem flatMap_fills (asks : AsksAnchors definition g) {outer ns ms : List Node}
    {puts : List (List Node)} (fills : Fills outer puts ns ms)
    (other : ∀ n, isSection n = true → isAnchor definition n = false)
    (every : EveryIn (HoldsNoAnchor definition) ns)
    (tokens : ∀ ks ∈ puts, ks.filterMap tokenOf? = [])
    (put : ∀ ks ∈ puts, NoAnchors definition ks) :
    (preorderAll ms).flatMap g = (preorderAll ns).flatMap g := by
  induction fills with
  | nil => rfl
  | @directive n _ _ _ _ _ fits _ ih =>
    rw [List.forall_mem_cons] at tokens put
    have gone : NoAnchors definition [n] :=
      .single (.intro _ (other n fits) (every.head.self (isDirective_of_isDirectiveOf fits)))
    have silent := asks.flatMap_eq_nil gone
    rw [preorderAll, preorderAll, List.append_nil] at silent
    rw [preorderAll_append, preorderAll, List.flatMap_append, List.flatMap_append, silent,
      asks.flatMap_eq_nil put.1, ih every.tail tokens.2 put.2]
  | absent _ ih =>
    rw [preorderAll, preorderAll, List.flatMap_append, List.flatMap_append,
      ih every.tail tokens put]
  | @node head children others _ _ _ _ _ _ _ inside _ ihInside ih =>
    rw [List.forall_mem_append] at tokens put
    have own : g (.node head others) = g (.node head children) :=
      asks.byTokens (inside.filterMap_tokenOf? tokens.1)
    rw [preorderAll, preorderAll, preorder, preorder, List.flatMap_append, List.flatMap_append,
      List.flatMap_cons, List.flatMap_cons, own, ihInside every.head.inside tokens.1 put.1,
      ih every.tail tokens.2 put.2]

end AsksAnchors

/-! ## Directives that hold no anchors -/

section HoldsNoAnchor

variable {p : Node → Bool}

mutual

theorem withoutBlocks_holdsNoAnchor :
    ∀ {n : Node}, n.Every (HoldsNoAnchor definition) →
      (withoutBlocks p n).Every (HoldsNoAnchor definition)
  | .absent, every => every
  | .node head children, every => by
    refine .intro _ ?_ (withoutBlocksIn_holdsNoAnchor _ every.inside)
    intro directive
    rw [withoutBlocks, isDirective_byHead head _ children] at directive
    exact withoutBlocksIn_every (fun _ _ => isAnchor_ofHead _) _ (every.self directive)

theorem withoutBlocksIn_holdsNoAnchor (tokensOnly : Bool) :
    ∀ {ns : List Node}, EveryIn (HoldsNoAnchor definition) ns →
      EveryIn (HoldsNoAnchor definition) (withoutBlocksIn p tokensOnly ns)
  | [], _ => EveryIn.nil
  | n :: ns, every => by
    unfold withoutBlocksIn
    split
    · exact withoutBlocksIn_holdsNoAnchor tokensOnly every.tail
    · exact .cons (withoutBlocks_holdsNoAnchor every.head)
        (withoutBlocksIn_holdsNoAnchor tokensOnly every.tail)

end

/-- Members have no anchors. -/
theorem members_noAnchor (definitions : List DirectiveDescriptor)
    (every : EveryIn (HoldsNoAnchor definition) d.children) :
    NoAnchors definition
      ((d.nodes.filter (isMember definitions)).flatMap Node.block) := by
  apply EveryIn.flatMap
  intro n among
  rcases List.mem_filter.mp among with ⟨member, fits⟩
  have none := (Every.of_mem_preorderAll every n member).self (isDirective_of_isMember n fits)
  exact EveryIn.filter none _

/-- The nodes around the primary class are no directives, so that it may change. -/
theorem holdsNoAnchor_changeClass {f : ClassShape → List Node → ClassShape × List Node}
    (every : EveryIn (HoldsNoAnchor definition) d.children)
    (members : ∀ shape ns, EveryIn (HoldsNoAnchor definition) ns →
      EveryIn (HoldsNoAnchor definition) (f shape ns).2) :
    EveryIn (HoldsNoAnchor definition) (d.changeClass f).children := by
  apply Document.everyIn_changeClass _ (fun _ => nofun) members every
  intro outer inner n m within _ none directive
  rw [isDirective_byHead outer _ (inner n)] at directive
  have other := (within.every_self (none directive)).self
  have fits := within.fits
  rw [(Bool.or_eq_false_iff.mp other).2] at fits
  cases fits

end HoldsNoAnchor

theorem holdsNoAnchor_apply (every : EveryIn (HoldsNoAnchor definition) d.children)
    (r : ClassRule) : EveryIn (HoldsNoAnchor definition) (r.apply d).children :=
  holdsNoAnchor_changeClass every fun _ _ inside => inside

theorem holdsNoAnchor_applyMembers (definitions : List DirectiveDescriptor)
    (every : EveryIn (HoldsNoAnchor definition) d.children) :
    EveryIn (HoldsNoAnchor definition) (applyMembers definitions d).children := by
  rcases applyMembers_cases definitions d with ⟨-, same⟩ | ⟨-, same⟩
  · rw [same]
    exact every
  · rw [same]
    apply holdsNoAnchor_changeClass (withoutBlocksIn_holdsNoAnchor false every)
    intro shape ns inside
    have blocks := holdsNoAnchor_of_none (members_noAnchor definitions every)
    exact inside.append (withoutBlocksIn_holdsNoAnchor false blocks)

/-! ## What members and sections leave alone -/

theorem told_applyMembers (definitions : List DirectiveDescriptor)
    (every : EveryIn (HoldsNoAnchor definition) d.children) :
    (applyMembers definitions d).told definition = d.told definition := by
  rcases applyMembers_cases definitions d with ⟨-, same⟩ | ⟨-, same⟩
  · rw [same]
  · have rebuilds : Rebuilds (fun n => isAnchor definition n = false)
        (withoutBlocks (isMember definitions)) := fun _ _ => isAnchor_ofHead _
    have blocks := withoutBlocksIn_every rebuilds false (members_noAnchor definitions every)
    rw [same, Document.told_changeClass]
    · exact toldBy_asksAnchors.flatMap_withoutBlocksIn isDirective_of_isMember every
    · intro shape members
      rw [preorderAll_append, List.flatMap_append,
        toldBy_asksAnchors.flatMap_eq_nil blocks, List.append_nil]

theorem primaryShape?_applyMembers (definitions : List DirectiveDescriptor)
    (every : EveryIn (HoldsNoAnchor definition) d.children) :
    (applyMembers definitions d).primaryShape? = d.primaryShape? := by
  rcases applyMembers_cases definitions d with ⟨-, same⟩ | ⟨-, same⟩
  · rw [same]
  · rw [same, Document.primaryShape?_changeClass (fun shape _ => (id_eq shape).symm) fun _ => rfl,
      Option.map_id', primaryShape?_eq, primaryShape?_eq]
    have shapes := shapeOf_asksAnchors.flatMap_withoutBlocksIn (p := isMember definitions)
      isDirective_of_isMember every
    exact congrArg List.head? shapes

theorem replacements_noAnchor {earlier : List Node}
    (every : EveryIn (HoldsNoAnchor definition) d.children) :
    ∀ ks ∈ replacements earlier (outerSectionsIn d.children),
      ks.filterMap tokenOf? = [] ∧ NoAnchors definition ks := by
  intro ks member
  have sections := (applySections_converts d).fills.isSection_of_mem
  rcases mem_replacements member with rfl | ⟨n, among, rfl⟩
  · exact ⟨rfl, EveryIn.nil⟩
  · have directive := isDirective_of_isDirectiveOf (sections n among)
    have none := (outerSectionsIn_every every n among).self directive
    have inside := withoutSectionsIn_every (fun _ _ => isAnchor_ofHead _)
      (none.filter fun c => !c.isToken)
    exact ⟨rfl, .single (.intro _ rfl inside)⟩

/-- A section directive is a directive with one definition only. -/
theorem isAnchor_of_isSection {n : Node} (other : definition.digest ≠ sectionBlock.digest)
    (fits : isSection n = true) : isAnchor definition n = false := by
  rcases n with - | ⟨⟨content, span?, diagnostics, label?⟩, children⟩
  · rfl
  · cases content with
    | directive name descriptor? =>
      cases descriptor? with
      | none => rfl
      | some e =>
        have same : e.digest = sectionBlock.digest := by simpa [isSection, isDirectiveOf] using fits
        simpa [isAnchor, isDirectiveOf, isPrimaryClass, same] using other.symm
    | _ => cases fits

/-- Defining sections leaves the answers to questions about anchors alone. -/
theorem AsksAnchors.flatMap_applySections {α : Type} {g : Node → List α}
    (asks : AsksAnchors definition g) (other : definition.digest ≠ sectionBlock.digest)
    (every : EveryIn (HoldsNoAnchor definition) d.children) :
    (applySections d).nodes.flatMap g = d.nodes.flatMap g := by
  apply asks.flatMap_fills (applySections_converts d).fills _ every
  · exact fun ks member => (replacements_noAnchor every ks member).1
  · exact fun ks member => (replacements_noAnchor every ks member).2
  · exact fun n fits => isAnchor_of_isSection other fits

theorem primaryShape?_applySections (other : definition.digest ≠ sectionBlock.digest)
    (every : EveryIn (HoldsNoAnchor definition) d.children) :
    (applySections d).primaryShape? = d.primaryShape? := by
  rw [primaryShape?_eq, primaryShape?_eq, shapeOf_asksAnchors.flatMap_applySections other every]

theorem MembersMoved.applySections (moved : MembersMoved definitions d)
    (same : (applySections d).primaryShape? = d.primaryShape?) :
    MembersMoved definitions (applySections d) := by
  intro present
  have fills := (applySections_converts d).fills
  have before : d.primaryClass?.isSome = true := by
    simpa [Document.primaryShape?, present] using congrArg Option.isSome same.symm
  have every := moved before
  apply fills.blockless isMember_congr every
  intro ks member
  rcases mem_replacements member with rfl | ⟨n, among, rfl⟩
  · exact EveryIn.nil
  · have inside : EveryIn (Blockless (isMember definitions)) n.block :=
      EveryIn.filter (outerSectionsIn_every every n among).inside _
    refine .single (.intro _ (fun fits => ?_) ?_)
    · cases isDirective_of_isMember _ fits
    · apply (withoutSectionsIn_fills n.block).blockless isMember_congr inside
      intro ks put
      rcases List.mem_map.mp put with ⟨_, -, rfl⟩
      exact EveryIn.nil

/-- A rule outlasts changes that leave the shape of the class and what directives say alone. -/
theorem ClassRule.Holds.congr {r : ClassRule} {e : Document} (holds : r.Holds d)
    (told : e.told r.definition = d.told r.definition) (shape : e.primaryShape? = d.primaryShape?) :
    r.Holds e := by
  unfold ClassRule.Holds
  rw [told, shape]
  exact holds

/-! ## All directives -/

/-- The changes that directives make to a document, in the order in which they are made. -/
def directiveSteps (definitions : List DirectiveDescriptor) : List (Document → Document) :=
  [applyInherits, applyMembers definitions, applySections, applyImplements, applyTypeParameters,
    applyLayout, applyAttributes]

/-- Make all changes that directives make. -/
def applyDirectives (definitions : List DirectiveDescriptor) (d : Document) : Document :=
  (directiveSteps definitions).foldl (fun d step => step d) d

/-- Each change does nothing when it is made again. -/
theorem directiveSteps_twice (definitions : List DirectiveDescriptor) :
    ∀ step ∈ directiveSteps definitions, ∀ d, step (step d) = step d := by
  have rules (r : ClassRule) {step : Document → Document} (same : ∀ d, step d = r.apply d)
      (d : Document) : step (step d) = step d := by
    rw [same, same, r.apply_apply]
  simp only [directiveSteps, List.forall_mem_cons, List.not_mem_nil, false_implies, implies_true,
    and_true]
  refine ⟨rules _ applyInherits_eq, fun d => ?_, fun d => ?_, rules _ applyImplements_eq,
    rules _ applyTypeParameters_eq, rules _ applyLayout_eq, rules _ applyAttributes_eq⟩
  · exact applyMembers_of_membersMoved (membersMoved_applyMembers definitions d)
  · exact applySections_of_sectionsDefined (sectionsDefined_applySections d)

theorem applyDirectives_eq (definitions : List DirectiveDescriptor) (d : Document) :
    applyDirectives definitions d = ClassRule.applyAll furtherRules
      (applySections (applyMembers definitions (inheritsRule.apply d))) := by
  simp only [applyDirectives, directiveSteps, List.foldl_cons, List.foldl_nil, applyInherits_eq,
    applyImplements_eq, applyTypeParameters_eq, applyLayout_eq, applyAttributes_eq]
  rfl

/-- A document in which there is nothing left to do for directives. -/
structure Settled (definitions : List DirectiveDescriptor) (d : Document) : Prop where
  base : inheritsRule.Holds d
  members : MembersMoved definitions d
  sections : SectionsDefined d
  further : ∀ r ∈ furtherRules, r.Holds d

theorem applyDirectives_of_settled (settled : Settled definitions d) :
    applyDirectives definitions d = d := by
  rw [applyDirectives_eq, ClassRule.apply_of_holds settled.base,
    applyMembers_of_membersMoved settled.members, applySections_of_sectionsDefined settled.sections,
    ClassRule.applyAll_of_holds settled.further]

/-- All changes leave nothing to do, if no directive has one for the base type or the primary class
in it. -/
theorem settled_applyDirectives (every : EveryIn (HoldsNoAnchor .inherits) d.children) :
    Settled definitions (applyDirectives definitions d) := by
  have other : DirectiveDescriptor.inherits.digest ≠ sectionBlock.digest := by decide +kernel
  have outer := holdsNoAnchor_apply every inheritsRule
  have inner := holdsNoAnchor_applyMembers definitions outer
  have shape := primaryShape?_applySections other inner
  have base : inheritsRule.Holds
      (applySections (applyMembers definitions (inheritsRule.apply d))) := by
    have members := (inheritsRule.holds_apply d).congr (told_applyMembers definitions outer)
      (primaryShape?_applyMembers definitions outer)
    exact members.congr (toldBy_asksAnchors.flatMap_applySections other inner) shape
  have moved := (membersMoved_applyMembers definitions (inheritsRule.apply d)).applySections shape
  have defined := sectionsDefined_applySections (applyMembers definitions (inheritsRule.apply d))
  rw [applyDirectives_eq]
  exact {
    base := base.applyAll furtherRules_spare_inheritsRule
    members := ClassRule.applyAll_keeps (fun r _ _ moved => moved.apply r) moved
    sections := ClassRule.applyAll_keeps (fun r _ _ defined => defined.apply r) defined
    further := ClassRule.holds_applyAll furtherRules_apart _ }

end Dialect

end TemplateCompiler
