import TemplateCompiler.Dialect.Pass
import TemplateCompiler.IR.Invariants
import TemplateCompiler.Pipeline.Classifier
import TemplateCompiler.Proofs.EnclosedLowering
import TemplateCompiler.Proofs.RebuiltNodes

/-!
# Declarations stay nested

The nodes of a document are fit, except for its declarations: at most one namespace, inside of it at
most one class, and inside of that at most one method.  Lowering makes no declarations, a classifier
makes one of each, and the passes that follow keep them in each other.

A pass changes a list of nodes in one of two ways.  It changes the first declaration of a kind, or it
goes through all nodes and treats what stands before a declaration, in it and behind it apart.  For
each of the two ways there is one argument by induction on the nesting.

Nested declarations have no defects.  Nothing here depends on which declarations are primary: there
are not two of a kind.
-/

namespace TemplateCompiler

namespace IR

namespace Node

variable {files : FileSet} {kind : Declaration} {kinds : List Declaration} {ns : List Node}

/-! ## Fit nodes -/

theorem Fit.encloses {n : Node} {span : Span} (fit : n.Fit files) (located : n.span? = some span) :
    files.Encloses span := by
  cases n with
  | absent => cases located
  | node head children => exact fit.1 span located

theorem fit_ofHead : OfHead (Fit files) := fun _ fit => fit

theorem joins_fit : Joins (Fit files) := by
  intro a b first second children
  refine ⟨?_, rfl⟩
  intro span joined
  change joinSpans a.span? b.span? = some span at joined
  unfold joinSpans at joined
  split at joined
  · next s t here there =>
    split at joined
    · cases joined
      exact (first.encloses here).cover (second.encloses there)
    · cases joined
      exact first.encloses here
  · next here _ =>
    cases joined
    exact first.encloses here
  · exact second.encloses joined

theorem defines_fit : Dialect.Defines (Fit files) := by
  intro n fit children
  refine ⟨?_, rfl⟩
  intro span located
  exact fit.encloses located

/-! ## Nesting -/

/-- Fit nodes, or fit nodes around one declaration of the first kind that has the other kinds
inside. -/
inductive Nested (files : FileSet) : List Declaration → List Node → Prop
  | flat {kinds : List Declaration} {ns : List Node} (fit : AllFit files ns) : Nested files kinds ns
  | around {kind : Declaration} {kinds : List Declaration} {head : Head}
      {front children back : List Node} (enclosed : head.Enclosed files)
      (declares : head.content.declaration? = some kind) (before : AllFit files front)
      (inside : Nested files kinds children) (behind : AllFit files back) :
      Nested files (kind :: kinds) (front ++ .node head children :: back)

theorem Nested.single {head : Head} {children : List Node} (enclosed : head.Enclosed files)
    (declares : head.content.declaration? = some kind) (inside : Nested files kinds children) :
    Nested files (kind :: kinds) [.node head children] := by
  change Nested files _ ([] ++ .node head children :: [])
  exact .around enclosed declares EveryIn.nil inside EveryIn.nil

theorem Nested.surround {front back : List Node} (nested : Nested files kinds ns)
    (before : AllFit files front) (behind : AllFit files back) :
    Nested files kinds (front ++ ns ++ back) := by
  cases nested with
  | flat fit => exact .flat ((EveryIn.append before fit).append behind)
  | @around kind kinds head first children last enclosed declares before' inside behind' =>
    have regrouped : front ++ (first ++ .node head children :: last) ++ back
        = (front ++ first) ++ .node head children :: (last ++ back) := by simp
    rw [regrouped]
    exact .around enclosed declares (before.append before') inside (behind'.append behind)

/-! ## Going through all nodes -/

/-- A change of lists of nodes that keeps them fit and goes into declarations. -/
structure Rewriting (files : FileSet) (R : List Node → List Node → Prop) : Prop where
  fit {ns ms : List Node} : R ns ms → AllFit files ns → AllFit files ms
  split {kind : Declaration} {head : Head} {front children back ms : List Node} :
    head.content.declaration? = some kind → R (front ++ .node head children :: back) ms →
      ∃ front' children' back', ms = front' ++ .node head children' :: back'
        ∧ R front front' ∧ R children children' ∧ R back back'

theorem Nested.rewrite {R : List Node → List Node → Prop} (rewriting : Rewriting files R)
    (nested : Nested files kinds ns) : ∀ {ms : List Node}, R ns ms → Nested files kinds ms := by
  induction nested with
  | flat fit =>
    intro ms changed
    exact .flat (rewriting.fit changed fit)
  | around enclosed declares before _ behind ih =>
    intro ms changed
    rcases rewriting.split declares changed with
      ⟨front, children, back, rfl, inFront, inside, inBack⟩
    exact .around enclosed declares (rewriting.fit inFront before) (ih inside)
      (rewriting.fit inBack behind)

theorem markup_of_joinMarkup? {a b joined : Node} (found : joinMarkup? a b = some joined) :
    a.content? = some .markup ∧ b.content? = some .markup := by
  unfold joinMarkup? at found
  split at found
  · exact ⟨rfl, rfl⟩
  · cases found

section Declared

variable {head : Head} {children : List Node} (declares : head.content.declaration? = some kind)

include declares

theorem isDirective_of_declares : (node head children).isDirective = false := by
  rcases head with ⟨content, span?, diagnostics, label?⟩
  cases content with
  | directive => cases declares
  | _ => rfl

theorem joinMarkup?_declared (n : Node) :
    joinMarkup? n (node head children) = none ∧ joinMarkup? (node head children) n = none := by
  have other : head.content ≠ .markup := by
    intro same
    rw [same] at declares
    cases declares
  constructor
  · cases found : joinMarkup? n (node head children) with
    | none => rfl
    | some joined => exact absurd (Option.some.inj (markup_of_joinMarkup? found).2) other
  · cases found : joinMarkup? (node head children) n with
    | none => rfl
    | some joined => exact absurd (Option.some.inj (markup_of_joinMarkup? found).1) other

/-- Markup is not joined across a declaration. -/
theorem joinSiblings_split (front back : List Node) :
    joinSiblings (front ++ node head children :: back)
      = joinSiblings front ++ node head children :: joinSiblings back := by
  have behind : joinRuns (node head children) back = node head children :: joinSiblings back := by
    cases back with
    | nil => rfl
    | cons n back => simp [joinRuns, joinSiblings, (joinMarkup?_declared declares n).2]
  have before (front : List Node) :
      ∀ first, joinRuns first (front ++ node head children :: back)
        = joinRuns first front ++ node head children :: joinSiblings back := by
    induction front with
    | nil =>
      intro first
      simp [joinRuns, (joinMarkup?_declared declares first).1, behind]
    | cons n front ih =>
      intro first
      rw [List.cons_append, joinRuns, joinRuns]
      split
      · exact ih _
      · simp [ih]
  cases front with
  | nil => exact behind
  | cons n front => exact before front n

end Declared

theorem rewriting_dropDirectives :
    Rewriting files fun ns ms => ms = dropDirectivesAll ns where
  fit := by
    rintro ns _ rfl fit
    exact dropDirectivesAll_every (fun _ _ => fit_ofHead _) fit
  split := by
    rintro kind head front children back _ declares rfl
    refine ⟨_, _, _, ?_, rfl, rfl, rfl⟩
    rw [dropDirectivesAll_append, dropDirectivesAll, isDirective_of_declares declares]
    rfl

/-- Joining markup on a number of levels, or on none. -/
theorem rewriting_mergeLevels :
    Rewriting files fun ns ms =>
      ms = ns ∨ ∃ levels, ms = (joinSiblings ns).map (mergeLevels levels) where
  fit := by
    rintro ns ms (rfl | ⟨levels, rfl⟩) fit
    · exact fit
    · apply EveryIn.map
      intro n member
      exact mergeLevels_every (fun _ _ _ => fit_ofHead _) joins_fit levels
        (joinSiblings_every joins_fit fit n member)
  split := by
    rintro kind head front children back ms declares (rfl | ⟨levels, rfl⟩)
    · exact ⟨front, children, back, rfl, .inl rfl, .inl rfl, .inl rfl⟩
    · rw [joinSiblings_split declares, List.map_append, List.map_cons]
      cases levels with
      | zero => exact ⟨_, children, _, rfl, .inr ⟨0, rfl⟩, .inl rfl, .inr ⟨0, rfl⟩⟩
      | succ levels =>
        exact ⟨_, _, _, rfl, .inr ⟨_, rfl⟩, .inr ⟨levels, rfl⟩, .inr ⟨_, rfl⟩⟩

/-! ## Changing one declaration -/

section ChangeFirst

variable {p : Node → Bool} {f : Node → Node}
  (only : ∀ {head : Head} {children : List Node}, p (.node head children) = true →
    head.content.declaration? = some kind)

include only

theorem not_of_fit (n : Node) (fit : n.Fit files) : p n = false := by
  cases n with
  | absent => exact absurd fit id
  | node head children =>
    rw [Bool.eq_false_iff]
    intro found
    have declares := only found
    rw [fit.2] at declares
    cases declares

theorem changeFirstIn?_fit (fit : AllFit files ns) : changeFirstIn? p f ns = none := by
  have nothing := changeFirstIn?_of_every f (not_of_fit only) fit []
  rwa [List.append_nil] at nothing

theorem Nested.changeFirstIn?
    (changed : ∀ {head : Head} {children : List Node} {kinds : List Declaration},
      head.Enclosed files → head.content.declaration? = some kind → Nested files kinds children →
        Nested files (kind :: kinds) [f (.node head children)])
    (nested : Nested files kinds ns) :
    ∀ {ms : List Node}, Node.changeFirstIn? p f ns = some ms → Nested files kinds ms := by
  induction nested with
  | flat fit =>
    intro ms found
    rw [changeFirstIn?_fit only fit] at found
    cases found
  | @around _ kinds head front children back enclosed declares before inside behind ih =>
    intro ms found
    rw [changeFirstIn?_of_every f (not_of_fit only) before] at found
    rcases Option.map_eq_some_iff.mp found with ⟨rest, there, rfl⟩
    unfold Node.changeFirstIn? Node.changeFirst? at there
    by_cases here : p (.node head children) = true
    · rw [if_pos here] at there
      cases there
      cases declares.symm.trans (only here)
      have replaced := (changed enclosed declares inside).surround before behind
      rwa [List.append_assoc] at replaced
    · rw [if_neg here] at there
      cases below : Node.changeFirstIn? p f children with
      | none =>
        rw [below, changeFirstIn?_fit only behind] at there
        cases there
      | some others =>
        rw [below] at there
        cases there
        exact .around enclosed declares before (ih below) behind

/-- There are no more declarations of a kind than the nesting says. -/
theorem Nested.countP_le (nested : Nested files kinds ns) :
    (preorderAll ns).countP p ≤ kinds.count kind := by
  have none {ns : List Node} (fit : AllFit files ns) : (preorderAll ns).countP p = 0 := by
    rw [List.countP_eq_zero]
    intro n member
    rw [not_of_fit only n (Every.of_mem_preorderAll fit n member).self]
    exact Bool.false_ne_true
  induction nested with
  | flat fit =>
    rw [none fit]
    exact Nat.zero_le _
  | @around declared kinds head front children back _ declares before inside behind ih =>
    rw [preorderAll_append, List.countP_append, none before, preorderAll, List.countP_append,
      none behind, preorder, List.countP_cons, List.count_cons]
    by_cases here : p (.node head children) = true
    · cases declares.symm.trans (only here)
      simp [here]
      omega
    · rw [if_neg here]
      omega

end ChangeFirst

section Primary

variable {head : Head} {children : List Node}

theorem declares_of_isPrimaryNamespace
    (primary : (node head children).isPrimaryNamespace = true) :
    head.content.declaration? = some .namespaceOf := by
  rcases head with ⟨content, span?, diagnostics, label?⟩
  cases content with
  | namespaceDecl => rfl
  | _ => cases primary

theorem declares_of_isPrimaryClass (primary : (node head children).isPrimaryClass = true) :
    head.content.declaration? = some .classOf := by
  rcases head with ⟨content, span?, diagnostics, label?⟩
  cases content with
  | classDecl => rfl
  | _ => cases primary

theorem declares_of_isPrimaryMethod (primary : (node head children).isPrimaryMethod = true) :
    head.content.declaration? = some .methodOf := by
  rcases head with ⟨content, span?, diagnostics, label?⟩
  cases content with
  | methodDecl => rfl
  | _ => cases primary

end Primary

/-! ## Defects -/

/-- A node that is there and has its span inside a file. -/
def Sound (files : FileSet) : Node → Prop
  | .absent => False
  | .node head _ => head.Enclosed files

theorem Fit.every_sound {n : Node} (every : n.Every (Fit files)) : n.Every (Sound files) := by
  induction every with
  | intro n self _ ih =>
    refine .intro n ?_ ih
    cases n with
    | absent => exact self
    | node head children => exact self.1

theorem Nested.sound (nested : Nested files kinds ns) : EveryIn (Sound files) ns := by
  have fits {ns : List Node} (fit : AllFit files ns) : EveryIn (Sound files) ns :=
    fun n member => Fit.every_sound (fit n member)
  induction nested with
  | flat fit => exact fits fit
  | around enclosed _ before _ behind ih =>
    exact (fits before).append (.cons (.intro _ enclosed ih) (fits behind))

theorem spanDefect?_of_encloses {span : Span} (encloses : files.Encloses span) (name : Text) :
    spanDefect? files name span = none := by
  rcases encloses with ⟨file, registered, ordered, inside⟩
  unfold spanDefect?
  rw [if_neg (Nat.not_lt.mpr ordered), registered]
  exact if_neg (Nat.not_lt.mpr inside)

mutual

theorem defects_of_sound : ∀ {n : Node}, n.Every (Sound files) → n.defects files = []
  | .absent, every => absurd every.self id
  | .node head children, every => by
    have enclosed : head.Enclosed files := every.self
    have own : head.span?.bind (spanDefect? files head.content.kindName) = none := by
      cases located : head.span? with
      | none => rfl
      | some span => exact spanDefect?_of_encloses (enclosed span located) _
    have inside : EveryIn (Sound files) children := every.inside
    rw [defects, own, childDefects_of_sound inside]
    rfl

theorem childDefects_of_sound {name : Text} :
    ∀ {position : Nat} {ns : List Node}, EveryIn (Sound files) ns →
      childDefects files name position ns = []
  | _, [], _ => rfl
  | _, .absent :: _, every => absurd every.head.self id
  | _, .node head children :: ns, every => by
    rw [childDefects, defects_of_sound every.head, childDefects_of_sound every.tail]
    rfl

end

end Node

open Node

namespace Document

variable {files : FileSet} {d : Document}

/-- The declarations of a document are nested: a namespace, a class and a method. -/
structure Nested (files : FileSet) (d : Document) : Prop where
  span : d.span? = none
  children : Node.Nested files [.namespaceOf, .classOf, .methodOf] d.children

theorem Nested.defects (nested : d.Nested files) : d.defects files = [] := by
  have root : d.toNode.Every (Sound files) := by
    refine .intro _ ?_ nested.children.sound
    intro span located
    change d.span? = some span at located
    rw [nested.span] at located
    cases located
  have single {kind : Declaration} {p : Node → Bool}
      (only : ∀ {head : Head} {children : List Node}, p (.node head children) = true →
        head.content.declaration? = some kind) (name : Text) :
      primaryDefect? name (d.nodes.countP p) = none := by
    have bound := nested.children.countP_le only
    have once : List.count kind [.namespaceOf, .classOf, .methodOf] = 1 := by cases kind <;> rfl
    apply if_neg
    rw [once] at bound
    exact Nat.not_lt.mpr bound
  have namespaces := single declares_of_isPrimaryNamespace "namespace"
  have classes := single declares_of_isPrimaryClass "class"
  have methods := single declares_of_isPrimaryMethod "method"
  unfold Document.defects
  rw [defects_of_sound root]
  simp [namespaces, classes, methods]

end Document

end IR

end TemplateCompiler
