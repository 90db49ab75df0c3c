import TemplateCompiler.Proofs.RecutPasses

/-!
# Sections stand where their directives stood

Of the section directives of a document, those that are in no other one are its outer ones.  Each of
them gives way to a section, or to nothing if one before it has the same name, and the ones inside of
it are taken out.  Everything else stays where it is.

`Fills` says what it means to put nodes in the places of the outer section directives.  Both ways in
which directives go follow it: with sections in their places at the top, and with nothing in them
inside of a section.  What is left in a document is then counted along this relation.
-/

namespace TemplateCompiler

namespace IR.Node

/-- The name of a section; nothing for other nodes. -/
def declaredSection? : Node → Option Text
  | node { content := .sectionDecl name, .. } _ => some name
  | _ => none

theorem declaredSection?_byHead : ByHead declaredSection? := by
  intro head children others
  rcases head with ⟨content, span?, diagnostics, label?⟩
  cases content <;> rfl

mutual

/-- A property of each node that a walk meets is one of all nodes inside a tree. -/
theorem every_of_preorder {P : Node → Prop} : ∀ {n : Node}, (∀ m ∈ n.preorder, P m) → n.Every P
  | .absent, each => .intro _ (each _ List.mem_cons_self) EveryIn.nil
  | .node _ _, each =>
    .intro _ (each _ List.mem_cons_self)
      (everyIn_of_preorderAll fun m member => each m (List.mem_cons_of_mem _ member))

theorem everyIn_of_preorderAll {P : Node → Prop} :
    ∀ {ns : List Node}, (∀ m ∈ preorderAll ns, P m) → EveryIn P ns
  | [], _ => EveryIn.nil
  | _ :: _, each =>
    .cons (every_of_preorder fun m member => each m (List.mem_append_left _ member))
      (everyIn_of_preorderAll fun m member => each m (List.mem_append_right _ member))

end

end IR.Node

namespace Dialect

open IR IR.Node

/-! ## Putting nodes in the places of directives -/

/-- Trees, and the same trees with other nodes in the places of their outer section directives:
the first of some lists in the place of the first directive, and so on. -/
inductive Fills : List Node → List (List Node) → List Node → List Node → Prop
  | nil : Fills [] [] [] []
  | directive {n : Node} {outer ns ms put : List Node} {puts : List (List Node)}
      (fits : isSection n = true) (rest : Fills outer puts ns ms) :
      Fills (n :: outer) (put :: puts) (n :: ns) (put ++ ms)
  | absent {outer ns ms : List Node} {puts : List (List Node)} (rest : Fills outer puts ns ms) :
      Fills outer puts (.absent :: ns) (.absent :: ms)
  | node {head : Head} {children others within outer ns ms : List Node}
      {puts putsWithin : List (List Node)} (other : isSection (.node head children) = false)
      (inside : Fills within putsWithin children others) (rest : Fills outer puts ns ms) :
      Fills (within ++ outer) (putsWithin ++ puts) (.node head children :: ns)
        (.node head others :: ms)

namespace Fills

variable {outer ns ms : List Node} {puts : List (List Node)}

/-- What all nodes of the trees have, apart from section directives, the nodes of the filled trees
have, if those that are put in have it. -/
theorem every {P Q : Node → Prop} (fills : Fills outer puts ns ms)
    (keeps : ∀ {head children}, isSection (.node head children) = false → P (.node head children) →
      ∀ others, Q (.node head others))
    (absent : P .absent → Q .absent) (every : EveryIn P ns) (put : ∀ ks ∈ puts, EveryIn Q ks) :
    EveryIn Q ms := by
  induction fills with
  | nil => exact EveryIn.nil
  | directive _ _ ih =>
    rcases List.forall_mem_cons.mp put with ⟨first, others⟩
    exact first.append (ih every.tail others)
  | absent _ ih => exact .cons (.intro _ (absent every.head.self) EveryIn.nil) (ih every.tail put)
  | node other _ _ ihInside ih =>
    rcases List.forall_mem_append.mp put with ⟨within, behind⟩
    exact .cons (.intro _ (keeps other every.head.self _) (ihInside every.head.inside within))
      (ih every.tail behind)

/-- What a walk asks for, and only finds in section directives, it then finds in the nodes that are
put in their places. -/
theorem filterMap_preorderAll {α : Type} {ask : Node → Option α} (fills : Fills outer puts ns ms)
    (byHead : ByHead ask) (silent : EveryIn (fun n => isSection n = false → ask n = none) ns) :
    (preorderAll ms).filterMap ask = (preorderAll puts.flatten).filterMap ask := by
  induction fills with
  | nil => rfl
  | directive _ _ ih =>
    rw [List.flatten_cons, preorderAll_append, preorderAll_append, List.filterMap_append,
      List.filterMap_append, ih silent.tail]
  | absent _ ih =>
    have none : ask .absent = none := silent.head.self rfl
    rw [← ih silent.tail, preorderAll, preorder, List.singleton_append, List.filterMap_cons, none]
  | @node head children others _ _ _ _ _ _ other _ _ ihInside ih =>
    have none : ask (.node head others) = none :=
      (byHead head others children).trans (silent.head.self other)
    rw [List.flatten_append, preorderAll_append, List.filterMap_append, ← ihInside silent.head.inside,
      ← ih silent.tail, preorderAll, preorder, List.filterMap_append, List.filterMap_cons, none]

/-- All section directives are the outer ones and those inside of them.  They are the same up to
their order: what is inside of the first outer directives stands behind the other outer ones. -/
theorem filter_isSection (fills : Fills outer puts ns ms) :
    ((preorderAll ns).filter isSection).Perm
      (outer ++ outer.flatMap fun n => (preorderAll n.children).filter isSection) := by
  induction fills with
  | nil => exact .nil
  | @directive n _ _ _ _ _ fits _ ih =>
    have first : n.preorder.filter isSection = n :: (preorderAll n.children).filter isSection := by
      cases n with
      | absent => cases fits
      | node head children => exact List.filter_cons_of_pos fits
    rw [preorderAll, List.filter_append, first, List.flatMap_cons, List.cons_append, List.cons_append]
    exact .cons n ((ih.append_left _).trans (List.perm_append_comm_assoc _ _ _))
  | absent _ ih => exact ih
  | @node head children _ _ _ _ _ _ _ other _ _ ihInside ih =>
    have first : (Node.node head children).preorder.filter isSection =
        (preorderAll children).filter isSection :=
      List.filter_cons_of_neg (Bool.eq_false_iff.mp other)
    rw [preorderAll, List.filter_append, first, List.flatMap_append, List.append_assoc]
    apply (ihInside.append ih).trans
    rw [List.append_assoc]
    exact (List.perm_append_comm_assoc _ _ _).append_left _

theorem append {outer' ns' ms' : List Node} {puts' : List (List Node)}
    (first : Fills outer puts ns ms) (second : Fills outer' puts' ns' ms') :
    Fills (outer ++ outer') (puts ++ puts') (ns ++ ns') (ms ++ ms') := by
  induction first with
  | nil => exact second
  | directive fits _ ih =>
    rw [List.append_assoc]
    exact .directive fits ih
  | absent _ ih => exact .absent ih
  | node other inside _ _ ih =>
    rw [List.append_assoc, List.append_assoc]
    exact .node other inside ih

end Fills

/-! ## Taking section directives out -/

theorem outerSections_of_isSection {n : Node} (fits : isSection n = true) :
    outerSections n = [n] := by
  cases n with
  | absent => cases fits
  | node head children =>
    unfold outerSections
    rw [if_pos fits]

mutual

theorem withoutSections_fills : ∀ n : Node, isSection n = false →
    Fills (outerSections n) ((outerSections n).map fun _ => []) [n] [withoutSections n]
  | .absent, _ => .absent .nil
  | .node head children, other => by
    have inside := withoutSectionsIn_fills children
    unfold outerSections
    rw [other, if_neg Bool.false_ne_true]
    have whole := Fills.node other inside .nil
    rwa [List.append_nil, List.append_nil] at whole

/-- Section directives are taken out with nothing in their places. -/
theorem withoutSectionsIn_fills : ∀ ns : List Node,
    Fills (outerSectionsIn ns) ((outerSectionsIn ns).map fun _ => []) ns (withoutSectionsIn ns)
  | [] => .nil
  | n :: ns => by
    have rest := withoutSectionsIn_fills ns
    unfold outerSectionsIn withoutSectionsIn
    by_cases fits : isSection n = true
    · rw [outerSections_of_isSection fits, if_pos fits]
      exact .directive fits rest
    · rw [if_neg fits, List.map_append]
      exact (withoutSections_fills n (Bool.eq_false_iff.mpr fits)).append rest

end

/-! ## First and repeated names -/

/-- Whether one of some section directives has the name of another one. -/
def isRepeated (earlier : List Node) (n : Node) : Bool :=
  earlier.any fun m => sectionName m == sectionName n

/-- What stands in the places of section directives: a section for each of the first with a name. -/
def replacements (earlier : List Node) : List Node → List (List Node)
  | [] => []
  | n :: ns =>
    (if isRepeated earlier n then [] else [toSection n]) :: replacements (earlier ++ [n]) ns

/-- The section directives with the name of one before them. -/
def repeated (earlier : List Node) : List Node → List Node
  | [] => []
  | n :: ns =>
    if isRepeated earlier n then n :: repeated (earlier ++ [n]) ns else repeated (earlier ++ [n]) ns

/-- The names of section directives that none before them has. -/
def firstNames (earlier : List Node) : List Node → List Text
  | [] => []
  | n :: ns =>
    if isRepeated earlier n then firstNames (earlier ++ [n]) ns
    else sectionName n :: firstNames (earlier ++ [n]) ns

theorem replacements_append (ns ms : List Node) : ∀ earlier : List Node,
    replacements earlier (ns ++ ms) = replacements earlier ns ++ replacements (earlier ++ ns) ms := by
  induction ns with
  | nil =>
    intro earlier
    rw [List.append_nil]
    rfl
  | cons n ns ih =>
    intro earlier
    rw [List.cons_append, replacements, replacements, ih, List.append_assoc]
    rfl

theorem repeated_append (ns ms : List Node) : ∀ earlier : List Node,
    repeated earlier (ns ++ ms) = repeated earlier ns ++ repeated (earlier ++ ns) ms := by
  induction ns with
  | nil =>
    intro earlier
    rw [List.append_nil]
    rfl
  | cons n ns ih =>
    intro earlier
    rw [List.cons_append, repeated, repeated, ih, List.append_assoc, List.singleton_append]
    split <;> rfl

theorem mem_replacements {ks : List Node} {ns : List Node} : ∀ {earlier : List Node},
    ks ∈ replacements earlier ns → ks = [] ∨ ∃ n ∈ ns, ks = [toSection n] := by
  induction ns with
  | nil => exact fun member => absurd member List.not_mem_nil
  | cons n ns ih =>
    intro earlier member
    rcases List.mem_cons.mp member with rfl | behind
    · split
      · exact .inl rfl
      · exact .inr ⟨n, List.mem_cons_self, rfl⟩
    · rcases ih behind with nothing | ⟨m, among, same⟩
      · exact .inl nothing
      · exact .inr ⟨m, List.mem_cons_of_mem n among, same⟩

theorem length_firstNames (ns : List Node) : ∀ earlier : List Node,
    (firstNames earlier ns).length + (repeated earlier ns).length = ns.length := by
  induction ns with
  | nil => exact fun _ => rfl
  | cons n ns ih =>
    intro earlier
    have rest := ih (earlier ++ [n])
    rw [firstNames, repeated, List.length_cons, ← rest]
    split
    · rw [List.length_cons]
      omega
    · rw [List.length_cons]
      omega

/-- First names are all different, and none of them was there before. -/
theorem firstNames_nodup (ns : List Node) : ∀ earlier : List Node,
    (firstNames earlier ns).Nodup ∧ ∀ t ∈ firstNames earlier ns, t ∉ earlier.map sectionName := by
  induction ns with
  | nil => exact fun _ => ⟨List.nodup_nil, nofun⟩
  | cons n ns ih =>
    intro earlier
    rcases ih (earlier ++ [n]) with ⟨different, fresh⟩
    have old : ∀ t ∈ firstNames (earlier ++ [n]) ns,
        t ∉ earlier.map sectionName ∧ t ≠ sectionName n := by
      intro t member
      have new := fresh t member
      rw [List.map_append, List.mem_append, not_or] at new
      exact ⟨new.1, fun same => new.2 (same ▸ List.mem_cons_self)⟩
    rw [firstNames]
    split
    · exact ⟨different, fun t member => (old t member).1⟩
    · next first =>
      refine ⟨List.nodup_cons.mpr ⟨fun again => (old _ again).2 rfl, different⟩, ?_⟩
      rw [List.forall_mem_cons]
      refine ⟨fun known => first ?_, fun t member => (old t member).1⟩
      rcases List.mem_map.mp known with ⟨m, member, same⟩
      exact List.any_eq_true.mpr ⟨m, member, beq_iff_eq.mpr same⟩

/-! ## Defining sections -/

/-- The names that defining sections has met so far are those of the section directives in front, so
that a name is a duplicate exactly if one of these has it. -/
def Knows (names : List Text) (earlier : List Node) : Prop :=
  ∀ t : Text, names.contains t = earlier.any fun m => sectionName m == t

theorem Knows.first {names : List Text} {earlier : List Node} (knows : Knows names earlier)
    (n : Node) : Knows (sectionName n :: names) (earlier ++ [n]) := by
  intro t
  rw [List.contains_cons, knows t, List.any_append, List.any_cons, List.any_nil, Bool.or_false,
    Bool.or_comm, BEq.comm]

theorem Knows.again {names : List Text} {earlier : List Node} (knows : Knows names earlier)
    {n : Node} (known : isRepeated earlier n = true) : Knows names (earlier ++ [n]) := by
  intro t
  rw [knows t, List.any_append, List.any_cons, List.any_nil, Bool.or_false]
  by_cases same : sectionName n = t
  · subst same
    rw [show (earlier.any fun m => sectionName m == sectionName n) = true from known]
    rfl
  · rw [beq_eq_false_iff_ne.mpr same, Bool.or_false]

/-- What defining sections makes of some trees, behind other section directives: first sections and
findings about repeated ones. -/
structure Converts (earlier ns outer : List Node) (result : List Node × List Text × List Diagnostic) :
    Prop where
  fills : Fills outer (replacements earlier outer) ns result.1
  knows : Knows result.2.1 (earlier ++ outer)
  found : result.2.2 = (repeated earlier outer).map duplicateFinding

theorem Converts.directive {names : List Text} {earlier : List Node} (knows : Knows names earlier)
    {n : Node} (fits : isSection n = true) :
    Converts earlier [n] [n] (if names.contains (sectionName n) then ([], names, [duplicateFinding n])
      else ([toSection n], sectionName n :: names, [])) := by
  have known : names.contains (sectionName n) = isRepeated earlier n := knows (sectionName n)
  rw [known]
  cases again : isRepeated earlier n with
  | true =>
    refine ⟨?_, knows.again again, ?_⟩
    · rw [replacements, again]
      exact .directive fits .nil
    · rw [repeated, again]
      rfl
  | false =>
    refine ⟨?_, knows.first n, ?_⟩
    · rw [replacements, again]
      exact .directive fits .nil
    · rw [repeated, again]
      rfl

mutual

theorem defineSections_converts : ∀ {names : List Text} {earlier : List Node} (n : Node),
    Knows names earlier → Converts earlier [n] (outerSections n) (defineSections names n)
  | names, earlier, .absent, knows => by
    refine ⟨.absent .nil, ?_, rfl⟩
    rw [outerSections, List.append_nil]
    exact knows
  | names, earlier, .node head children, knows => by
    by_cases fits : isSection (.node head children) = true
    · rw [outerSections_of_isSection fits]
      unfold defineSections
      rw [if_pos fits]
      exact .directive knows fits
    · have inside := defineSectionsIn_converts children knows
      unfold defineSections outerSections
      rw [if_neg fits, if_neg fits]
      refine ⟨?_, inside.knows, inside.found⟩
      have whole := Fills.node (Bool.eq_false_iff.mpr fits) inside.fills .nil
      rwa [List.append_nil, List.append_nil] at whole

theorem defineSectionsIn_converts : ∀ {names : List Text} {earlier : List Node} (ns : List Node),
    Knows names earlier → Converts earlier ns (outerSectionsIn ns) (defineSectionsIn names ns)
  | names, earlier, [], knows => by
    refine ⟨.nil, ?_, rfl⟩
    rw [outerSectionsIn, List.append_nil]
    exact knows
  | names, earlier, n :: ns, knows => by
    have first := defineSections_converts n knows
    have rest := defineSectionsIn_converts ns first.knows
    unfold outerSectionsIn defineSectionsIn
    refine ⟨?_, ?_, ?_⟩
    · rw [replacements_append]
      exact first.fills.append rest.fills
    · rw [← List.append_assoc]
      exact rest.knows
    · rw [repeated_append, List.map_append, ← first.found, ← rest.found]

end

/-! ## What is left -/

def Undeclared (n : Node) : Prop := n.declaredSection? = none

theorem undeclared_ofHead : OfHead Undeclared :=
  fun others none => (declaredSection?_byHead _ others _).trans none

theorem withoutSectionsIn_cleared (ns : List Node) :
    EveryIn (fun n => isSection n = false) (withoutSectionsIn ns) := by
  refine (withoutSectionsIn_fills ns).every (P := fun _ => True) ?_ (fun _ => rfl) ?_ ?_
  · exact fun other _ others => (isSection_byHead _ others _).trans other
  · exact everyIn_of_preorderAll fun _ _ => trivial
  · intro ks member
    rcases List.mem_map.mp member with ⟨_, -, rfl⟩
    exact EveryIn.nil

theorem toSection_cleared (n : Node) : (toSection n).Every fun m => isSection m = false :=
  .intro _ rfl (withoutSectionsIn_cleared n.block)

theorem toSection_undeclared {n : Node} (every : n.Every Undeclared) :
    EveryIn Undeclared (toSection n).children :=
  withoutSectionsIn_every (fun _ _ => undeclared_ofHead _) (EveryIn.filter every.inside _)

/-- No section is inside of a node, if that is one itself. -/
def HoldsNoSection (n : Node) : Prop :=
  n.declaredSection?.isSome = true → ∀ m ∈ preorderAll n.children, Undeclared m

theorem Undeclared.holdsNoSection {n : Node} (undeclared : Undeclared n) : HoldsNoSection n := by
  intro declared
  rw [show n.declaredSection? = none from undeclared] at declared
  cases declared

theorem toSection_holdsNoSection {n : Node} (every : n.Every Undeclared) :
    (toSection n).Every HoldsNoSection := by
  have inside := toSection_undeclared every
  refine .intro _ (fun _ m member => (Every.of_mem_preorderAll inside m member).self) ?_
  apply everyIn_of_preorderAll
  intro m member
  exact Undeclared.holdsNoSection (Every.of_mem_preorderAll inside m member).self

/-- The names of the sections that stand in the places of directives. -/
theorem names_replacements {ns : List Node} (every : EveryIn Undeclared ns) :
    ∀ earlier : List Node,
      (preorderAll (replacements earlier ns).flatten).filterMap declaredSection? =
        firstNames earlier ns := by
  induction ns with
  | nil => exact fun _ => rfl
  | cons n ns ih =>
    intro earlier
    rw [replacements, List.flatten_cons, preorderAll_append, List.filterMap_append, ih every.tail,
      firstNames]
    split
    · rfl
    · have inside : (preorderAll (toSection n).children).filterMap declaredSection? = [] := by
        rw [List.filterMap_eq_nil_iff]
        intro m member
        exact (Every.of_mem_preorderAll (toSection_undeclared every.head) m member).self
      have alone : (preorderAll [toSection n]).filterMap declaredSection? = [sectionName n] := by
        rw [preorderAll, preorderAll, List.append_nil]
        exact congrArg (sectionName n :: ·) inside
      rw [alone]
      rfl

/-! ## Findings -/

/-- The kind and the place of a finding. -/
def mark (x : Diagnostic) : DiagnosticCode × Option Span := (x.code, x.span?)

/-- The marks of findings of one kind, one about each of some nodes. -/
def marksOf (code : DiagnosticCode) (ns : List Node) : List (DiagnosticCode × Option Span) :=
  ns.map fun n => (code, some (spanOf n))

/-- The sections inside of others are reported as nested, and others as repeated. -/
theorem marks_of_findings (outer again : List Node) :
    (outer.flatMap nestedFindings ++ again.map duplicateFinding).map mark =
      marksOf .nestedSection (outer.flatMap fun n => (preorderAll n.children).filter isSection)
        ++ marksOf .duplicateSection again := by
  rw [List.map_append, marksOf, List.map_flatMap, List.map_flatMap, List.map_map]
  simp only [nestedFindings, List.map_map]
  rfl

theorem countP_marksOf (code other : DiagnosticCode) (ns : List Node) :
    (marksOf code ns).countP (fun m => m.1 == other) = if code == other then ns.length else 0 := by
  rw [marksOf, List.countP_map]
  cases same : code == other <;> simp [Function.comp_def, same]

theorem countP_code {found : List Diagnostic} {nested again : List Node}
    (marks : found.map mark = marksOf .nestedSection nested ++ marksOf .duplicateSection again)
    (code : DiagnosticCode) :
    found.countP (fun x => x.code == code) =
      (if DiagnosticCode.nestedSection == code then nested.length else 0)
        + if DiagnosticCode.duplicateSection == code then again.length else 0 := by
  have count : found.countP (fun x => x.code == code) =
      (found.map mark).countP fun m => m.1 == code := by
    rw [List.countP_map]
    rfl
  rw [count, marks, List.countP_append, countP_marksOf, countP_marksOf]

/-- In a document without sections, defining them leaves no section directive.  No section is inside
of another one, and all have different names.  Each outer section directive gives way in its place to
a section, or to nothing if one before it has its name, and all else stays; a section has what the
directive has besides tokens, without the section directives in it.  Each directive that is dropped
is reported once: there are as many section directives as sections and reports of the two kinds. -/
theorem applySections_defines (d : Document)
    (undeclared : ∀ n ∈ d.nodes, n.declaredSection? = none) :
    let e := applySections d
    let outer := outerSectionsIn d.children
    let inner := outer.flatMap fun n => (preorderAll n.children).filter isSection
    (∀ n ∈ e.nodes, isSection n = false)
      ∧ (∀ n ∈ e.nodes, n.declaredSection?.isSome = true →
          ∀ m ∈ preorderAll n.children, m.declaredSection? = none)
      ∧ (e.nodes.filterMap declaredSection?).Nodup
      ∧ Fills outer (replacements [] outer) d.children e.children
      ∧ (∀ n ∈ outer, (toSection n).declaredSection? = some (sectionName n)
          ∧ Fills (outerSectionsIn n.block) ((outerSectionsIn n.block).map fun _ => []) n.block
            (toSection n).children)
      ∧ (d.nodes.filter isSection).Perm (outer ++ inner)
      ∧ ∃ found, e.diagnostics = d.diagnostics ++ found
        ∧ found.map mark =
            marksOf .nestedSection inner ++ marksOf .duplicateSection (repeated [] outer)
        ∧ d.nodes.countP isSection = (e.nodes.filterMap declaredSection?).length
            + found.countP (fun x => x.code == .nestedSection)
            + found.countP (fun x => x.code == .duplicateSection) := by
  intro e outer inner
  have converts : Converts [] d.children outer (defineSectionsIn [] d.children) :=
    defineSectionsIn_converts d.children fun _ => rfl
  have fills : Fills outer (replacements [] outer) d.children e.children := converts.fills
  have every : EveryIn Undeclared d.children := everyIn_of_preorderAll undeclared
  have everyOuter : EveryIn Undeclared outer := outerSectionsIn_every every
  have put {Q : Node → Prop} (each : ∀ n ∈ outer, (toSection n).Every Q) :
      ∀ ks ∈ replacements [] outer, EveryIn Q ks := by
    intro ks member
    rcases mem_replacements member with rfl | ⟨n, among, rfl⟩
    · exact EveryIn.nil
    · exact .single (each n among)
  have names : e.nodes.filterMap declaredSection? = firstNames [] outer := by
    rw [← names_replacements everyOuter []]
    apply fills.filterMap_preorderAll declaredSection?_byHead
    exact everyIn_of_preorderAll fun n member _ => undeclared n member
  have all : (d.nodes.filter isSection).Perm (outer ++ inner) := fills.filter_isSection
  refine ⟨?_, ?_, ?_, fills, fun n _ => ⟨rfl, withoutSectionsIn_fills n.block⟩, all, ?_⟩
  · have cleared : EveryIn (fun n => isSection n = false) e.children := by
      refine fills.every ?_ (fun _ => rfl) every (put fun n _ => toSection_cleared n)
      exact fun other _ others => (isSection_byHead _ others _).trans other
    exact fun n member => (Every.of_mem_preorderAll cleared n member).self
  · have apart : EveryIn HoldsNoSection e.children := by
      refine fills.every ?_ Undeclared.holdsNoSection every
        (put fun n among => toSection_holdsNoSection (everyOuter n among))
      exact fun _ none others => Undeclared.holdsNoSection (undeclared_ofHead others none)
    exact fun n member => (Every.of_mem_preorderAll apart n member).self
  · rw [names]
    exact (firstNames_nodup outer []).1
  · have marks := marks_of_findings outer (repeated [] outer)
    refine ⟨outer.flatMap nestedFindings ++ (repeated [] outer).map duplicateFinding, ?_, marks, ?_⟩
    · rw [← converts.found]
      rfl
    · have nested : _ = inner.length + 0 := countP_code marks .nestedSection
      have again : _ = 0 + (repeated [] outer).length := countP_code marks .duplicateSection
      rw [nested, again, names, List.countP_eq_length_filter, all.length_eq, List.length_append,
        ← length_firstNames outer []]
      omega

/-- Of three section directives one is inside of another, and one repeats a name. -/
theorem applySections_defines_three :
    let directive (name : Text) (block : List Node) : Node :=
      .synthetic (.directive "section" (some .sectionBlock))
        (.synthetic (.directiveToken name ⟨.member, "SectionName", false⟩) [] :: block)
    let d : Document := { children := [directive "A" [directive "B" []], directive "A" []] }
    (∀ n ∈ d.nodes, n.declaredSection? = none)
      ∧ ∃ found, (applySections d).diagnostics = d.diagnostics ++ found
        ∧ 3 = ((applySections d).nodes.filterMap declaredSection?).length
            + found.countP (fun x => x.code == .nestedSection)
            + found.countP (fun x => x.code == .duplicateSection) := by
  intro directive d
  have undeclared : ∀ n ∈ d.nodes, n.declaredSection? = none :=
    List.filterMap_eq_nil_iff.mp rfl
  have three : d.nodes.countP isSection = 3 := by
    simp [d, Document.nodes, preorderAll, preorder, directive, isSection, synthetic, isDirectiveOf]
  obtain ⟨found, added, -, count⟩ := (applySections_defines d undeclared).2.2.2.2.2.2
  exact ⟨undeclared, found, added, three ▸ count⟩

end Dialect

end TemplateCompiler
