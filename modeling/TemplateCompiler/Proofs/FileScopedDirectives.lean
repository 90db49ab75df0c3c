import TemplateCompiler.Proofs.LostReports
import TemplateCompiler.Proofs.MergedLowering
import TemplateCompiler.Proofs.ParserMoves
import TemplateCompiler.Proofs.PlacedDirectives
import TemplateCompiler.Proofs.RepeatedDirectives

/-!
# Directives for the whole file

A directive that says something about the whole file is malformed inside of an element or of
another directive's block.  So a well-formed one is never inside of another node of a syntax tree,
and what prepares the tree, merging texts, trimming tokens and binding tag helpers, moves no
directive.  Lowering keeps malformed directives apart from the well-formed ones, and the class is
made after it.  Hence no directive of a classified document has one for the base type in it, nor the
primary class.

This is what it takes for all changes that directives make to a document to do nothing when they are
made again.
-/

namespace TemplateCompiler

namespace Syntax

namespace Node

/-- Whether a node is a well-formed directive for the whole file, or one is inside of it. -/
def holdsFileWide (n : Node) : Bool := n.directives.any DirectiveHead.isFileWide

theorem directivesAll_eq_flatMap (ns : List Node) : directivesAll ns = ns.flatMap directives := by
  induction ns with
  | nil => rfl
  | cons n ns ih => rw [directivesAll, ih, List.flatMap_cons]

theorem any_holdsFileWide (ns : List Node) :
    ns.any holdsFileWide = (directivesAll ns).any DirectiveHead.isFileWide := by
  rw [directivesAll_eq_flatMap, List.any_flatMap]
  rfl

@[simp]
theorem holdsFileWide_element (span : Span) (tag : StartTag) (endTag? : Option Span)
    (body : List Node) : (element span tag endTag? body).holdsFileWide = body.any holdsFileWide :=
  (any_holdsFileWide body).symm

@[simp]
theorem holdsFileWide_helper (span : Span) (head : HelperHead) (body : List Node) :
    (helper span head body).holdsFileWide = body.any holdsFileWide :=
  (any_holdsFileWide body).symm

@[simp]
theorem holdsFileWide_directive (span : Span) (head : DirectiveHead) (body : List Node) :
    (directive span head body).holdsFileWide = (head.isFileWide || body.any holdsFileWide) := by
  rw [any_holdsFileWide]
  rfl

/-- The well-formed directives for the whole file are among some nodes, and not inside of them. -/
def FileWideOutside (ns : List Node) : Prop := ∀ n ∈ ns, n.body.any holdsFileWide = false

end Node

open Node

/-! ## Parsing -/

def Frame.body : Frame → List Node
  | .element _ body | .block _ _ _ _ body => body

/-- Whether a frame is that of a well-formed directive for the whole file. -/
def Frame.isFileWide : Frame → Bool
  | .element .. => false
  | .block _ head .. => head.isFileWide

/-- Frames have gathered no well-formed directives for the whole file, and at most the outermost
frame is that of one. -/
def Frame.Nested : List Frame → Prop
  | [] => True
  | f :: rest =>
    f.body.any holdsFileWide = false ∧ (rest ≠ [] → f.isFileWide = false) ∧ Nested rest

namespace Machine

/-- Well-formed directives for the whole file are outside of all nodes and frames. -/
structure FileWideOutside (m : Machine) : Prop where
  root : Node.FileWideOutside m.root
  frames : Frame.Nested m.frames

variable {m next : Machine}

theorem FileWideOutside.of_eq (outside : m.FileWideOutside) (root : next.root = m.root)
    (frames : next.frames = m.frames) : next.FileWideOutside := by
  constructor
  · rw [root]
    exact outside.root
  · rw [frames]
    exact outside.frames

/-- A node is added outside of all frames, or it holds no directive for the whole file. -/
theorem FileWideOutside.emit {n : Node} (outside : m.FileWideOutside)
    (inside : n.body.any holdsFileWide = false)
    (framed : m.frames ≠ [] → n.holdsFileWide = false) : (m.emit n).FileWideOutside := by
  have gathered {f : Frame} {rest : List Frame} (top : m.frames = f :: rest) :
      (n :: f.body).any holdsFileWide = false ∧ (rest ≠ [] → f.isFileWide = false)
        ∧ Frame.Nested rest := by
    have nested := outside.frames
    rw [top] at nested framed
    refine ⟨?_, nested.2⟩
    rw [List.any_cons, framed (List.cons_ne_nil _ _), nested.1, Bool.false_or]
  unfold Machine.emit
  split
  · exact ⟨List.forall_mem_cons.mpr ⟨inside, outside.root⟩, outside.frames⟩
  · next top => exact ⟨outside.root, gathered top⟩
  · next top => exact ⟨outside.root, gathered top⟩

theorem FileWideOutside.move (outside : m.FileWideOutside) (move : Move {} m next) :
    next.FileWideOutside := by
  cases move with
  | pass _ root frames => exact outside.of_eq root frames
  | brace _ root _ before after =>
    have nested := outside.frames
    rw [before] at nested
    constructor
    · rw [root]
      exact outside.root
    · rw [after]
      exact nested
  | report => exact ⟨outside.root, outside.frames⟩
  | @plain n plain =>
    cases n with
    | element | directive | helper => cases plain
    | _ => exact outside.emit rfl fun _ => rfl
  | element => exact outside.emit rfl fun _ => rfl
  | directive _ placed =>
    apply outside.emit rfl
    intro inner
    simp [placed inner]
  | openElement => exact ⟨outside.root, rfl, fun _ => rfl, outside.frames⟩
  | openBlock _ placed => exact ⟨outside.root, rfl, placed, outside.frames⟩
  | @closeElement tag body rest span endTag? top =>
    have nested := outside.frames
    rw [top] at nested
    have inside : body.reverse.any holdsFileWide = false := by
      rw [List.any_reverse]
      exact nested.1
    refine emit ⟨outside.root, nested.2.2⟩ inside fun _ => ?_
    rw [holdsFileWide_element, inside]
  | @closeBlock start brace braces head body rest span found top =>
    have nested := outside.frames
    rw [top] at nested
    have inside : body.reverse.any holdsFileWide = false := by
      rw [List.any_reverse]
      exact nested.1
    refine emit ⟨outside.root, nested.2.2⟩ inside fun inner => ?_
    have placed := DirectiveHead.isFileWide_of_more (nested.2.1 inner) found
    rw [holdsFileWide_directive, inside, placed, Bool.false_or]

end Machine

/-- Parsing leaves the well-formed directives for the whole file outside of all other nodes. -/
theorem parse_fileWideOutside (file : SourceFile) (options : ParserOptions) :
    Node.FileWideOutside (parse file options).body := by
  have ran : (Machine.run (.ofOptions file.id options) {} file.content).FileWideOutside := by
    apply Machine.Moves.keep_run file.content (p := {}) (P := Machine.FileWideOutside)
    · intro m next outside root frames _
      exact outside.of_eq root frames
    · exact Machine.FileWideOutside.move
    · intro m b rest _ _
      exact Machine.permitted_any _ m (b :: rest)
    · exact ⟨by simp [Node.FileWideOutside], trivial⟩
    · rfl
  have finished := (Machine.finish_moves {} _ (.ofOptions file.id options)).keep
    Machine.FileWideOutside.move ran
  intro n member
  exact finished.root n (List.mem_reverse.mp member)

/-! ## Preparing the tree -/

namespace Node

/-- A change of nodes that keeps what they hold keeps what is outside of them. -/
theorem FileWideOutside.map {f : Node → Node} {ns : List Node} (outside : FileWideOutside ns)
    (keeps : ∀ n, (f n).body.any holdsFileWide = n.body.any holdsFileWide) :
    FileWideOutside (ns.map f) := by
  intro n member
  rcases List.mem_map.mp member with ⟨k, among, rfl⟩
  rw [keeps]
  exact outside k among

theorem FileWideOutside.join {n : Node} {ns : List Node} (outside : FileWideOutside (n :: ns)) :
    FileWideOutside (join n ns).1 := by
  unfold Node.join
  split
  · split
    · rcases List.forall_mem_cons.mp outside with ⟨-, behind⟩
      exact List.forall_mem_cons.mpr ⟨rfl, (List.forall_mem_cons.mp behind).2⟩
    · exact outside
  · exact outside

theorem FileWideOutside.mergeAll {ns : List Node} (outside : FileWideOutside ns) :
    FileWideOutside (mergeAll ns).1 := by
  have bodies (n : Node) : (merge n).1.body.any holdsFileWide = n.body.any holdsFileWide := by
    rw [any_holdsFileWide, any_holdsFileWide]
    cases n with
    | element | directive | helper => simp [merge, body, directivesAll_mergeAll]
    | _ => rfl
  induction ns with
  | nil => exact outside
  | cons n ns ih =>
    rcases List.forall_mem_cons.mp outside with ⟨first, rest⟩
    apply FileWideOutside.join
    refine List.forall_mem_cons.mpr ⟨?_, ih rest⟩
    rw [bodies, first]

mutual

theorem holdsFileWide_trim (n : Node) : (trim n).1.holdsFileWide = n.holdsFileWide := by
  cases n with
  | element s tag endTag? body => simp [trim, any_trimAll body]
  | directive s head body =>
    simp [trim, any_trimAll body, DirectiveHead.isFileWide, DirectiveHead.isMalformed]
  | helper s head body => simp [trim, any_trimAll body]
  | _ => rfl

theorem any_trimAll (ns : List Node) :
    (trimAll ns).1.any holdsFileWide = ns.any holdsFileWide := by
  cases ns with
  | nil => rfl
  | cons n ns => simp [trimAll, holdsFileWide_trim n, any_trimAll ns]

end

theorem FileWideOutside.trimAll {ns : List Node} (outside : FileWideOutside ns) :
    FileWideOutside (trimAll ns).1 := by
  rw [trimAll_eq_map]
  apply outside.map
  intro n
  cases n with
  | element | directive | helper => simp [trim, body, any_trimAll]
  | _ => rfl

end Node

namespace HelperRules

mutual

theorem holdsFileWide_bindNode (r : HelperRules) (scope : Scope) (n : Node) :
    (r.bindNode scope n).1.holdsFileWide = n.holdsFileWide := by
  cases n with
  | element span tag endTag? body =>
    unfold bindNode
    dsimp only
    split
    · rw [holdsFileWide_element, holdsFileWide_element, any_bindNodes r _ body]
    · rw [holdsFileWide_helper, holdsFileWide_element, any_bindNodes r _ body]
  | directive span head body => simp [bindNode, any_bindNodes r {} body]
  | _ => rfl

theorem any_bindNodes (r : HelperRules) (scope : Scope) (ns : List Node) :
    (r.bindNodes scope ns).1.any holdsFileWide = ns.any holdsFileWide := by
  cases ns with
  | nil => rfl
  | cons n ns => simp [bindNodes, holdsFileWide_bindNode r scope n, any_bindNodes r scope ns]

end

theorem fileWideOutside_bindNodes (r : HelperRules) (scope : Scope) {ns : List Node}
    (outside : Node.FileWideOutside ns) : Node.FileWideOutside (r.bindNodes scope ns).1 := by
  induction ns with
  | nil => exact outside
  | cons n ns ih =>
    rcases List.forall_mem_cons.mp outside with ⟨first, rest⟩
    refine List.forall_mem_cons.mpr ⟨?_, ih rest⟩
    rw [← first]
    cases n with
    | element span tag endTag? body =>
      unfold bindNode
      dsimp only
      split <;> exact any_bindNodes r _ body
    | directive span head body => exact any_bindNodes r {} body
    | _ => rfl

end HelperRules

theorem Tree.fileWideOutside_bindHelpers {t : Tree} (outside : Node.FileWideOutside t.body)
    (binder : Binder) : Node.FileWideOutside (t.bindHelpers binder).body := by
  unfold bindHelpers
  split
  · exact outside
  · exact HelperRules.fileWideOutside_bindNodes _ _ outside

end Syntax

open IR IR.Node Dialect

/-! ## Lowering -/

/-- A directive has no effect as the one that a definition describes, for it is malformed or has
another definition. -/
def Syntax.DirectiveHead.Differs (definition : DirectiveDescriptor) (head : Syntax.DirectiveHead) :
    Prop := head.isMalformed = false → head.descriptor.digest ≠ definition.digest

namespace Lowering

variable {definition : DirectiveDescriptor}

theorem isAnchor_of_silent {n : Node} (silent : n.Headed Head.Silent) :
    isAnchor definition n = false := by
  have other : n.isDirectiveOf definition = false := by
    apply Bool.eq_false_iff.mpr
    intro fits
    have directive := isDirective_of_isDirectiveOf fits
    rw [isDirective_of_silent silent] at directive
    cases directive
  rw [isAnchor, other, Casing.not_primaryClass silent, Bool.or_false]

theorem noAnchors_of_silent {ns : List Node} (silent : AllSilent ns) : NoAnchors definition ns :=
  everyIn_of_preorderAll fun n member =>
    isAnchor_of_silent (Every.of_mem_preorderAll silent n member).self

theorem isAnchor_directive {span : Span} {head : Syntax.DirectiveHead} {block : List Node}
    (differs : head.descriptor.digest ≠ definition.digest) :
    isAnchor definition (directive span head block) = false := by
  simpa [isAnchor, directive, isDirectiveOf, isPrimaryClass] using differs

mutual

theorem node_noAnchors (features : LanguageFeatures) :
    ∀ (seen : List Text) {n : Syntax.Node}, (∀ head ∈ n.directives, head.Differs definition) →
      NoAnchors definition (node features seen n).1
  | _, .text _ text, _ => noAnchors_of_silent (markup_silent text)
  | _, .transition _, _ => noAnchors_of_silent (markup_silent "@")
  | _, .markupComment _ text, _ =>
    noAnchors_of_silent (markup_silent ("<!--" ++ text ++ "-->"))
  | _, .comment .., _ => EveryIn.nil
  | _, .expression span code _, _ =>
    noAnchors_of_silent (EveryIn.single (expression_silent span code))
  | _, .codeBlock _ code _, _ => .single (.intro _ rfl
      (noAnchors_of_silent (EveryIn.single (every_silent_codeToken code))))
  | seen, .directive span head body, differ => by
    rcases List.forall_mem_cons.mp differ with ⟨own, inner⟩
    have tokens : NoAnchors definition (tokens head) := noAnchors_of_silent (tokens_silent head)
    unfold node
    cases wellFormed : head.isMalformed with
    | true => exact .single (.intro _ rfl tokens)
    | false =>
      have other := own wellFormed
      have lowered {block : List Node} (inside : NoAnchors definition block) :
          NoAnchors definition [directive span head block] :=
        .single (.intro _ (isAnchor_directive other) (tokens.append inside))
      rw [if_neg Bool.false_ne_true]
      split
      · exact noAnchors_of_silent (importNamespace_silent seen head)
      split
      · exact lowered (nodes_noAnchors features seen inner)
      · exact lowered (.single (.intro _ rfl (noAnchors_of_silent
          (EveryIn.single (every_silent_codeToken head.code)))))
      · exact lowered EveryIn.nil
  | seen, .element span tag endTag? body, differ => by
    refine EveryIn.append (EveryIn.append ?_ (nodes_noAnchors features seen differ)) ?_
    · exact noAnchors_of_silent (tag_silent features tag)
    · split
      · exact noAnchors_of_silent (markup_silent _)
      · exact EveryIn.nil
  | seen, .helper span head body, differ => by
    refine .single (.intro _ rfl (EveryIn.append ?_ ?_))
    · exact .flatMap fun a _ => noAnchors_of_silent (helperAttribute_silent a)
    · split
      · exact .single (.intro _ rfl (nodes_noAnchors features seen differ))
      · exact EveryIn.nil

theorem nodes_noAnchors (features : LanguageFeatures) :
    ∀ (seen : List Text) {ns : List Syntax.Node},
      (∀ head ∈ Syntax.Node.directivesAll ns, head.Differs definition) →
      NoAnchors definition (nodes features seen ns).1
  | _, [], _ => EveryIn.nil
  | seen, n :: ns, differ => by
    rcases List.forall_mem_append.mp differ with ⟨first, rest⟩
    exact (node_noAnchors features seen first).append (nodes_noAnchors features _ rest)

end

/-- If the directives inside of a node are malformed or have other definitions, then no directive
has anchors in it after lowering. -/
theorem node_holdsNoAnchor (features : LanguageFeatures) (seen : List Text) {n : Syntax.Node}
    (differ : ∀ head ∈ Syntax.Node.directivesAll n.body, head.Differs definition) :
    EveryIn (HoldsNoAnchor definition) (node features seen n).1 := by
  cases n with
  | directive span head body =>
    have tokens : NoAnchors definition (tokens head) := noAnchors_of_silent (tokens_silent head)
    have lowered {block : List Node} (inside : NoAnchors definition block) :
        EveryIn (HoldsNoAnchor definition) [directive span head block] := by
      have children := tokens.append inside
      exact .single (.intro _ (fun _ => children) (holdsNoAnchor_of_none children))
    unfold node
    split
    · exact .single (.intro _ nofun (holdsNoAnchor_of_none tokens))
    split
    · exact holdsNoAnchor_of_none (noAnchors_of_silent (importNamespace_silent seen head))
    split
    · exact lowered (nodes_noAnchors features seen differ)
    · exact lowered (.single (.intro _ rfl (noAnchors_of_silent
        (EveryIn.single (every_silent_codeToken head.code)))))
    · exact lowered EveryIn.nil
  | _ => exact holdsNoAnchor_of_none (node_noAnchors features seen differ)

theorem nodes_holdsNoAnchor (features : LanguageFeatures) {ns : List Syntax.Node}
    (differ : ∀ n ∈ ns, ∀ head ∈ Syntax.Node.directivesAll n.body, head.Differs definition) :
    ∀ seen : List Text, EveryIn (HoldsNoAnchor definition) (nodes features seen ns).1 := by
  induction ns with
  | nil => exact fun _ => EveryIn.nil
  | cons n ns ih =>
    intro seen
    rcases List.forall_mem_cons.mp differ with ⟨first, rest⟩
    exact (node_holdsNoAnchor features seen first).append (ih rest _)

end Lowering

/-! ## Definitions that are registered -/

namespace DirectiveRegistry

theorem mem_add {r : DirectiveRegistry} {d e : DirectiveDescriptor}
    (member : e ∈ (r.add d).entries) : e = d ∨ e ∈ r.entries := by
  rw [add] at member
  split at member
  · exact (List.mem_or_eq_of_mem_set member).symm
  · exact (List.mem_append.mp member).symm.imp_left List.mem_singleton.mp

theorem mem_addAll {e : DirectiveDescriptor} {ds : List DirectiveDescriptor} :
    ∀ {r : DirectiveRegistry}, e ∈ (ds.foldl add r).entries → e ∈ ds ∨ e ∈ r.entries := by
  induction ds with
  | nil => exact .inr
  | cons d ds ih =>
    intro r member
    rcases ih member with among | before
    · exact .inl (List.mem_cons_of_mem d among)
    · rcases mem_add before with rfl | old
      · exact .inl List.mem_cons_self
      · exact .inr old

end DirectiveRegistry

/-- An engine of a project has the directives of the language, and no others. -/
theorem ProjectEngine.mem_standard {components withImports : Bool} {c : Configuration}
    {helpers? : Option (List TagHelper)} :
    ∀ d ∈ (assembly components c withImports helpers? []).features.directives.entries,
      d ∈ DirectiveDescriptor.standard := by
  intro d member
  have directives : (assembly components c withImports helpers? []).features.directives =
      (DirectiveDescriptor.core ++ DirectiveDescriptor.shared ++ DirectiveDescriptor.views
        ++ if components then DirectiveDescriptor.components else []).foldl
          DirectiveRegistry.add {} := by
    cases components <;> cases withImports <;>
      simp [assembly, EngineBuilder.project, Assembly.standard, Assembly.addDefaultFeatures,
        Assembly.addDefaultPhases, Assembly.addShared, Assembly.addViews, Assembly.addComponents,
        Assembly.addDirectives, Assembly.addDirectivePasses, Assembly.addClassifier,
        Assembly.empty]
  have whole : DirectiveDescriptor.standard = DirectiveDescriptor.core ++ DirectiveDescriptor.shared
      ++ DirectiveDescriptor.views ++ DirectiveDescriptor.components := rfl
  rw [directives] at member
  rcases DirectiveRegistry.mem_addAll member with among | none
  · rw [whole]
    cases components with
    | true => exact among
    | false => exact List.mem_append_left _ (by simpa using among)
  · cases none

theorem DirectiveDescriptor.digest_ne_inherits : ∀ d ∈ DirectiveDescriptor.standard,
    d.usage.isFileScoped = false → d.digest ≠ DirectiveDescriptor.inherits.digest := by
  decide +kernel

/-! ## Classified documents -/

/-- Only definitions for the whole file have the digest of a given one. -/
def DirectiveDescriptor.FileScopedAmong (definition : DirectiveDescriptor)
    (registered : List DirectiveDescriptor) : Prop :=
  ∀ d ∈ registered, d.usage.isFileScoped = false → d.digest ≠ definition.digest

/-- Directives inside of other nodes are not among those for the whole file. -/
theorem Syntax.Node.FileWideOutside.differ {definition : DirectiveDescriptor}
    {registered : List DirectiveDescriptor} {ns : List Syntax.Node}
    (outside : Syntax.Node.FileWideOutside ns)
    (reported : Syntax.Node.AllReported registered ns)
    (wide : definition.FileScopedAmong registered) :
    ∀ n ∈ ns, ∀ head ∈ Syntax.Node.directivesAll n.body, head.Differs definition := by
  intro n member head among wellFormed
  have none := outside n member
  rw [Syntax.Node.any_holdsFileWide, List.any_eq_false] at none
  have known := Syntax.Node.directivesAll_reported (reported n member).inside head among
  have narrow : head.descriptor.usage.isFileScoped = false := by
    simpa [Syntax.DirectiveHead.isFileWide, wellFormed] using none head among
  exact wide head.descriptor known.registered narrow

namespace Workpiece

variable (e : Engine) (doc : CodeDocument) (source : SourceFile) (provided : List SourceFile)

theorem boundTree_fileWideOutside :
    Syntax.Node.FileWideOutside (boundTree e doc source provided).body := by
  apply Syntax.Tree.fileWideOutside_bindHelpers
  exact (Syntax.parse_fileWideOutside source (parserOptions e doc)).mergeAll.trimAll

theorem loweredNodes_fileWideOutside : Syntax.Node.FileWideOutside
    (Lowering.loweredNodes (boundTree e doc source provided)
      (importTrees (parserOptions e doc) (provided ++ doc.imports))) := by
  intro n member
  rcases List.mem_append.mp member with imported | own
  · rcases List.mem_flatMap.mp imported with ⟨t, among, here⟩
    rcases List.mem_map.mp among with ⟨f, -, rfl⟩
    exact Syntax.parse_fileWideOutside f _ n ((List.mem_filter.mp here).1)
  · exact boundTree_fileWideOutside e doc source provided n own

end Workpiece

/-- No directive of a classified document has one for the base type in it, nor the class. -/
theorem ProjectEngine.classified_holdsNoAnchor {e : Engine} {doc : CodeDocument}
    {definition : DirectiveDescriptor}
    (wide : definition.FileScopedAmong (Workpiece.parserOptions e doc).directives)
    (components : Bool) (source : SourceFile) (provided : List SourceFile) :
    let d := Workpiece.unclassified e doc source provided
    EveryIn (HoldsNoAnchor definition)
      ((ruleOf components doc d).classified doc d).children := by
  apply Classifier.classified_every holdsNoAnchor_of_not_directive
  have children : (Workpiece.unclassified e doc source provided).children = _ :=
    Lowering.children_document (Workpiece.boundTree e doc source provided)
      (Workpiece.importTrees (Workpiece.parserOptions e doc) (provided ++ doc.imports))
  rw [children]
  apply Lowering.nodes_holdsNoAnchor
  exact (Workpiece.loweredNodes_fileWideOutside e doc source provided).differ
    (Workpiece.loweredNodes_reported e doc source provided) wide

/-- To build an engine without further directives is to build it with none. -/
theorem ProjectEngine.built_without_custom {c : Configuration} {withImports : Bool}
    {helpers? : Option (List TagHelper)} {e : Engine}
    (built : (EngineBuilder.project c withImports helpers?).build.2 = .ok e) :
    ((EngineBuilder.project c withImports helpers?).build (·.addDirectives [])).2 = .ok e := built

/-- The directives of the engine of a project, as the parser is told them. -/
theorem ProjectEngine.fileScopedAmong {c : Configuration} {withImports : Bool}
    {helpers? : Option (List TagHelper)} {e : Engine}
    (built : (EngineBuilder.project c withImports helpers?).build.2 = .ok e) {doc : CodeDocument}
    (fresh : doc.parserOptions? = none) :
    DirectiveDescriptor.inherits.FileScopedAmong (Workpiece.parserOptions e doc).directives := by
  have custom := built_without_custom built
  have project := isProject_of_build custom
  intro d member
  unfold Workpiece.parserOptions at member
  rw [fresh, project.parserOptions] at member
  have registered : d ∈ e.features.directives.entries := member
  rcases engine_eq (engine_of_build custom).2 with ⟨target, -, rfl⟩
  exact DirectiveDescriptor.digest_ne_inherits d (mem_standard d registered)

/-! ## Runs up to classifying -/

namespace World

/-- A run that is cancelled makes of the workpiece what the phases before say. -/
theorem steps_cancelled {e : Engine} (parent : Trace.OpenSpan) (s : Stage)
    (rest done : List Stage) :
    ∀ {w : World} {piece : Workpiece} (executed : Nat),
      Workpiece.through e done w.workpiece = .ok piece →
      ∃ after, w.steps e parent (some (executed + done.length)) executed (done ++ s :: rest)
        = (after, some .cancelled) ∧ after.workpiece = piece := by
  induction done with
  | nil =>
    intro w piece executed through
    cases through
    refine ⟨{ w with tracer := w.tracer.finish parent "canceled" }, ?_, rfl⟩
    simp [steps]
  | cons q done ih =>
    intro w piece executed through
    cases effect : q.effect e w.workpiece with
    | error err =>
      rw [Workpiece.through, effect] at through
      cases through
    | ok next =>
      rw [Workpiece.through, effect] at through
      rcases step_of_effect_ok effect parent with ⟨after, stepped, same⟩
      rw [← same] at through
      rcases ih (executed + 1) through with ⟨last, ran, final⟩
      refine ⟨last, ?_, final⟩
      have early : ¬ executed + (done.length + 1) ≤ executed := by omega
      rw [List.length_cons, List.cons_append, steps, Option.any_some, decide_eq_false early,
        if_neg Bool.false_ne_true, stepped]
      rw [show executed + (done.length + 1) = executed + 1 + done.length by omega]
      exact ran

/-- A run that is cancelled behind the classifier leaves the classified document. -/
theorem run_classified {e : Engine} {components withImports : Bool}
    (project : e.IsProject components withImports) {w : World} {source : SourceFile}
    (given : w.document.source? = some source)
    (honored : (Workpiece.parserOptions e w.document).conflict? = none) (parent : Nat) :
    let d := Workpiece.unclassified e w.document source
      (w.workpiece.provide e.features w.document.fileKind).1
    ∃ after, w.run e parent (some 6) = (after, some .cancelled) ∧ after.document.intermediate?
      = some ((ProjectEngine.ruleOf components w.document d).classified w.document d) := by
  intro d
  have through : ∃ piece, Workpiece.through e (Stage.all.take 6) w.workpiece = .ok piece
        ∧ piece.document.intermediate?
          = some ((ProjectEngine.ruleOf components w.document d).classified w.document d) := by
    have lowered := ProjectEngine.through_lowered project (w := w.workpiece) given honored
      [.phase .documentClassifier]
    rw [Workpiece.through_phase (ProjectEngine.effect_documentClassifier project rfl rfl)] at lowered
    have source? (provided : List SourceFile) :
        (Workpiece.unclassifiedDocument e w.document source provided).source?
          = w.document.source? := rfl
    exact ⟨_, lowered, congrArg some (ProjectEngine.classified_congr components (source? _) rfl d)⟩
  rcases through with ⟨piece, through, classified⟩
  rw [run, project.phases]
  dsimp only
  generalize w.tracer.begin .document _ parent = begun
  rcases steps_cancelled begun.2 (.phase .directiveClassifier) (Stage.all.drop 7) _
    (w := { w with tracer := begun.1 }) 0 through with ⟨after, ran, same⟩
  refine ⟨after, ran, ?_⟩
  rw [← classified, ← same]
  rfl

/-- Each change that directives make to a document does nothing when it is made again.  On the
documents that the engine of a project classifies, the same is true of all of them in order. -/
theorem applyDirectives_twice :
    (∀ definitions, ∀ step ∈ directiveSteps definitions, ∀ d, step (step d) = step d)
      ∧ ∀ (c : Configuration) (withImports : Bool) (helpers? : Option (List TagHelper))
          (e : Engine), (EngineBuilder.project c withImports helpers?).build.2 = .ok e →
        ∀ (w : World) (source : SourceFile) (parent : Nat), w.document.source? = some source →
          w.document.parserOptions? = none →
          (Workpiece.parserOptions e w.document).conflict? = none →
          ∃ after d, w.run e parent (some 6) = (after, some .cancelled)
            ∧ after.document.intermediate? = some d
            ∧ ∀ definitions, applyDirectives definitions (applyDirectives definitions d)
              = applyDirectives definitions d := by
  refine ⟨directiveSteps_twice, ?_⟩
  intro c withImports helpers? e built w source parent given fresh honored
  have project : e.IsProject (c.version.atLeast .v3_0) withImports :=
    ProjectEngine.isProject_of_build (ProjectEngine.built_without_custom built)
  rcases run_classified project given honored parent with ⟨after, ran, classified⟩
  have every := ProjectEngine.classified_holdsNoAnchor
    (ProjectEngine.fileScopedAmong built fresh) (c.version.atLeast .v3_0) source
    (w.workpiece.provide e.features w.document.fileKind).1
  refine ⟨after, _, ran, classified, fun definitions => ?_⟩
  exact applyDirectives_of_settled (settled_applyDirectives every)

/-- A view with a base type, an interface, members, and a section around another one. -/
theorem applyDirectives_twice_view :
    let source := SourceFile.ofContent 0 "/a.quill"
      "@inherits B\n@implements I\n@functions \x7bint y;\x7d\n@section S \x7b@section T \x7bt\x7d\x7d"
      .none
    let w : World := { document := CodeDocument.ofSource source [] }
    ∃ e after d, (EngineBuilder.project {} true none).build.2 = .ok e
      ∧ w.document.source? = some source ∧ w.document.parserOptions? = none
      ∧ (Workpiece.parserOptions e w.document).conflict? = none
      ∧ w.run e 0 (some 6) = (after, some .cancelled) ∧ after.document.intermediate? = some d
      ∧ applyDirectives [.functions] (applyDirectives [.functions] d)
        = applyDirectives [.functions] d := by
  intro source w
  have built : ∃ e, (EngineBuilder.project {} true none).build.2 = .ok e := ⟨_, rfl⟩
  rcases built with ⟨e, built⟩
  have honored : (Workpiece.parserOptions e w.document).conflict? = none := by
    have custom := ProjectEngine.built_without_custom built
    unfold Workpiece.parserOptions
    rw [(ProjectEngine.isProject_of_build custom).parserOptions,
      ProjectEngine.configuration_of_build custom]
    rfl
  rcases applyDirectives_twice.2 {} true none e built w source 0 rfl rfl honored with
    ⟨after, d, ran, lowered, same⟩
  exact ⟨e, after, d, built, rfl, rfl, honored, ran, lowered, same [.functions]⟩

end World

end TemplateCompiler
