import TemplateCompiler.Proofs.CodeLayout
import TemplateCompiler.Proofs.MergedLowering

/-!
# Merging texts changes no code

An engine may be built without the pass that merges neighbouring texts.  The trees of a document
then differ from the parser to the lowering, and the intermediate trees up to the pass that joins
markup.  What is written is the same: the same text and the same places.

Neither engine fails where the other succeeds, since the pass itself never fails and the phases need
nothing from it.
-/

namespace TemplateCompiler

open IR IR.Node

/-! ## Writing joined markup -/

namespace IR.Node

theorem AllMerged.tail {n : Node} {ns : List Node} (merged : AllMerged (n :: ns)) :
    AllMerged ns := ⟨List.IsChain.tail merged.apart, merged.inside.tail⟩

theorem AllMerged.children {head : Head} {children ns : List Node}
    (merged : AllMerged (node head children :: ns)) : AllMerged children :=
  ⟨merged.inside.head.self, merged.inside.head.inside⟩

/-- Where nothing is left to be joined, a run is one piece. -/
theorem IsRun.single_of_apart {run ns : List Node} (literal : IsRun run)
    (apart : AllApart (run ++ ns)) : ∃ n, n.IsLiteral ∧ run = [n] := by
  rcases run with - | ⟨n, - | ⟨m, more⟩⟩
  · exact absurd rfl literal.nonempty
  · exact ⟨n, literal.literal n List.mem_cons_self, rfl⟩
  · have first := (literal.literal n List.mem_cons_self).isMarkup
    have second := (literal.literal m (by simp)).isMarkup
    have none := apart_iff.mp (List.isChain_cons_cons.mp apart).1
    rw [first, second] at none
    cases none

end IR.Node

namespace Code.Outline

theorem valuePart_literal {n : Node} (literal : n.IsLiteral) : valuePart n = n.text.quoted := by
  cases literal
  rfl

theorem valuePart_respects : Respects valuePart := by
  intro n m alike
  have text := alike.text
  cases alike with
  | intro unlike inside =>
    unfold valuePart
    rw [text]
    rfl

/-- Recuts without neighbouring markup have the same parts. -/
theorem map_valuePart {ns ms : List Node} (recut : Recut ns ms) : AllApart ns → AllApart ms →
    ns.map valuePart = ms.map valuePart := by
  induction recut with
  | nil => exact fun _ _ => rfl
  | run literal otherLiteral same rest ih =>
    intro apart otherApart
    rcases literal.single_of_apart apart with ⟨n, piece, rfl⟩
    rcases otherLiteral.single_of_apart otherApart with ⟨m, otherPiece, rfl⟩
    rw [textAll_singleton, textAll_singleton] at same
    simp only [List.singleton_append, List.map_cons]
    rw [valuePart_literal piece, valuePart_literal otherPiece, same,
      ih (List.IsChain.tail apart) (List.IsChain.tail otherApart)]
  | node unlike inside rest _ ih =>
    intro apart otherApart
    rw [List.map_cons, List.map_cons, valuePart_respects (.intro unlike inside),
      ih (List.IsChain.tail apart) (List.IsChain.tail otherApart)]

theorem value_recut {ns ms : List Node} (recut : Recut ns ms) (apart : AllApart ns)
    (otherApart : AllApart ms) : value ns = value ms := by
  unfold value
  rw [recut.isEmpty, map_valuePart recut apart otherApart]

theorem attributeLines_recut {ns ms : List Node} (recut : Recut ns ms) (level : Nat)
    (name opening closing : Text) :
    attributeLines level name opening closing ns = attributeLines level name opening closing ms := by
  have parts : ns.flatMap (attributePart level) = ms.flatMap (attributePart level) := by
    apply recut.flatMap fun _ _ _ => rfl
    intro n m alike
    have text := alike.text
    cases alike with
    | @intro head children others unlike inside =>
      rcases head with ⟨content, span?, diagnostics, label?⟩
      cases content with
      | attributeText opening =>
        exact congrArg (fun t => [Line.plain level (call "WriteAttributeValue" [opening, t])]) text
      | expression =>
        exact congrArg (fun t => [Line.around level "WriteAttributeValue(" t span? ");"]) text
      | _ => rfl
  unfold attributeLines
  rw [parts]

theorem helperAttribute?_recut {head : Head} {children others : List Node}
    (unlike : head.content ≠ .markup) (inside : Recut children others) (apart : AllApart children)
    (otherApart : AllApart others) (level : Nat) :
    helperAttribute? level (.node head children) = helperAttribute? level (.node head others) := by
  have values := value_recut inside apart otherApart
  have text := (Alike.intro unlike inside).text
  rcases head with ⟨content, span?, diagnostics, label?⟩
  cases content <;> simp [helperAttribute?, values, text]

/-- Two lists of nodes are written as the same lines, wherever they stand. -/
structure SameLines (s : Setting) (ns ms : List Node) : Prop where
  all : ∀ level, linesAll s level ns = linesAll s level ms
  block : ∀ level, blockLines s level ns = blockLines s level ms
  helper : ∀ level, helperLines s level ns = helperLines s level ms

/-- A piece of literal markup is one call, wherever it stands. -/
theorem lines_literal {s : Setting} (plain : s.extensions = []) {n : Node} (literal : n.IsLiteral)
    (level : Nat) : lines s level n = [.plain level (call "WriteLiteral" [n.text])] := by
  cases literal
  unfold lines
  rw [extended?_eq_none plain]

theorem lines_recut {s : Setting} (plain : s.extensions = []) {head : Head}
    {children others : List Node} (unlike : head.content ≠ .markup)
    (inside : Recut children others) (same : SameLines s children others) (level : Nat) :
    lines s level (.node head children) = lines s level (.node head others) := by
  have text := (Alike.intro unlike inside).text
  have tokens : tokenList children = tokenList others := by
    unfold tokenList
    exact congrArg (fun ts => Text.join " " (ts.map Prod.fst)) (inside.tokens _)
  unfold lines
  rw [extended?_eq_none plain, extended?_eq_none plain]
  dsimp only
  rcases head with ⟨content, span?, diagnostics, label?⟩
  cases content <;>
    simp only [same.all, same.block, same.helper, text, tokens, attributeLines_recut inside]

/-- Recuts without neighbouring markup are written as the same lines. -/
theorem sameLines_recut {s : Setting} (plain : s.extensions = []) {ns ms : List Node}
    (recut : Recut ns ms) : AllMerged ns → AllMerged ms → SameLines s ns ms := by
  induction recut with
  | nil => exact fun _ _ => ⟨fun _ => rfl, fun _ => rfl, fun _ => rfl⟩
  | run literal otherLiteral same rest ih =>
    intro merged otherMerged
    rcases literal.single_of_apart merged.apart with ⟨n, piece, rfl⟩
    rcases otherLiteral.single_of_apart otherMerged.apart with ⟨m, otherPiece, rfl⟩
    rw [textAll_singleton, textAll_singleton] at same
    have after := ih merged.tail otherMerged.tail
    have here : ∀ level, lines s level n = lines s level m := by
      intro level
      rw [lines_literal plain piece, lines_literal plain otherPiece, same]
    cases piece
    cases otherPiece
    constructor
    · exact fun level => congrArg₂ (· ++ ·) (here level) (after.all level)
    · exact fun level => congrArg₂ (· ++ ·) (here level) (after.block level)
    · exact fun level => congrArg₂ (· ++ ·) (here level) (after.helper level)
  | @node head children others ns ms unlike inside rest ihInside ih =>
    intro merged otherMerged
    have within := ihInside merged.children otherMerged.children
    have after := ih merged.tail otherMerged.tail
    have here := lines_recut plain unlike inside within
    have attributes := helperAttribute?_recut unlike inside merged.children.apart
      otherMerged.children.apart
    constructor
    · intro level
      rw [linesAll, linesAll, here, after.all]
    · intro level
      rw [blockLines, blockLines, isToken_byHead head children others, here, after.block]
    · intro level
      rw [helperLines, helperLines, after.helper]
      rcases head with ⟨content, span?, diagnostics, label?⟩
      cases content <;> simp only [attributes, here, within.all]

end Code.Outline

namespace Code.Target

/-- Recuts without neighbouring markup are written as the same text, with the same places. -/
theorem write_recut {d e : Document} (recut : d.Recut e) (merged : d.IsMerged)
    (otherMerged : e.IsMerged) (o : CodeOptions) :
    ((outline []).write o d).text = ((outline []).write o e).text
      ∧ ((outline []).write o d).mappings = ((outline []).write o e).mappings := by
  have lines : Outline.documentLines ⟨d.header, o, []⟩ d =
      Outline.documentLines ⟨e.header, o, []⟩ e := by
    unfold Outline.documentLines
    rw [recut.header, (Outline.sameLines_recut rfl recut.children merged otherMerged).all]
  constructor
  · exact congrArg (textOf o) lines
  · exact congrArg (mappingsOf o 0) lines

end Code.Target

/-! ## Leaving out a pass -/

/-- Features without the pass on syntax trees that has a name. -/
def Features.withoutSyntaxPass (name : Text) (f : Features) : Features :=
  { f with syntaxPasses := (f.syntaxPasses.remove? name).getD f.syntaxPasses }

def Assembly.withoutSyntaxPass (name : Text) (a : Assembly) : Assembly :=
  { a with features := a.features.withoutSyntaxPass name }

def Engine.withoutSyntaxPass (name : Text) (e : Engine) : Engine :=
  { e with features := e.features.withoutSyntaxPass name }

/-- None of the nine phases asks for a pass on syntax trees, so an engine is built without it as
well. -/
theorem Assembly.engine_withoutSyntaxPass (name : Text) {a : Assembly}
    (phases : a.phases = Stage.all) :
    (a.withoutSyntaxPass name).engine = a.engine.map (Engine.withoutSyntaxPass name) := by
  have errors : (a.withoutSyntaxPass name).phaseError? = a.phaseError? := by
    have same : (a.withoutSyntaxPass name).phases = Stage.all := phases
    unfold phaseError?
    rw [same, phases, Stage.all, List.findSome?_map, List.findSome?_map]
    apply congrArg (List.findSome? · Phase.all)
    funext p
    cases p <;> rfl
  unfold engine
  have target : (a.withoutSyntaxPass name).features.target? = a.features.target? := rfl
  rw [errors, target]
  cases a.features.target? with
  | none => rfl
  | some target => cases a.phaseError? <;> rfl

theorem EngineBuilder.build_withoutSyntaxPass (c : Configuration) (withImports : Bool)
    (helpers? : Option (List TagHelper)) (custom : List DirectiveDescriptor) (name : Text) :
    ((project c withImports helpers?).build fun a =>
        (a.addDirectives custom).withoutSyntaxPass name).2 =
      ((project c withImports helpers?).build (·.addDirectives custom)).2.map
        (Engine.withoutSyntaxPass name) := by
  unfold build
  split
  · rfl
  · split
    · rfl
    · apply Assembly.engine_withoutSyntaxPass
      have configuration : (project c withImports helpers?).assembly.configuration = c := by
        cases withImports <;> rfl
      rw [configuration, ProjectEngine.changes_project]
      cases c.version.atLeast .v3_0 <;> cases withImports <;> rfl

namespace ProjectEngine

open Workpiece

/-- Only the passes on syntax trees can tell an engine from one without some of them. -/
theorem effect_withoutSyntaxPass {p : Phase} (other : p ≠ .syntaxTree) (name : Text) (e : Engine)
    (w : Workpiece) : p.effect (e.withoutSyntaxPass name) w = p.effect e w := by
  cases p with
  | syntaxTree => exact absurd rfl other
  | _ => rfl

theorem through_withoutSyntaxPass {ps : List Phase} (others : Phase.syntaxTree ∉ ps) (name : Text)
    (e : Engine) : ∀ w, through (e.withoutSyntaxPass name) (ps.map .phase) w =
      through e (ps.map .phase) w := by
  induction ps with
  | nil => exact fun _ => rfl
  | cons p ps ih =>
    intro w
    rw [List.map_cons, through, through, Stage.effect, Stage.effect,
      effect_withoutSyntaxPass (fun same => others (by simp [same]))]
    exact bind_congr fun next => ih (fun member => others (List.mem_cons_of_mem p member)) next

def textMerge : Text := "markup-text-merge"

section Build

variable {withImports : Bool} {c : Configuration} {helpers? : Option (List TagHelper)}
  {custom : List DirectiveDescriptor} {e : Engine}

/-- Without the pass that merges texts, only tokens are trimmed. -/
theorem remove?_textMerge (built : ((EngineBuilder.project c withImports helpers?).build
      (·.addDirectives custom)).2 = .ok e) :
    ∃ rest, e.features.syntaxPasses.remove? textMerge = some rest
      ∧ rest.ordered.map Pass.action = [.trimTokens] := by
  have items : e.features.syntaxPasses = (Assembly.standard c).features.syntaxPasses := by
    rcases engine_eq (engine_of_build built).2 with ⟨target, -, rfl⟩
    generalize c.version.atLeast .v3_0 = components
    cases components <;> cases withImports <;> rfl
  rw [items]
  refine ⟨⟨[{ name := "directive-token-trim", order := Pass.defaultOrder + 10
              action := .trimTokens }]⟩, rfl, ?_⟩
  simp [PassRegistry.ordered]

end Build

/-! ## Phases behind the passes on syntax trees -/

section Phases

variable {e : Engine} {components withImports : Bool}

/-- The tag helpers in scope of a prepared tree, and the findings. -/
def scopeFor (e : Engine) (doc : CodeDocument) (imports : List Syntax.Tree) (tree : Syntax.Tree) :
    HelperScope × List Diagnostic :=
  Discovery.discover ((doc.helpers?.orElse fun _ => e.features.helpers?).getD []) doc.fileKind tree
    imports

/-- A prepared tree with its tag helpers bound. -/
def boundFrom (e : Engine) (doc : CodeDocument) (imports : List Syntax.Tree) (tree : Syntax.Tree) :
    Syntax.Tree :=
  let found := scopeFor e doc imports tree
  { tree with diagnostics := tree.diagnostics ++ found.2 }.bindHelpers found.1.binder

def loweredFrom (e : Engine) (doc : CodeDocument) (imports : List Syntax.Tree)
    (tree : Syntax.Tree) : Document :=
  let d := Lowering.document (boundFrom e doc imports tree) imports
  { d with header := { d.header with options := codeOptions e doc, sourceDigest := doc.digest } }

/-- The document with everything that is made of a prepared tree up to lowering. -/
def loweredWith (e : Engine) (doc : CodeDocument) (imports : List Syntax.Tree)
    (tree : Syntax.Tree) : CodeDocument :=
  { doc with
    codeOptions? := some (codeOptions e doc)
    tree? := some (boundFrom e doc imports tree)
    importTrees? := some imports
    scope? := some (scopeFor e doc imports tree).1
    intermediate? := some (loweredFrom e doc imports tree) }

theorem loweredFrom_recut (e : Engine) (doc : CodeDocument) (imports : List Syntax.Tree)
    {t u : Syntax.Tree} (merges : t.Merges u) :
    (loweredFrom e doc imports t).Recut (loweredFrom e doc imports u) := by
  have bound : (boundFrom e doc imports t).Merges (boundFrom e doc imports u) := by
    unfold boundFrom scopeFor
    rw [merges.discover]
    exact (merges.report _ _).bindHelpers _
  have recut := Lowering.document_recut bound imports
  refine ⟨?_, recut.children⟩
  exact congrArg (fun h : DocumentHeader =>
    { h with options := codeOptions e doc, sourceDigest := doc.digest }) recut.header

/-- The phases behind the passes on syntax trees write what is made of the prepared tree. -/
theorem through_prepared (project : e.IsProject components withImports) (w : Workpiece)
    (tree : Syntax.Tree) (imports : List Syntax.Tree) :
    ∃ after, through e ([Phase.helperDiscovery, .helperBinding, .lowering, .documentClassifier,
        .directiveClassifier, .optimization, .targetLowering].map .phase)
        { w with document := { w.document with
            tree? := some tree, importTrees? := some imports } } = .ok after
      ∧ after.document.output? = some ((Code.Target.outline []).write (codeOptions e w.document)
          (shaped components w.document (loweredFrom e w.document imports tree))) := by
  have lowered : ∀ ss, through e (.phase .helperDiscovery :: .phase .helperBinding
        :: .phase .lowering :: ss)
      { w with document := { w.document with tree? := some tree, importTrees? := some imports } } =
      through e ss { w with document := loweredWith e w.document imports tree } := by
    intro ss
    rw [through_phase (effect_helperDiscovery project rfl rfl),
      through_phase (effect_helperBinding rfl rfl), through_phase (effect_lowering rfl rfl)]
    rfl
  have same := shaped_congr components (loweredWith e w.document imports tree) w.document rfl rfl
    (loweredFrom e w.document imports tree)
  refine ⟨_, (lowered _).trans (through_written project rfl rfl rfl), ?_⟩
  dsimp only
  rw [same]

/-- The pass that is left trims tokens. -/
theorem effect_trimTokens {w : Workpiece} {tree : Syntax.Tree}
    (left : e.features.syntaxPasses.ordered.map Pass.action = [.trimTokens])
    (parsed : w.document.tree? = some tree) :
    Phase.syntaxTree.effect e w = .ok { w with document := { w.document with
      tree? := some tree.trimTokens.1 } } := by
  rcases List.map_eq_singleton_iff.mp left with ⟨p, only, action⟩
  rw [Phase.effect, slot_bind parsed, only, treeAfter, action]
  rfl

/-- Without the pass that merges texts, the phases fail where they fail with it, and elsewhere write
the same text with the same places. -/
theorem through_without_textMerge (project : e.IsProject components withImports)
    (left : (e.withoutSyntaxPass textMerge).features.syntaxPasses.ordered.map Pass.action =
      [.trimTokens]) (w : Workpiece) :
    (∃ err, through e Stage.all w = .error err
        ∧ through (e.withoutSyntaxPass textMerge) Stage.all w = .error err)
      ∨ ∃ after other out written, through e Stage.all w = .ok after
        ∧ through (e.withoutSyntaxPass textMerge) Stage.all w = .ok other
        ∧ after.document.output? = some out ∧ other.document.output? = some written
        ∧ out.text = written.text ∧ out.mappings = written.mappings := by
  have parsing : Phase.parsing.effect (e.withoutSyntaxPass textMerge) w =
      Phase.parsing.effect e w := effect_withoutSyntaxPass (by simp) textMerge e w
  rw [Stage.all, Phase.all, List.map_cons, List.map_cons]
  cases parsed : Phase.parsing.effect e w with
  | error err =>
    refine .inl ⟨err, ?_, ?_⟩
    · rw [through, Stage.effect, parsed]
      rfl
    · rw [through, Stage.effect, parsing, parsed]
      rfl
  | ok next =>
    right
    rcases of_parsing_ok parsed with ⟨source, given, honored⟩
    have effect := effect_parsing given honored
    generalize (w.provide e.features w.document.fileKind).1 = provided at effect
    generalize (w.provide e.features w.document.fileKind).2 = piece at effect
    have merges := (Syntax.Tree.Merges.mergeText
      (Syntax.parse source (parserOptions e w.document))).trimTokens
    have prepared := through_prepared project
      { piece with document := parsedDocument e w.document source provided }
    rcases prepared _ (importTrees (parserOptions e w.document) (provided ++ w.document.imports))
      with ⟨after, done, output⟩
    rcases prepared _ (importTrees (parserOptions e w.document) (provided ++ w.document.imports))
      with ⟨other, otherDone, otherOutput⟩
    refine ⟨after, other, _, _, ?_, ?_, output, otherOutput, ?_⟩
    · rw [through_phase effect, through_phase (effect_syntaxTree project rfl)]
      exact done
    · rw [through_phase (parsing.trans effect), through_phase (effect_trimTokens left rfl),
        through_withoutSyntaxPass (by decide)]
      exact otherDone
    · apply Code.Target.write_recut
      · exact shaped_recut _ _ (loweredFrom_recut _ _ _ merges)
      · exact isMerged_shaped _ _ _
      · exact isMerged_shaped _ _ _

end Phases

end ProjectEngine

/-! ## Runs -/

namespace World

/-- How two runs end alike: both fail in the same way, or both succeed and write the same text with
the same places. -/
inductive SameCode : World × Option PipelineError → World × Option PipelineError → Prop
  | failed {w other : World} (err : PipelineError) : SameCode (w, some err) (other, some err)
  | written {w other : World} {out written : Code.Output} (output : w.document.output? = some out)
      (otherOutput : other.document.output? = some written) (text : out.text = written.text)
      (mappings : out.mappings = written.mappings) : SameCode (w, none) (other, none)

/-- Phases that go the same way make runs that end alike. -/
theorem sameCode_of_through {e other : Engine} (w : World) (parent : Nat)
    (alike : (∃ err, Workpiece.through e e.phases w.workpiece = .error err
        ∧ Workpiece.through other other.phases w.workpiece = .error err)
      ∨ ∃ after final out written, Workpiece.through e e.phases w.workpiece = .ok after
        ∧ Workpiece.through other other.phases w.workpiece = .ok final
        ∧ after.document.output? = some out ∧ final.document.output? = some written
        ∧ out.text = written.text ∧ out.mappings = written.mappings) :
    SameCode (w.run e parent) (w.run other parent) := by
  unfold run
  dsimp only
  generalize w.tracer.begin .document _ parent = begun
  rcases alike with ⟨err, refused, otherRefused⟩ |
    ⟨after, final, out, written, done, otherDone, output, otherOutput, text, mappings⟩
  · rcases @steps_of_through_error e begun.2 e.phases { w with tracer := begun.1 } err 0 refused
      with ⟨_, _, _, _, _, ran, -⟩
    rcases @steps_of_through_error other begun.2 other.phases { w with tracer := begun.1 } err 0
      otherRefused with ⟨_, _, _, _, _, otherRan, -⟩
    rw [ran, otherRan]
    exact .failed err
  · rcases @steps_of_through_ok e begun.2 e.phases { w with tracer := begun.1 } after 0 done
      with ⟨last, ran, rfl⟩
    rcases @steps_of_through_ok other begun.2 other.phases { w with tracer := begun.1 } final 0
      otherDone with ⟨otherLast, otherRan, rfl⟩
    rw [ran, otherRan]
    exact .written output otherOutput text mappings

/-- The pass that merges neighbouring texts never changes the generated code.  For every
configuration, an engine of a project is built without the pass exactly if it is built with it, and
on every document the two fail alike or write the same text with the same places. -/
theorem run_without_textMerge (c : Configuration) (withImports : Bool)
    (helpers? : Option (List TagHelper)) (custom : List DirectiveDescriptor) :
    let b := EngineBuilder.project c withImports helpers?
    let whole := (b.build (·.addDirectives custom)).2
    let without := (b.build fun a =>
      (a.addDirectives custom).withoutSyntaxPass ProjectEngine.textMerge).2
    (∃ err, whole = .error err ∧ without = .error err)
      ∨ ∃ e other, whole = .ok e ∧ without = .ok other
        ∧ e.features.syntaxPasses.remove? ProjectEngine.textMerge =
          some other.features.syntaxPasses
        ∧ ∀ (w : World) (parent : Nat), SameCode (w.run e parent) (w.run other parent) := by
  intro b whole without
  have same : without = whole.map (Engine.withoutSyntaxPass ProjectEngine.textMerge) :=
    EngineBuilder.build_withoutSyntaxPass c withImports helpers? custom ProjectEngine.textMerge
  rw [same]
  cases built : whole with
  | error err => exact .inl ⟨err, rfl, rfl⟩
  | ok e =>
    have project := ProjectEngine.isProject_of_build built
    rcases ProjectEngine.remove?_textMerge built with ⟨rest, removed, left⟩
    have passes : (e.withoutSyntaxPass ProjectEngine.textMerge).features.syntaxPasses = rest := by
      change (e.features.syntaxPasses.remove? ProjectEngine.textMerge).getD _ = rest
      rw [removed]
      rfl
    refine .inr ⟨e, e.withoutSyntaxPass ProjectEngine.textMerge, rfl, rfl, ?_, ?_⟩
    · rw [removed, passes]
    · intro w parent
      apply sameCode_of_through
      have phases : (e.withoutSyntaxPass ProjectEngine.textMerge).phases = Stage.all :=
        project.phases
      rw [project.phases, phases]
      apply ProjectEngine.through_without_textMerge project
      rw [passes]
      exact left

end World

end TemplateCompiler
