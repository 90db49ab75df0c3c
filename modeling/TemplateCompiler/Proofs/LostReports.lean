import TemplateCompiler.Proofs.CasedDocument
import TemplateCompiler.Proofs.OptimizedFindings
import TemplateCompiler.Proofs.ProjectEngine
import TemplateCompiler.Proofs.SurvivingReports

/-!
# Findings of the parser in the output

What the parser finds about a file as a whole always reaches the output.  What it finds about a
directive may be lost: exactly the findings that `Syntax.Node.survivingAll` leaves are in the
output of a run.  The output of a file with a malformed directive in the block of another one lacks
the finding about the inner directive.
-/

namespace TemplateCompiler

open IR IR.Node Dialect

/-! ## Lowered nodes -/

namespace Lowering

/-- Imports of namespaces are silent: nothing was found about them, so that moving or dropping one
loses no finding. -/
def SilentImports (ns : List Node) : Prop :=
  ∀ n ∈ ns, Classifier.Outline.isImport n = true → n.Every (Headed Head.Silent)

theorem SilentImports.of_silent {ns : List Node} (silent : AllSilent ns) : SilentImports ns :=
  fun n member _ => silent n member

theorem SilentImports.single {n : Node} (other : Classifier.Outline.isImport n = false) :
    SilentImports [n] := by
  intro m member isImport
  cases List.mem_singleton.mp member
  rw [other] at isImport
  cases isImport

theorem SilentImports.append {ns ms : List Node} (first : SilentImports ns)
    (second : SilentImports ms) : SilentImports (ns ++ ms) := by
  intro n member
  rcases List.mem_append.mp member with here | there
  · exact first n here
  · exact second n there

mutual

theorem node_silentImports (features : LanguageFeatures) :
    ∀ (seen : List Text) (n : Syntax.Node), SilentImports (node features seen n).1
  | _, .text _ text => .of_silent (markup_silent text)
  | _, .transition _ => .of_silent (markup_silent "@")
  | _, .markupComment _ text => .of_silent (markup_silent ("<!--" ++ text ++ "-->"))
  | _, .comment .. => .of_silent EveryIn.nil
  | _, .expression .. => .single rfl
  | _, .codeBlock .. => .single rfl
  | seen, .directive span head body => by
    unfold node
    split
    · exact .single rfl
    split
    · exact .of_silent (importNamespace_silent seen head)
    split
    · exact .single rfl
    · exact .single rfl
    · exact .single rfl
  | seen, .element span tag endTag? body => by
    refine SilentImports.append (SilentImports.append ?_ (nodes_silentImports features _ body)) ?_
    · exact .of_silent (tag_silent features tag)
    · split
      · exact .of_silent (markup_silent _)
      · exact .of_silent EveryIn.nil
  | _, .helper .. => .single rfl

theorem nodes_silentImports (features : LanguageFeatures) :
    ∀ (seen : List Text) (ns : List Syntax.Node), SilentImports (nodes features seen ns).1
  | _, [] => .of_silent EveryIn.nil
  | seen, n :: ns =>
    (node_silentImports features seen n).append (nodes_silentImports features _ ns)

end

section Tame

variable {registered definitions : List DirectiveDescriptor}

/-- A node that is no directive is tame if its children are. -/
theorem tame_of_children {head : Head} {children : List Node}
    (plain : (Node.node head children).isDirective = false)
    (inside : EveryIn (Tame definitions) children) :
    (Node.node head children).Every (Tame definitions) := by
  refine .intro _ ⟨?_, ?_⟩ inside
  · intro directive
    rw [plain] at directive
    cases directive
  · intro member
    have directive := isDirective_of_isMember _ member
    rw [plain] at directive
    cases directive

/-- A well-formed directive whose block is silent or that has no members. -/
theorem directive_tame (span : Span) {head : Syntax.DirectiveHead} {block : List Node}
    (clean : head.diagnostics = []) (tame : EveryIn (Tame definitions) block)
    (members : isMember definitions (directive span head block) = true → AllSilent block) :
    (directive span head block).Every (Tame definitions) := by
  refine .intro _ ⟨fun _ => clean, ?_⟩ ?_
  · intro member
    exact (tokens_silent head).append (members member)
  · exact (tame_of_silent (tokens_silent head)).append tame

mutual

theorem node_tame (keeps : KeepsMarkup (isMember definitions) registered)
    (features : LanguageFeatures) :
    ∀ (seen : List Text) {n : Syntax.Node}, n.Every (Syntax.Node.Reported registered) →
      EveryIn (Tame definitions) (node features seen n).1
  | _, .text _ text, _ => tame_of_silent (markup_silent text)
  | _, .transition _, _ => tame_of_silent (markup_silent "@")
  | _, .markupComment _ text, _ => tame_of_silent (markup_silent ("<!--" ++ text ++ "-->"))
  | _, .comment .., _ => .nil
  | _, .expression span code _, _ => tame_of_silent (EveryIn.single (expression_silent span code))
  | _, .codeBlock _ code _, _ => tame_of_silent
      (EveryIn.single (every_silent rfl (EveryIn.single (every_silent_codeToken code))))
  | seen, .directive span head body, every => by
    have inside : EveryIn (Tame definitions) (nodes features seen body).1 :=
      nodes_tame keeps features seen every.inside
    unfold node
    cases wellFormed : head.isMalformed with
    | true => exact .single (tame_of_children rfl (tame_of_silent (tokens_silent head)))
    | false =>
      have clean := every.self.diagnostics_eq_nil wellFormed
      rw [if_neg Bool.false_ne_true]
      split
      · exact tame_of_silent (importNamespace_silent seen head)
      split
      · next kind =>
        refine .single (directive_tame span clean inside ?_)
        intro member
        rw [keeps span head _ every.self.registered kind] at member
        cases member
      · have statement : AllSilent [Node.located .statement span [.codeToken head.code]] :=
          EveryIn.single (every_silent rfl (EveryIn.single (every_silent_codeToken head.code)))
        exact .single (directive_tame span clean (tame_of_silent statement) fun _ => statement)
      · exact .single (directive_tame span clean .nil fun _ => EveryIn.nil)
  | seen, .element span tag endTag? body, every => by
    have inside : EveryIn (Tame definitions) (nodes features seen body).1 :=
      nodes_tame keeps features seen every.inside
    refine EveryIn.append ((tame_of_silent (tag_silent features tag)).append inside) ?_
    split
    · exact tame_of_silent (markup_silent _)
    · exact .nil
  | seen, .helper span head body, every => by
    have inside : EveryIn (Tame definitions) (nodes features seen body).1 :=
      nodes_tame keeps features seen every.inside
    refine .single (tame_of_children rfl (EveryIn.append (tame_of_silent ?_) ?_))
    · exact helperAttributes_silent head.attributes
    · split
      · exact .single (tame_of_children rfl inside)
      · exact .nil

theorem nodes_tame (keeps : KeepsMarkup (isMember definitions) registered)
    (features : LanguageFeatures) :
    ∀ (seen : List Text) {ns : List Syntax.Node}, Syntax.Node.AllReported registered ns →
      EveryIn (Tame definitions) (nodes features seen ns).1
  | _, [], _ => .nil
  | seen, _ :: _, reported => (node_tame keeps features seen reported.head).append
      (nodes_tame keeps features _ reported.tail)

end

end Tame

end Lowering

namespace Lowering

/-- Imports of namespaces leave nothing. -/
theorem left_withoutImports {p : Node → Bool}
    (directives : ∀ n, p n = true → n.isDirective = true) {ns : List Node} :
    ∀ {names : List Text}, SilentImports ns →
      left p names (ns.filter fun n => !Classifier.Outline.isImport n) = left p names ns := by
  induction ns with
  | nil =>
    intro names silent
    rfl
  | cons n ns ih =>
    intro names silent
    have rest : SilentImports ns := fun m member => silent m (List.mem_cons_of_mem n member)
    have front := left_append (p := p) names [n] ns
    cases isImport : Classifier.Outline.isImport n with
    | true =>
      have silent := EveryIn.single (silent n List.mem_cons_self isImport)
      rw [left_of_silent directives names silent] at front
      rw [List.filter_cons_of_neg (by simp [isImport]), ih rest]
      exact front.symm
    | false =>
      have behind := left_append (p := p) names [n]
        (ns.filter fun n => !Classifier.Outline.isImport n)
      rw [List.filter_cons_of_pos (by simp [isImport])]
      refine behind.trans (Eq.trans ?_ front.symm)
      dsimp only
      rw [ih rest]

end Lowering

/-! ## Classified documents -/

namespace ProjectEngine

/-- Whether only the directives of a document are kept when it is classified. -/
def directivesOnly (components : Bool) (doc : CodeDocument) : Bool :=
  components && doc.fileKind == .componentImport

/-- The body of a document after it is classified. -/
def bodyOf (components : Bool) (doc : CodeDocument) (d : Document) : List Node :=
  (d.children.filter fun n => !Classifier.Outline.isImport n).filter
    (Lowering.isKept (directivesOnly components doc))

theorem outline_cased {o : Classifier.Outline} (primary : o.classShape.isPrimary = true)
    (silent : AllSilent o.imports) : ∃ c : Casing, [o.toNode] = c.children o.body :=
  ⟨{ namespaceName := o.namespaceName, imports := o.imports, classShape := o.classShape
     front := [], methodShape := o.methodShape, back := [], primary
     imports_silent := silent, front_silent := EveryIn.nil, back_silent := EveryIn.nil }, rfl⟩

theorem classified_cased (components : Bool) (doc : CodeDocument) {d : Document}
    (silent : Lowering.SilentImports d.children) :
    ((ruleOf components doc d).classified doc d).Cased (bodyOf components doc d)
      d.diagnostics := by
  have imports : AllSilent (d.children.filter Classifier.Outline.isImport) := by
    intro n member
    rcases List.mem_filter.mp member with ⟨among, isImport⟩
    exact silent n among isImport
  have whole : directivesOnly components doc = false →
      bodyOf components doc d = d.children.filter fun n => !Classifier.Outline.isImport n := by
    intro all
    unfold bodyOf
    rw [all]
    exact List.filter_eq_self.mpr fun _ _ => rfl
  refine ⟨?_, [], (List.append_nil _).symm, .nil⟩
  unfold ruleOf
  split
  · next isComponent =>
    have added : AllSilent (withComponentImports (d.children.filter
        Classifier.Outline.isImport)) :=
      imports.append (EveryIn.map fun _ _ => every_silent rfl .nil)
    have body : bodyOf components doc d = (Classifier.component.shape doc (.initial d)).body := by
      have since : components = true := (Bool.and_eq_true_iff.mp isComponent).1
      change _ = if doc.fileKind == .componentImport then _ else _
      cases only : doc.fileKind == .componentImport with
      | true =>
        unfold bodyOf directivesOnly
        rw [since, only]
        rfl
      | false => exact whole (by unfold directivesOnly; rw [only, Bool.and_false])
    rw [body]
    exact outline_cased rfl added
  · next other =>
    have all : directivesOnly components doc = false := by
      unfold directivesOnly
      cases components with
      | false => rfl
      | true =>
        cases only : doc.fileKind == .componentImport with
        | false => rfl
        | true =>
          rw [eq_of_beq only] at other
          exact absurd rfl other
    rw [whole all]
    split
    · split
      · exact outline_cased rfl imports
      · exact outline_cased rfl imports
    · exact outline_cased rfl imports

/-! ## Passes on a classified document -/

/-- The definitions of the directives with members for the class. -/
def memberDefinitions : List DirectiveDescriptor := [.functions, .code]

section Passes

variable {d : Document} {body : List Node} {found : List Diagnostic}

/-- The body after the directives with members and the sections. -/
def sectionedBody (body : List Node) : List Node :=
  (defineSectionsIn [] (withoutBlocksIn (isMember [.functions]) false body)).1

/-- The passes up to the one that handles pages. -/
theorem shared_cased (file? : Option Nat) (cased : d.Cased body found)
    (tame : EveryIn (Tame memberDefinitions) body) :
    (applyPage file? (applyNamespace (applyImplements (applySections
      (applyMembers [.functions] (applyInherits d)))))).Cased (sectionedBody body) found := by
  have moved := applyMembers_cased [.functions] (by simp [memberDefinitions])
    (applyInherits_cased cased) tame
  have sectioned := applySections_cased moved
  exact applyPage_cased file? (applyNamespace_cased (sectioned.changeClassShape fun _ => rfl))

theorem sectionedBody_tame (tame : EveryIn (Tame memberDefinitions) body) :
    EveryIn (Tame memberDefinitions) (sectionedBody body) :=
  defineSectionsIn_tame []
    (withoutBlocksIn_every (tame_withoutBlocks isDirective_of_isMember) false tame)

/-- The passes of a component between the one that handles pages and the one that handles the
model. -/
theorem component_cased (cased : d.Cased body found)
    (tame : EveryIn (Tame memberDefinitions) body) :
    (applyAttributes (applyLayout (applyTypeParameters (applyMembers [.code] d)))).Cased
      (withoutBlocksIn (isMember [.code]) false body) found := by
  have moved := applyMembers_cased [.code] (by simp [memberDefinitions]) cased tame
  have parameters := moved.changeClassShape (f := fun c => { c with
    typeParameters := (((applyMembers [.code] d).directivesOf .typeParameter).filterMap
      typeParameter?).foldl addTypeParameter c.typeParameters }) fun _ => rfl
  exact (applyLayout_cased parameters).changeClassShape fun _ => rfl

/-- All passes that handle directives leave the same body after directives are removed. -/
theorem directiveChanges_cased (components : Bool) (file? : Option Nat)
    (cased : d.Cased body found) (tame : EveryIn (Tame memberDefinitions) body) :
    ∃ last, (applied (directiveChanges components) file? d).Cased last found
      ∧ EveryIn (Tame memberDefinitions) last
      ∧ dropDirectivesAll last = dropDirectivesAll (sectionedBody body) := by
  have shared := shared_cased file? cased tame
  have sectioned := sectionedBody_tame tame
  cases components with
  | false =>
    refine ⟨_, ?_, sectioned, rfl⟩
    simp only [applied, directiveChanges, Bool.false_eq_true, if_false, List.append_nil,
      List.foldl_append, List.foldl_cons, List.foldl_nil]
    exact applyModel_cased shared
  | true =>
    refine ⟨withoutBlocksIn (isMember [.code]) false (sectionedBody body), ?_, ?_, ?_⟩
    · simp only [applied, directiveChanges, if_true, List.foldl_append, List.foldl_cons,
        List.foldl_nil]
      exact applyModel_cased (component_cased shared sectioned)
    · exact withoutBlocksIn_every (tame_withoutBlocks isDirective_of_isMember) false sectioned
    · exact dropDirectivesAll_withoutBlocksIn isDirective_of_isMember _

end Passes

/-- The findings after all passes on a lowered document: its own, those that are left of its nodes,
and others that are not about directives. -/
theorem mem_shaped (components : Bool) (doc : CodeDocument) {d : Document}
    (tame : EveryIn (Tame memberDefinitions) d.children)
    (silent : Lowering.SilentImports d.children) :
    ∃ more, Diagnostic.AllForeign more ∧ ∀ x, x ∈ (shaped components doc d).allDiagnostics ↔
      x ∈ d.diagnostics ∨ x ∈ more ∨ x ∈ (left (isMember [.functions]) []
        (d.children.filter (Lowering.isKept (directivesOnly components doc)))).1 := by
  have cased := classified_cased components doc silent
  have body : EveryIn (Tame memberDefinitions) (bodyOf components doc d) :=
    (tame.filter _).filter _
  rcases directiveChanges_cased components (doc.source?.map SourceFile.id) cased body with
    ⟨last, changed, lastTame, same⟩
  have removed := removeDirectives_cased (declareHelpers_cased changed) lastTame
  have reports : diagnosticsAll (dropDirectivesAll last) = (left (isMember [.functions]) []
      (d.children.filter (Lowering.isKept (directivesOnly components doc)))).1 := by
    have kept : Lowering.SilentImports
        (d.children.filter (Lowering.isKept (directivesOnly components doc))) :=
      fun n member => silent n ((List.mem_filter.mp member).1)
    have order : (d.children.filter (Lowering.isKept (directivesOnly components doc))).filter
        (fun n => !Classifier.Outline.isImport n) = bodyOf components doc d := by
      unfold bodyOf
      rw [List.filter_filter, List.filter_filter]
      congr 1
      funext n
      exact Bool.and_comm _ _
    rw [same, ← Lowering.left_withoutImports isDirective_of_isMember kept, order]
    rfl
  rcases removed.reported with ⟨more, own, foreign⟩
  refine ⟨more, foreign, fun x => ?_⟩
  change x ∈ (Document.dropBody (Document.mergeMarkup (Document.removeDirectives
    (Document.declareHelpers _)))).allDiagnostics ↔ _
  rw [Document.mem_dropBody, Document.mem_mergeMarkup, removed.allDiagnostics_eq, own, reports,
    List.mem_append, List.mem_append, or_assoc]

end ProjectEngine

/-! ## Whole runs -/

namespace Lowering

/-- The syntax nodes that are lowered: the directives of the imports that the template does not
hide, and the template. -/
def loweredNodes (tree : Syntax.Tree) (imports : List Syntax.Tree) : List Syntax.Node :=
  (imports.flatMap fun t => t.body.filter (isLoweredImport (onceKeywords tree))) ++ tree.body

theorem nodes_append (features : LanguageFeatures) (ms : List Syntax.Node) :
    ∀ (seen : List Text) (ns : List Syntax.Node),
      (nodes features seen (ns ++ ms)).1 =
        (nodes features seen ns).1 ++ (nodes features (nodes features seen ns).2 ms).1
  | _, [] => rfl
  | seen, n :: ns => by
    change (node features seen n).1 ++ (nodes features (node features seen n).2 (ns ++ ms)).1 = _
    rw [nodes_append features ms, ← List.append_assoc]
    rfl

theorem children_document (tree : Syntax.Tree) (imports : List Syntax.Tree) :
    (document tree imports).children =
      (nodes tree.options.features [] (loweredNodes tree imports)).1 := by
  unfold loweredNodes
  rw [nodes_append]
  rfl

end Lowering

namespace Workpiece

variable (e : Engine) (doc : CodeDocument) (source : SourceFile) (provided : List SourceFile)

theorem boundTree_reported :
    Syntax.Node.AllReported (parserOptions e doc).directives
      (boundTree e doc source provided).body := by
  refine Syntax.Tree.bindHelpers_reported ?_ _
  exact Syntax.Node.trimAll_reported (Syntax.Node.mergeAll_reported
    (Syntax.parse_reported source (parserOptions e doc)))

theorem importTrees_reported {options : ParserOptions} {files : List SourceFile} :
    ∀ t ∈ importTrees options files, Syntax.Node.AllReported options.directives t.body := by
  intro t member
  rcases List.mem_map.mp member with ⟨f, -, rfl⟩
  exact Syntax.parse_reported f { options with fileKind := .ofPath f.path }

theorem loweredNodes_reported : Syntax.Node.AllReported (parserOptions e doc).directives
    (Lowering.loweredNodes (boundTree e doc source provided)
      (importTrees (parserOptions e doc) (provided ++ doc.imports))) := by
  intro n member
  rcases List.mem_append.mp member with imported | own
  · rcases List.mem_flatMap.mp imported with ⟨t, among, here⟩
    exact importTrees_reported t among n ((List.mem_filter.mp here).1)
  · exact boundTree_reported e doc source provided n own

theorem boundTree_diagnostics :
    ∃ more, (boundTree e doc source provided).diagnostics =
      (Syntax.parse source (parserOptions e doc)).diagnostics ++ more
        ∧ Diagnostic.AllForeign more := by
  have discovered := Discovery.discover_foreign
    ((doc.helpers?.orElse fun _ => e.features.helpers?).getD []) doc.fileKind
    (preparedTree source (parserOptions e doc))
    (importTrees (parserOptions e doc) (provided ++ doc.imports))
  rcases Syntax.Tree.bindHelpers_diagnostics
    { preparedTree source (parserOptions e doc) with
      diagnostics := (preparedTree source (parserOptions e doc)).diagnostics
        ++ (scopeOf e doc source provided).2 }
    (scopeOf e doc source provided).1.binder with ⟨found, same, foreign⟩
  refine ⟨(scopeOf e doc source provided).2 ++ found, ?_, discovered.append foreign⟩
  exact same.trans (List.append_assoc ..)

end Workpiece

/-- Definitions with the digest of a directive with members have no block of markup. -/
def DirectiveDescriptor.MembersApart (registered : List DirectiveDescriptor) : Prop :=
  ∀ d ∈ registered, d.kind = .markupBlock → ∀ e ∈ ProjectEngine.memberDefinitions,
    d.digest ≠ e.digest

theorem DirectiveDescriptor.MembersApart.keepsMarkup {registered : List DirectiveDescriptor}
    (apart : MembersApart registered) {definitions : List DirectiveDescriptor}
    (subset : ∀ e ∈ definitions, e ∈ ProjectEngine.memberDefinitions) :
    Lowering.KeepsMarkup (isMember definitions) registered := by
  intro span head block known kind
  refine List.any_eq_false.mpr ?_
  intro e among same
  exact apart head.descriptor known kind e (subset e among) (eq_of_beq same)

namespace Workpiece

variable {e : Engine} {doc : CodeDocument}

/-- The findings about a finished document: those of the parser about whole files, those about
directives that are left, and others that are not about directives. -/
theorem mem_finished (components : Bool) (source : SourceFile) (provided : List SourceFile)
    (apart : DirectiveDescriptor.MembersApart (parserOptions e doc).directives) :
    let imports := importTrees (parserOptions e doc) (provided ++ doc.imports)
    ∃ more, Diagnostic.AllForeign more ∧
      ∀ x, x ∈ (finished e doc source provided components).allDiagnostics ↔
        (x ∈ (Syntax.parse source (parserOptions e doc)).diagnostics
          ∨ x ∈ imports.flatMap Syntax.Tree.diagnostics
          ∨ x ∈ (Syntax.Node.survivingAll (ProjectEngine.directivesOnly components doc) []
              (Lowering.loweredNodes (boundTree e doc source provided) imports)).1)
        ∨ x ∈ more := by
  intro imports
  have reported := loweredNodes_reported e doc source provided
  have children : (unclassified e doc source provided).children = _ :=
    Lowering.children_document (boundTree e doc source provided) imports
  have tame : IR.Node.EveryIn (Tame ProjectEngine.memberDefinitions)
      (unclassified e doc source provided).children := by
    rw [children]
    exact Lowering.nodes_tame (apart.keepsMarkup fun _ among => among) _ _ reported
  have silent : Lowering.SilentImports (unclassified e doc source provided).children := by
    rw [children]
    exact Lowering.nodes_silentImports _ _ _
  have kept := Lowering.nodes_left (p := isMember [.functions]) isDirective_of_isMember
    (apart.keepsMarkup (by simp [ProjectEngine.memberDefinitions]))
    (boundTree e doc source provided).options.features
    (ProjectEngine.directivesOnly components doc) [] [] reported
  rcases boundTree_diagnostics e doc source provided with ⟨early, own, earlyForeign⟩
  rcases ProjectEngine.mem_shaped components doc tame silent with ⟨late, lateForeign, shaped⟩
  rw [children, kept] at shaped
  refine ⟨early ++ late, earlyForeign.append lateForeign, fun x => ?_⟩
  have diagnostics : (unclassified e doc source provided).diagnostics =
      imports.flatMap Syntax.Tree.diagnostics
        ++ ((Syntax.parse source (parserOptions e doc)).diagnostics ++ early) := by
    rw [← own]
    rfl
  unfold finished
  rw [shaped, diagnostics]
  simp only [List.mem_append]
  grind

end Workpiece

namespace World

/-- The output of a run has a finding of the parser if it is one about the whole file, or one about
a directive that the passes leave. -/
theorem output_findings_iff {c : Configuration} {withImports : Bool}
    {helpers? : Option (List TagHelper)} {custom : List DirectiveDescriptor} {e : Engine}
    (built : ((EngineBuilder.project c withImports helpers?).build
      (·.addDirectives custom)).2 = .ok e)
    {w after : World} {parent : Nat} {cancelAt? : Option Nat}
    (ran : w.run e parent cancelAt? = (after, none))
    (apart : DirectiveDescriptor.MembersApart (Workpiece.parserOptions e w.document).directives) :
    ∃ source options tree imports output, w.document.source? = some source
      ∧ after.document.parserOptions? = some options ∧ after.document.tree? = some tree
      ∧ after.document.importTrees? = some imports ∧ after.document.output? = some output
      ∧ ∀ x ∈ (Syntax.parse source options).allDiagnostics, x ∈ output.diagnostics ↔
        x ∈ (Syntax.parse source options).diagnostics
          ∨ x ∈ imports.flatMap Syntax.Tree.diagnostics
          ∨ x ∈ (Syntax.Node.survivingAll
              (ProjectEngine.directivesOnly (c.version.atLeast .v3_0) w.document) []
              (Lowering.loweredNodes tree imports)).1 := by
  have project := ProjectEngine.isProject_of_build built
  have done := through_of_run ran
  rw [project.phases] at done
  rcases ProjectEngine.of_through_ok done with ⟨source, given, honored⟩
  rw [ProjectEngine.through_of_honored project given honored] at done
  have document : after.document = _ := (congrArg Workpiece.document (Except.ok.inj done)).symm
  rw [document]
  refine ⟨source, _, _, _, _, given, rfl, rfl, rfl, rfl, ?_⟩
  intro x member
  rcases Workpiece.mem_finished (c.version.atLeast .v3_0) source
    (w.workpiece.provide e.features w.document.fileKind).1 apart with ⟨more, foreign, found⟩
  refine (found x).trans ?_
  rcases List.mem_append.mp member with whole | single
  · exact ⟨fun _ => .inl whole, fun _ => .inl (.inl whole)⟩
  · have about := Syntax.findings_about (Syntax.parse_reported source _) single
    have excluded : x ∉ more := fun among => about.not_foreign (foreign x among)
    exact or_iff_left excluded

/-- The finding that an inner directive is misplaced is lost where the outer one is malformed. -/
theorem output_findings_iff_nested :
    let source := SourceFile.ofContent 0 "/test.quill" "@section A \x7b@page" .none
    let w : World := { document := CodeDocument.ofSource source []
                       files := (FileSet.empty.add "/test.quill" "@section A \x7b@page" .none).1 }
    ∃ e after options output,
      ((EngineBuilder.project {} false none).build (·.addDirectives [])).2 = .ok e
        ∧ w.run e = (after, none)
        ∧ DirectiveDescriptor.MembersApart (Workpiece.parserOptions e w.document).directives
        ∧ after.document.parserOptions? = some options ∧ after.document.output? = some output
        ∧ ∃ x ∈ (Syntax.parse source options).allDiagnostics,
          x.code = .notTopLevel ∧ x ∉ output.diagnostics := by
  intro source w
  have built : ∃ e, ((EngineBuilder.project {} false none).build (·.addDirectives [])).2 = .ok e :=
    ⟨_, rfl⟩
  rcases built with ⟨e, built⟩
  have project := ProjectEngine.isProject_of_build built
  -- The options are a closed term, which the kernel evaluates here and nowhere else.
  have evaluated : ∃ options, Workpiece.parserOptions e w.document = options
      ∧ DirectiveDescriptor.MembersApart options.directives ∧ options.conflict? = none
      ∧ .notTopLevel ∈ (Syntax.parse source options).allDiagnostics.map Diagnostic.code
      ∧ (Syntax.parse source options).diagnostics = []
      ∧ .notTopLevel ∉ (Syntax.Node.survivingAll false []
          (Workpiece.preparedTree source options).body).1.map Diagnostic.code
      ∧ (Discovery.discover [] .legacy (Workpiece.preparedTree source options) []).1.helpers
          = [] := by
    refine ⟨Configuration.parserOptions {}
      (ProjectEngine.assembly true {} false none []).features.directives.entries w.document,
      ?_, ?_, rfl, ?_, ?_, ?_, ?_⟩
    · rcases ProjectEngine.engine_eq (ProjectEngine.engine_of_build built).2 with ⟨_, -, rfl⟩
      rfl
    · unfold DirectiveDescriptor.MembersApart
      decide +kernel
    · decide +kernel
    · exact List.isEmpty_iff.mp (by decide +kernel)
    · decide +kernel
    · exact List.isEmpty_iff.mp (by decide +kernel)
  rcases evaluated with ⟨options, known, apart, honored, codes, none, others, unselected⟩
  rw [← known] at apart honored
  have provided : (w.workpiece.provide e.features w.document.fileKind).1 = [] := by
    unfold Workpiece.provide
    rw [project.provided]
    rfl
  have unscoped : (Workpiece.scopeOf e w.document source []).1.helpers = [] := by
    unfold Workpiece.scopeOf
    rw [ProjectEngine.helpers?_of_build built, known]
    exact unselected
  rcases ProjectEngine.run_of_honored project (w := w) rfl honored 0 with ⟨after, ran, same⟩
  have document : after.document = _ := congrArg Workpiece.document same
  rcases output_findings_iff built ran apart with
    ⟨_, _, tree, imports, output, given, parsed, bound, parsedImports, written, found⟩
  cases given
  refine ⟨e, after, _, output, built, ran, apart, parsed, written, ?_⟩
  rw [document] at parsed bound parsedImports
  cases parsed
  cases bound
  cases parsedImports
  rw [provided] at found
  have body : Lowering.loweredNodes (Workpiece.boundTree e w.document source []) [] =
      (Workpiece.preparedTree source options).body := by
    unfold Lowering.loweredNodes
    rw [List.flatMap_nil, List.nil_append, Workpiece.body_boundTree e w.document source [] unscoped,
      known]
  rw [known] at found ⊢
  rcases List.mem_map.mp codes with ⟨x, among, code⟩
  refine ⟨x, among, code, ?_⟩
  intro present
  rcases (found x among).mp present with whole | imported | left
  · rw [none] at whole
    cases whole
  · cases imported
  · rw [← body] at others
    exact others (List.mem_map.mpr ⟨x, left, code⟩)

end World

end TemplateCompiler
