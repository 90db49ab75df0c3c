import TemplateCompiler.Pipeline.Run

/-!
# A run as a function of its document

A run traces what it does, notes the passes it executes and observes its phases.  None of that
comes back into the compilation: the document, the files and the import that the engine provides
depend on nothing else.  A `Workpiece` is that part of a world, and every phase is a function on
workpieces that may fail.

The functions below restate the phases without the monad, and are proved to be what the phases do.
Nothing is assumed about the engine: its passes and its writer may fail, its phases may be in any
order, and they need not be among the nine.
-/

namespace TemplateCompiler

/-- A file that was added has the next number. -/
theorem FileSet.get?_add (s : FileSet) (path content : Text) (flags : FileFlags) :
    (s.add path content flags).1.get? s.size = some (.ofContent s.size path content flags) :=
  Array.getElem?_push_size

/-- What the phases of a run work on, without what only watches them: no tracer, no journal and no
events. -/
structure Workpiece where
  document : CodeDocument
  files : FileSet
  /-- The import document that the engine provides, once it was asked for. -/
  providedImport? : Option SourceFile

/-- The part of a world that phases depend on, without what only records what they do. -/
def World.workpiece (w : World) : Workpiece := ⟨w.document, w.files, w.providedImport?⟩

namespace Workpiece

/-- What a slot of the document holds, or the error of a phase that needs it. -/
def slot {α : Type} (w : Workpiece) (phase : Phase) (artifact : Artifact)
    (read : CodeDocument → Option α) : Except PipelineError α :=
  match read w.document with
  | some a => .ok a
  | none => .error (.missingArtifact (some phase) artifact)

/-- The import document that the engine provides for a kind, which joins the files. -/
def provide (w : Workpiece) (f : Features) (kind : FileKind) : List SourceFile × Workpiece :=
  match f.providedImport?.bind (· kind) with
  | none => ([], w)
  | some i =>
    match w.providedImport? with
    | some file => ([file], w)
    | none =>
      let file := SourceFile.ofContent w.files.size i.path i.content .inMemory
      ([file], { w with
        files := (w.files.add i.path i.content .inMemory).1, providedImport? := some file })

/-- What is provided does not depend on the document, and leaves it alone. -/
theorem provide_withDocument (w : Workpiece) (f : Features) (kind : FileKind)
    (document : CodeDocument) :
    { w with document }.provide f kind =
      ((w.provide f kind).1, { (w.provide f kind).2 with document }) := by
  rcases w with ⟨old, files, provided?⟩
  unfold provide
  cases f.providedImport?.bind (· kind) with
  | none => rfl
  | some i => cases provided? <;> rfl

@[simp]
theorem document_provide (w : Workpiece) (f : Features) (kind : FileKind) :
    (w.provide f kind).2.document = w.document := by
  rcases w with ⟨document, files, provided?⟩
  unfold provide
  cases f.providedImport?.bind (· kind) with
  | none => rfl
  | some i => cases provided? <;> rfl

def passed {α β : Type} (p : Pass α) (outcome : Except Text β) : Except PipelineError β :=
  match outcome with
  | .ok b => .ok b
  | .error cause => .error (.pass p.name cause)

def treeAfter : List (Pass SyntaxAction) → Syntax.Tree → Except PipelineError Syntax.Tree
  | [], tree => .ok tree
  | p :: ps, tree =>
    match passed p (p.action.run tree) with
    | .ok next => treeAfter ps next
    | .error e => .error e

/-- The document that passes on its intermediate tree leave. -/
def documentAfter (phase : Phase) :
    List (Pass DocumentAction) → CodeDocument → Except PipelineError CodeDocument
  | [], doc => .ok doc
  | p :: ps, doc =>
    match doc.intermediate? with
    | none => .error (.missingArtifact (some phase) .intermediate)
    | some d =>
      match passed p (p.action doc d) with
      | .ok next => documentAfter phase ps { doc with intermediate? := some next }
      | .error e => .error e

def parserOptions (e : Engine) (doc : CodeDocument) : ParserOptions :=
  doc.parserOptions?.getD (match e.features.parserOptions? with
    | some make => make e.configuration e.features.directives.entries doc
    | none => e.configuration.parserOptions [] doc)

def codeOptions (e : Engine) (doc : CodeDocument) : CodeOptions :=
  doc.codeOptions?.getD (match e.features.codeOptions? with
    | some make => make e.configuration
    | none => e.configuration.codeOptions)

/-- The document with the trees of its source and of its imports. -/
def parsedDocument (e : Engine) (doc : CodeDocument) (source : SourceFile)
    (provided : List SourceFile) : CodeDocument :=
  let options := parserOptions e doc
  { doc with
    parserOptions? := some options
    tree? := some (Syntax.parse source options)
    importTrees? := some ((provided ++ doc.imports).map fun f =>
      Syntax.parse f { options with fileKind := .ofPath f.path }) }

/-- The scope of tag helpers that an engine finds for a document, and the findings. -/
def discovered (e : Engine) (doc : CodeDocument) (tree : Syntax.Tree)
    (imports : List Syntax.Tree) : Option HelperScope × List Diagnostic :=
  e.features.discovery?.getD HelperDiscovery.nothing
    ((doc.helpers?.orElse fun _ => e.features.helpers?).getD []) doc.fileKind tree imports

def loweredDocument (e : Engine) (doc : CodeDocument) (tree : Syntax.Tree)
    (imports : List Syntax.Tree) : CodeDocument :=
  let d := Lowering.document tree imports
  { doc with
    codeOptions? := some (codeOptions e doc)
    intermediate? := some { d with
      header := { d.header with options := codeOptions e doc, sourceDigest := doc.digest } } }

/-- Put the outcome of a phase on the document in the place of the document. -/
def withDocument (w : Workpiece) (outcome : Except PipelineError CodeDocument) :
    Except PipelineError Workpiece :=
  outcome.map fun document => { w with document }

end Workpiece

/-- What one of the nine phases makes of a workpiece. -/
def Phase.effect (e : Engine) (w : Workpiece) : Phase → Except PipelineError Workpiece
  | parsing => do
    let source ← w.slot .parsing .source (·.source?)
    match (Workpiece.parserOptions e w.document).conflict? with
    | some c => .error (.parserOptions c)
    | none =>
      let (provided, w) := w.provide e.features w.document.fileKind
      .ok { w with document := Workpiece.parsedDocument e w.document source provided }
  | syntaxTree => do
    let tree ← w.slot .syntaxTree .tree (·.tree?)
    let tree ← Workpiece.treeAfter e.features.syntaxPasses.ordered tree
    .ok { w with document := { w.document with tree? := some tree } }
  | helperDiscovery => do
    let tree ← w.slot .helperDiscovery .tree (·.tree?)
    let imports ← w.slot .helperDiscovery .importTrees (·.importTrees?)
    let (scope?, found) := Workpiece.discovered e w.document tree imports
    .ok { w with document := { w.document with
      tree? := some { tree with diagnostics := tree.diagnostics ++ found }
      scope? := some (scope?.getD {}) } }
  | helperBinding => do
    let tree ← w.slot .helperBinding .tree (·.tree?)
    let scope ← w.slot .helperBinding .helperScope (·.scope?)
    .ok { w with document := { w.document with tree? := some (tree.bindHelpers scope.binder) } }
  | lowering => do
    let tree ← w.slot .lowering .tree (·.tree?)
    let imports ← w.slot .lowering .importTrees (·.importTrees?)
    .ok { w with document := Workpiece.loweredDocument e w.document tree imports }
  | documentClassifier => do
    let d ← w.slot .documentClassifier .intermediate (·.intermediate?)
    match e.features.classifiers.ordered.find? fun c => c.action.accepts w.document d with
    | none => .ok w
    | some c =>
      let d ← Workpiece.passed c (c.action.run e.features.classifierSettings w.document d)
      .ok { w with document := { w.document with intermediate? := some d } }
  | directiveClassifier => do
    let _ ← w.slot .directiveClassifier .intermediate (·.intermediate?)
    w.withDocument
      (Workpiece.documentAfter .directiveClassifier e.features.directivePasses.ordered w.document)
  | optimization => do
    let _ ← w.slot .optimization .intermediate (·.intermediate?)
    w.withDocument
      (Workpiece.documentAfter .optimization e.features.optimizations.ordered w.document)
  | targetLowering => do
    let d ← w.slot .targetLowering .intermediate (·.intermediate?)
    let options ← w.slot .targetLowering .codeOptions (·.codeOptions?)
    match e.target.write options d with
    | .error cause => .error (.writer cause)
    | .ok output => .ok { w with document := { w.document with output? := some output } }

/-- What a phase that is not one of the nine makes of a workpiece. -/
def CustomPhase.effect (e : Engine) (w : Workpiece) (c : CustomPhase) :
    Except PipelineError Workpiece :=
  match c.run e.configuration e.features w.document with
  | (_, some cause) => .error (.custom cause)
  | (document, none) => .ok { w with document }

/-- What a phase makes of a workpiece, as a function of the workpiece alone.  Tracers, journals and
events have no influence on it. -/
def Stage.effect (e : Engine) (w : Workpiece) : Stage → Except PipelineError Workpiece
  | phase p => p.effect e w
  | custom c => c.effect e w

/-- What phases make of a workpiece one after another.  The first error ends the sequence. -/
def Workpiece.through (e : Engine) : List Stage → Workpiece → Except PipelineError Workpiece
  | [], w => .ok w
  | s :: ss, w => do
    let w ← s.effect e w
    through e ss w

/-! ## Actions -/

namespace Action

variable {α β : Type}

theorem run_bind (x : Action α) (f : α → Action β) (w : World) :
    (x >>= f).run w = (match x.run w with
      | (outcome, after) => (ExceptT.bindCont f outcome : StateM World _) after) := rfl

/-- An action that succeeds is followed by the next one. -/
theorem run_bind_ok {x : Action α} {f : α → Action β} {w after : World} {a : α}
    (ran : x.run w = (.ok a, after)) : (x >>= f).run w = (f a).run after := by
  rw [run_bind, ran]
  rfl

/-- Nothing follows an action that fails. -/
theorem run_bind_error {x : Action α} {f : α → Action β} {w after : World} {e : PipelineError}
    (ran : x.run w = (.error e, after)) : (x >>= f).run w = (.error e, after) := by
  rw [run_bind, ran]
  rfl

theorem run_get_bind (f : World → Action β) (w : World) : (get >>= f).run w = (f w).run w := rfl

theorem run_require_some {phase : Phase} {artifact : Artifact} {slot : CodeDocument → Option α}
    {w : World} {a : α} (filled : slot w.document = some a) :
    (require phase artifact slot).run w = (.ok a, w) := by
  change (match slot w.document with
    | some a => (pure a : Action α)
    | none => throw (PipelineError.missingArtifact (some phase) artifact)).run w = _
  rw [filled]
  rfl

theorem run_require_none {phase : Phase} {artifact : Artifact} {slot : CodeDocument → Option α}
    {w : World} (empty : slot w.document = none) :
    (require phase artifact slot).run w =
      (.error (.missingArtifact (some phase) artifact), w) := by
  change (match slot w.document with
    | some a => (pure a : Action α)
    | none => throw (PipelineError.missingArtifact (some phase) artifact)).run w = _
  rw [empty]
  rfl

theorem run_update (f : CodeDocument → CodeDocument) (w : World) :
    (update f).run w = (.ok (), { w with document := f w.document }) := rfl

/-- An action does what a function on workpieces says.  When it fails, the files are as they
were. -/
def Does (action : Action α) (w : World) (outcome : Except PipelineError (α × Workpiece)) : Prop :=
  match outcome with
  | .ok (a, piece) => ∃ after, action.run w = (.ok a, after) ∧ after.workpiece = piece
  | .error e => ∃ after, action.run w = (.error e, after) ∧ after.files = w.files
      ∧ after.providedImport? = w.providedImport?

/-- A slot that a phase needs: its error if the slot is empty, and what follows otherwise. -/
theorem does_require {phase : Phase} {artifact : Artifact} {slot : CodeDocument → Option α}
    {w : World} {f : α → Action β} {next : α → Except PipelineError (β × Workpiece)}
    (continues : ∀ a, slot w.document = some a → Does (f a) w (next a)) :
    Does (require phase artifact slot >>= f) w
      (w.workpiece.slot phase artifact slot >>= next) := by
  cases read : slot w.document with
  | none =>
    have missing : w.workpiece.slot phase artifact slot =
        .error (.missingArtifact (some phase) artifact) := by
      change (match slot w.document with | some a => _ | none => _) = _
      rw [read]
    rw [missing]
    exact ⟨w, run_bind_error (run_require_none read), rfl, rfl⟩
  | some a =>
    have present : w.workpiece.slot phase artifact slot = .ok a := by
      change (match slot w.document with | some a => _ | none => _) = _
      rw [read]
    rw [present]
    have follows := continues a read
    unfold Does at follows ⊢
    rw [run_bind_ok (run_require_some read)]
    exact follows

/-- The record of a pass changes nothing that phases depend on. -/
theorem does_record (p : Pass α) (outcome : Except Text β) (w : World) :
    Does (record p outcome) w ((Workpiece.passed p outcome).map fun b => (b, w.workpiece)) := by
  cases outcome with
  | ok b => exact ⟨_, rfl, rfl⟩
  | error cause => exact ⟨_, rfl, rfl, rfl⟩

/-! ## Passes -/

theorem does_syntaxPasses (ps : List (Pass SyntaxAction)) :
    ∀ (tree : Syntax.Tree) (w : World),
      match Workpiece.treeAfter ps tree with
      | .ok next => ∃ after, (syntaxPasses ps tree).run w = (.ok next, after)
          ∧ ∃ tree?, after.workpiece =
            { w.workpiece with document := { w.document with tree? := tree? } }
      | .error e => ∃ after, (syntaxPasses ps tree).run w = (.error e, after)
          ∧ after.files = w.files ∧ after.providedImport? = w.providedImport? := by
  induction ps with
  | nil => intro tree w; exact ⟨w, rfl, _, rfl⟩
  | cons p ps ih =>
    intro tree w
    have recorded := does_record p (p.action.run tree)
      { w with document := { w.document with tree? := w.document.tree?.map p.action.leaves } }
    rw [Workpiece.treeAfter]
    cases outcome : Workpiece.passed p (p.action.run tree) with
    | error e =>
      rw [outcome] at recorded
      rcases recorded with ⟨after, ran, files, provided⟩
      refine ⟨after, ?_, files, provided⟩
      rw [syntaxPasses, run_bind_ok (run_update _ w)]
      exact run_bind_error ran
    | ok next =>
      rw [outcome] at recorded
      rcases recorded with ⟨after, ran, piece⟩
      have rest := ih next after
      have first : (syntaxPasses (p :: ps) tree).run w = (syntaxPasses ps next).run after := by
        rw [syntaxPasses, run_bind_ok (run_update _ w)]
        exact run_bind_ok ran
      have files : after.files = w.files := congrArg Workpiece.files piece
      have provided : after.providedImport? = w.providedImport? :=
        congrArg Workpiece.providedImport? piece
      dsimp only
      rw [first]
      cases remaining : Workpiece.treeAfter ps next with
      | error e =>
        rw [remaining] at rest
        rcases rest with ⟨last, ranLast, filesLast, providedLast⟩
        exact ⟨last, ranLast, filesLast.trans files, providedLast.trans provided⟩
      | ok final =>
        rw [remaining] at rest
        rcases rest with ⟨last, ranLast, tree?, pieceLast⟩
        refine ⟨last, ranLast, tree?, ?_⟩
        have document := congrArg Workpiece.document piece
        change after.document = _ at document
        rw [pieceLast, piece, document]
        rfl

theorem does_documentPasses (phase : Phase) (ps : List (Pass DocumentAction)) :
    ∀ w : World, Does (documentPasses phase ps) w
      ((Workpiece.documentAfter phase ps w.document).map fun document =>
        ((), { w.workpiece with document })) := by
  induction ps with
  | nil => intro w; exact ⟨w, rfl, rfl⟩
  | cons p ps ih =>
    intro w
    rw [Workpiece.documentAfter]
    cases read : w.document.intermediate? with
    | none => exact ⟨w, run_bind_error (run_require_none read), rfl, rfl⟩
    | some d =>
      have recorded := does_record p (p.action w.document d) w
      dsimp only
      cases outcome : Workpiece.passed p (p.action w.document d) with
      | error e =>
        rw [outcome] at recorded
        rcases recorded with ⟨after, ran, files, provided⟩
        refine ⟨after, ?_, files, provided⟩
        rw [documentPasses, run_bind_ok (run_require_some read), run_get_bind]
        exact run_bind_error ran
      | ok next =>
        rw [outcome] at recorded
        rcases recorded with ⟨after, ran, piece⟩
        have document : after.document = w.document := congrArg Workpiece.document piece
        have files : after.files = w.files := congrArg Workpiece.files piece
        have provided : after.providedImport? = w.providedImport? :=
          congrArg Workpiece.providedImport? piece
        have rest := ih { after with document := { after.document with intermediate? := some next } }
        have first : (documentPasses phase (p :: ps)).run w = (documentPasses phase ps).run
            { after with document := { after.document with intermediate? := some next } } := by
          rw [documentPasses, run_bind_ok (run_require_some read), run_get_bind, run_bind_ok ran,
            run_bind_ok (run_update _ after)]
        dsimp only at rest ⊢
        rw [document] at rest first
        cases remaining : Workpiece.documentAfter phase ps
            { w.document with intermediate? := some next } with
        | error e =>
          rw [remaining] at rest
          rcases rest with ⟨last, ranLast, filesLast, providedLast⟩
          exact ⟨last, first.trans ranLast, filesLast.trans files, providedLast.trans provided⟩
        | ok final =>
          rw [remaining] at rest
          rcases rest with ⟨last, ranLast, pieceLast⟩
          refine ⟨last, first.trans ranLast, pieceLast.trans ?_⟩
          change Workpiece.mk final after.files after.providedImport? = _
          rw [files, provided]
          rfl

/-! ## Phases -/

def quiet (outcome : Except PipelineError Workpiece) : Except PipelineError (Unit × Workpiece) :=
  outcome.map fun piece => ((), piece)

theorem quiet_bind (x : Except PipelineError α) (f : α → Except PipelineError Workpiece) :
    quiet (x >>= f) = x >>= fun a => quiet (f a) := by
  cases x <;> rfl

/-- An update of the document is all that follows. -/
theorem does_update (f : CodeDocument → CodeDocument) (w : World) :
    Does (update f) w (.ok ((), { w.workpiece with document := f w.document })) :=
  ⟨_, run_update f w, rfl⟩

theorem does_passes (phase : Phase) (ps : List (Pass DocumentAction)) (w : World) :
    Does (documentPasses phase ps) w
      (quiet (w.workpiece.withDocument (Workpiece.documentAfter phase ps w.document))) := by
  have passes := does_documentPasses phase ps w
  cases outcome : Workpiece.documentAfter phase ps w.document with
  | error e =>
    rw [outcome] at passes
    exact passes
  | ok document =>
    rw [outcome] at passes
    exact passes

theorem does_get_bind {f : World → Action α} {w : World}
    {outcome : Except PipelineError (α × Workpiece)} (does : Does (f w) w outcome) :
    Does (get >>= f) w outcome := does

theorem does_providedImport (f : Features) (kind : FileKind) (w : World) :
    Does (providedImport f kind) w (.ok (w.workpiece.provide f kind)) := by
  rcases w with ⟨document, files, provided?, tracer, journal, events⟩
  unfold providedImport Workpiece.provide
  cases f.providedImport?.bind (· kind) with
  | none => exact ⟨_, rfl, rfl⟩
  | some i =>
    cases provided? with
    | some file => exact ⟨_, rfl, rfl⟩
    | none =>
      refine does_get_bind ?_
      change Does (match (files.add i.path i.content .inMemory).1.get? files.size with
        | some file => _
        | none => _) _ _
      rw [FileSet.get?_add]
      exact ⟨_, rfl, rfl⟩

theorem does_parsing (e : Engine) (w : World) :
    Does (Action.parsing e) w (quiet (Phase.parsing.effect e w.workpiece)) := by
  unfold Action.parsing Phase.effect
  rw [quiet_bind]
  refine does_require fun source read => does_get_bind ?_
  change Does (update _ >>= fun _ => match (Workpiece.parserOptions e w.document).conflict? with
      | some c => throw (PipelineError.parserOptions c)
      | none => _) w (quiet (match (Workpiece.parserOptions e w.document).conflict? with
      | some c => _
      | none => _))
  cases (Workpiece.parserOptions e w.document).conflict? with
  | some c => exact ⟨_, rfl, rfl, rfl⟩
  | none =>
    have provides : Does (providedImport e.features w.document.fileKind)
        { w with document := { w.document with
            parserOptions? := some (Workpiece.parserOptions e w.document) } }
        (.ok ((w.workpiece.provide e.features w.document.fileKind).1,
          { (w.workpiece.provide e.features w.document.fileKind).2 with
            document := { w.document with
              parserOptions? := some (Workpiece.parserOptions e w.document) } })) := by
      rw [← Workpiece.provide_withDocument]
      exact does_providedImport e.features w.document.fileKind _
    have unchanged := Workpiece.document_provide w.workpiece e.features w.document.fileKind
    change Does _ w (quiet (.ok { (w.workpiece.provide e.features w.document.fileKind).2 with
      document := Workpiece.parsedDocument e
        (w.workpiece.provide e.features w.document.fileKind).2.document source
        (w.workpiece.provide e.features w.document.fileKind).1 }))
    generalize w.workpiece.provide e.features w.document.fileKind = result
      at provides unchanged ⊢
    rcases provides with ⟨after, ran, piece⟩
    refine ⟨_, (run_bind_ok (run_update _ w)).trans
      ((run_bind_ok ran).trans (run_update _ after)), ?_⟩
    rw [unchanged]
    have document : after.document = _ := congrArg Workpiece.document piece
    have files : after.files = _ := congrArg Workpiece.files piece
    have known : after.providedImport? = _ := congrArg Workpiece.providedImport? piece
    change Workpiece.mk _ after.files after.providedImport? = _
    rw [document, files, known]
    rfl

theorem does_syntaxTree (e : Engine) (w : World) :
    Does (Action.syntaxTree e) w (quiet (Phase.syntaxTree.effect e w.workpiece)) := by
  unfold Action.syntaxTree Phase.effect
  rw [quiet_bind]
  refine does_require fun tree read => ?_
  rw [quiet_bind]
  have passes := does_syntaxPasses e.features.syntaxPasses.ordered tree w
  cases outcome : Workpiece.treeAfter e.features.syntaxPasses.ordered tree with
  | error err =>
    rw [outcome] at passes
    rcases passes with ⟨after, ran, files, provided⟩
    exact ⟨after, run_bind_error ran, files, provided⟩
  | ok next =>
    rw [outcome] at passes
    rcases passes with ⟨after, ran, tree?, piece⟩
    refine ⟨_, (run_bind_ok ran).trans (run_update _ after), ?_⟩
    have document : after.document = { w.document with tree? := tree? } :=
      congrArg Workpiece.document piece
    have files : after.files = w.files := congrArg Workpiece.files piece
    have provided : after.providedImport? = w.providedImport? :=
      congrArg Workpiece.providedImport? piece
    change Workpiece.mk { after.document with tree? := some next } after.files
      after.providedImport? = _
    rw [document, files, provided]
    rfl

theorem does_helperDiscovery (e : Engine) (w : World) :
    Does (Action.helperDiscovery e) w (quiet (Phase.helperDiscovery.effect e w.workpiece)) := by
  unfold Action.helperDiscovery Phase.effect
  rw [quiet_bind]
  refine does_require fun tree readTree => ?_
  rw [quiet_bind]
  refine does_require fun imports readImports => does_get_bind ?_
  exact does_update _ w

theorem does_helperBinding (e : Engine) (w : World) :
    Does Action.helperBinding w (quiet (Phase.helperBinding.effect e w.workpiece)) := by
  unfold Action.helperBinding Phase.effect
  rw [quiet_bind]
  refine does_require fun tree readTree => ?_
  rw [quiet_bind]
  refine does_require fun scope readScope => ?_
  exact does_update _ w

theorem does_lowering (e : Engine) (w : World) :
    Does (Action.lowering e) w (quiet (Phase.lowering.effect e w.workpiece)) := by
  unfold Action.lowering Phase.effect
  rw [quiet_bind]
  refine does_require fun tree readTree => ?_
  rw [quiet_bind]
  refine does_require fun imports readImports => does_get_bind ?_
  exact does_update _ w

theorem does_documentClassifier (e : Engine) (w : World) :
    Does (Action.documentClassifier e) w
      (quiet (Phase.documentClassifier.effect e w.workpiece)) := by
  unfold Action.documentClassifier Phase.effect
  rw [quiet_bind]
  refine does_require fun d read => does_get_bind ?_
  dsimp only
  change Does (match e.features.classifiers.ordered.find? fun c => c.action.accepts w.document d with
    | none => pure ()
    | some c => _) w (quiet (match e.features.classifiers.ordered.find? fun c =>
      c.action.accepts w.document d with
    | none => .ok w.workpiece
    | some c => _))
  cases e.features.classifiers.ordered.find? fun c => c.action.accepts w.document d with
  | none => exact ⟨w, rfl, rfl⟩
  | some c =>
    have recorded := does_record c
      (c.action.run e.features.classifierSettings w.document d) w
    dsimp only
    rw [quiet_bind]
    change Does _ w (Workpiece.passed c
      (c.action.run e.features.classifierSettings w.document d) >>= _)
    cases outcome : Workpiece.passed c
        (c.action.run e.features.classifierSettings w.document d) with
    | error err =>
      rw [outcome] at recorded
      rcases recorded with ⟨after, ran, files, provided⟩
      exact ⟨after, run_bind_error ran, files, provided⟩
    | ok next =>
      rw [outcome] at recorded
      rcases recorded with ⟨after, ran, piece⟩
      refine ⟨_, (run_bind_ok ran).trans (run_update _ after), ?_⟩
      change { after.workpiece with
        document := { after.workpiece.document with intermediate? := some next } } = _
      rw [piece]

theorem does_directiveClassifier (e : Engine) (w : World) :
    Does (Action.directiveClassifier e) w
      (quiet (Phase.directiveClassifier.effect e w.workpiece)) := by
  unfold Action.directiveClassifier Phase.effect
  rw [quiet_bind]
  exact does_require fun d read => does_passes .directiveClassifier _ w

theorem does_optimization (e : Engine) (w : World) :
    Does (Action.optimization e) w (quiet (Phase.optimization.effect e w.workpiece)) := by
  unfold Action.optimization Phase.effect
  rw [quiet_bind]
  exact does_require fun d read => does_passes .optimization _ w

theorem does_targetLowering (e : Engine) (w : World) :
    Does (Action.targetLowering e) w (quiet (Phase.targetLowering.effect e w.workpiece)) := by
  unfold Action.targetLowering Phase.effect
  rw [quiet_bind]
  refine does_require fun d readIntermediate => ?_
  rw [quiet_bind]
  refine does_require fun options readOptions => ?_
  dsimp only
  cases e.target.write options d with
  | error cause => exact ⟨w, rfl, rfl, rfl⟩
  | ok output => exact does_update _ w

theorem does_custom (e : Engine) (c : CustomPhase) (w : World) :
    Does (Action.custom e c) w (quiet (c.effect e w.workpiece)) := by
  unfold Action.custom CustomPhase.effect
  refine does_get_bind ?_
  change Does _ w (quiet (match c.run e.configuration e.features w.document with
    | (_, some cause) => _
    | (document, none) => _))
  rcases c.run e.configuration e.features w.document with ⟨document, cause?⟩
  cases cause? with
  | some cause => exact ⟨_, rfl, rfl, rfl⟩
  | none => exact ⟨_, rfl, rfl⟩

end Action

/-- Each of the nine phases does what its effect says. -/
theorem Phase.does_effect (e : Engine) (p : Phase) (w : World) :
    (p.execute e).Does w (Action.quiet (p.effect e w.workpiece)) := by
  cases p with
  | parsing => exact Action.does_parsing e w
  | syntaxTree => exact Action.does_syntaxTree e w
  | helperDiscovery => exact Action.does_helperDiscovery e w
  | helperBinding => exact Action.does_helperBinding e w
  | lowering => exact Action.does_lowering e w
  | documentClassifier => exact Action.does_documentClassifier e w
  | directiveClassifier => exact Action.does_directiveClassifier e w
  | optimization => exact Action.does_optimization e w
  | targetLowering => exact Action.does_targetLowering e w

/-- Every phase does what its effect says. -/
theorem Stage.does_effect (e : Engine) (s : Stage) (w : World) :
    (s.execute e).Does w (Action.quiet (s.effect e w.workpiece)) := by
  cases s with
  | phase p => exact p.does_effect e w
  | custom c => exact Action.does_custom e c w

/-! ## Runs -/

namespace World

/-- A step that a phase completes. -/
theorem step_of_effect_ok {e : Engine} {s : Stage} {w : World} {piece : Workpiece}
    (effect : s.effect e w.workpiece = .ok piece) (parent : Trace.OpenSpan) :
    ∃ after, w.step e parent s = (after, none) ∧ after.workpiece = piece := by
  have does := s.does_effect e { w.observe s .started with
    tracer := ((w.observe s .started).tracer.begin .phase s.name parent.id).1 }
  change (s.execute e).Does _ (Action.quiet (s.effect e w.workpiece)) at does
  rw [effect] at does
  rcases does with ⟨after, ran, same⟩
  unfold step
  dsimp only
  rw [ran]
  exact ⟨_, rfl, same⟩

/-- A step that a phase does not complete. -/
theorem step_of_effect_error {e : Engine} {s : Stage} {w : World} {err : PipelineError}
    (effect : s.effect e w.workpiece = .error err) (parent : Trace.OpenSpan) :
    ∃ after, w.step e parent s = (after, some err) ∧ after.files = w.files
      ∧ after.providedImport? = w.providedImport? := by
  have does := s.does_effect e { w.observe s .started with
    tracer := ((w.observe s .started).tracer.begin .phase s.name parent.id).1 }
  change (s.execute e).Does _ (Action.quiet (s.effect e w.workpiece)) at does
  rw [effect] at does
  rcases does with ⟨after, ran, files, provided⟩
  unfold step
  dsimp only
  rw [ran]
  exact ⟨_, rfl, files, provided⟩

/-- Phases that complete without being cancelled make of the workpiece what their effects say. -/
theorem steps_of_through_ok {e : Engine} {parent : Trace.OpenSpan} (ss : List Stage) :
    ∀ {w : World} {piece : Workpiece} (executed : Nat),
      Workpiece.through e ss w.workpiece = .ok piece →
      ∃ after, w.steps e parent none executed ss = (after, none) ∧ after.workpiece = piece := by
  induction ss with
  | nil =>
    intro w piece executed done
    cases done
    exact ⟨_, rfl, rfl⟩
  | cons s ss ih =>
    intro w piece executed done
    cases effect : s.effect e w.workpiece with
    | error err =>
      rw [Workpiece.through, effect] at done
      cases done
    | ok next =>
      rw [Workpiece.through, effect] at done
      rcases step_of_effect_ok effect parent with ⟨after, stepped, same⟩
      rw [← same] at done
      rcases ih (executed + 1) done with ⟨last, ran, final⟩
      refine ⟨last, ?_, final⟩
      rw [steps, stepped]
      exact ran

/-- The first phase that does not complete ends a run with its error. -/
theorem steps_of_through_error {e : Engine} {parent : Trace.OpenSpan} (ss : List Stage) :
    ∀ {w : World} {err : PipelineError} (executed : Nat),
      Workpiece.through e ss w.workpiece = .error err →
      ∃ after completed s rest piece, w.steps e parent none executed ss = (after, some err)
        ∧ ss = completed ++ s :: rest ∧ Workpiece.through e completed w.workpiece = .ok piece
        ∧ s.effect e piece = .error err ∧ after.files = piece.files
        ∧ after.providedImport? = piece.providedImport? := by
  induction ss with
  | nil => intro w err executed failed; cases failed
  | cons s ss ih =>
    intro w err executed failed
    cases effect : s.effect e w.workpiece with
    | error other =>
      rw [Workpiece.through, effect] at failed
      cases failed
      rcases step_of_effect_error effect parent with ⟨after, stepped, files, provided⟩
      refine ⟨{ after with tracer := after.tracer.finish parent "failed" }, [], s, ss, w.workpiece,
        ?_, rfl, rfl, effect, files, provided⟩
      rw [steps, stepped]
      rfl
    | ok next =>
      rw [Workpiece.through, effect] at failed
      rcases step_of_effect_ok effect parent with ⟨after, stepped, same⟩
      rw [← same] at failed
      rcases ih (executed + 1) failed with
        ⟨last, completed, t, rest, piece, ran, split, through, refused, files, provided⟩
      refine ⟨last, s :: completed, t, rest, piece, ?_, congrArg (s :: ·) split, ?_, refused, files,
        provided⟩
      · rw [steps, stepped]
        exact ran
      · rw [Workpiece.through, effect, ← same]
        exact through

/-- A run that ends without an error, cancelled or not, has taken its workpiece through all
phases. -/
theorem through_of_steps {e : Engine} {parent : Trace.OpenSpan} {cancelAt? : Option Nat}
    (ss : List Stage) :
    ∀ {w after : World} {executed : Nat}, w.steps e parent cancelAt? executed ss = (after, none) →
      Workpiece.through e ss w.workpiece = .ok after.workpiece := by
  induction ss with
  | nil =>
    intro w after executed ran
    cases ran
    rfl
  | cons s ss ih =>
    intro w after executed ran
    rw [steps] at ran
    split at ran
    · cases ran
    · cases effect : s.effect e w.workpiece with
      | error err =>
        rcases step_of_effect_error effect parent with ⟨next, stepped, -, -⟩
        rw [stepped] at ran
        cases ran
      | ok piece =>
        rcases step_of_effect_ok effect parent with ⟨next, stepped, same⟩
        rw [stepped] at ran
        rw [Workpiece.through, effect, ← same]
        exact ih ran

theorem through_of_run {e : Engine} {w after : World} {parent : Nat} {cancelAt? : Option Nat}
    (ran : w.run e parent cancelAt? = (after, none)) :
    Workpiece.through e e.phases w.workpiece = .ok after.workpiece := by
  unfold run at ran
  exact through_of_steps e.phases (w := { w with tracer := (w.tracer.begin .document _ parent).1 })
    ran

end World

end TemplateCompiler
