import TemplateCompiler.Proofs.PipelineRun

/-!
# What executing a phase leaves alone

A phase that fails leaves the world as its passes before the failure have left it, so a statement
about every execution cannot go through what a phase computes.  It goes through the moves that
phases are made of.  There are few: noting and tracing a pass, filling a slot that a phase produces,
settling the options of the document, and adding the import that the engine provides to the files.

A relation between worlds that holds across each of these moves holds across every execution of
each of the nine phases, whether it completes or fails.  Nothing is assumed about the passes and the
writer of the engine.
-/

namespace TemplateCompiler

/-- A document without the artifacts that phases make of it.  The options stay: they may have been
set. -/
def CodeDocument.unprocessed (d : CodeDocument) : CodeDocument :=
  { d with tree? := none, importTrees? := none, scope? := none, intermediate? := none,
           output? := none }

/-- A relation holds across every move of a phase.  The moves are the ways in which a phase changes
the world, so that a stable relation holds between the world before a run and the one behind it. -/
structure Engine.Stable (e : Engine) (R : World → World → Prop) : Prop where
  refl : ∀ w, R w w
  trans : ∀ {u v w}, R u v → R v w → R u w
  traced : ∀ w tracer journal, R w { w with tracer, journal }
  worked : ∀ w doc, doc.unprocessed = w.document.unprocessed → R w { w with document := doc }
  parserOptions : ∀ w, R w { w with document := { w.document with
    parserOptions? := some (Workpiece.parserOptions e w.document) } }
  codeOptions : ∀ w, R w { w with document := { w.document with
    codeOptions? := some (Workpiece.codeOptions e w.document) } }
  provided : ∀ w i, e.features.providedImport?.bind (· w.document.fileKind) = some i →
    w.providedImport? = none → R w { w with
      files := (w.files.add i.path i.content .inMemory).1
      providedImport? := some (.ofContent w.files.size i.path i.content .inMemory) }

namespace Action

variable {α β : Type} {e : Engine} {R : World → World → Prop}

/-- A relation holds between a world and what an action makes of it. -/
def Leads (R : World → World → Prop) (x : Action α) (w : World) : Prop := R w (x.run w).2

/-! ## Moves -/

theorem leads_get {f : World → Action β} {w : World} (next : Leads R (f w) w) :
    Leads R (get >>= f) w := next

section

variable (stable : e.Stable R)

include stable

theorem Leads.bind {x : Action α} {f : α → Action β} {w : World} (first : Leads R x w)
    (next : ∀ a after, x.run w = (.ok a, after) → Leads R (f a) after) : Leads R (x >>= f) w := by
  cases ran : x.run w with
  | mk outcome after =>
    unfold Leads at first ⊢
    rw [ran] at first
    cases outcome with
    | ok a =>
      rw [run_bind_ok ran]
      exact stable.trans first (next a after ran)
    | error err =>
      rw [run_bind_error ran]
      exact first

theorem leads_require {phase : Phase} {artifact : Artifact} {slot : CodeDocument → Option α}
    {f : α → Action β} {w : World} (next : ∀ a, Leads R (f a) w) :
    Leads R (require phase artifact slot >>= f) w := by
  unfold Leads
  cases read : slot w.document with
  | none =>
    rw [run_bind_error (run_require_none read)]
    exact stable.refl w
  | some a =>
    rw [run_bind_ok (run_require_some read)]
    exact next a

theorem leads_record (p : Pass α) (outcome : Except Text β) (w : World) :
    Leads R (record p outcome) w := by
  cases outcome with
  | ok b => exact stable.traced w _ _
  | error cause => exact stable.traced w _ _

theorem leads_update {f : CodeDocument → CodeDocument} {g : Unit → Action β} {w : World}
    (moves : R w { w with document := f w.document })
    (next : Leads R (g ()) { w with document := f w.document }) : Leads R (update f >>= g) w :=
  stable.trans moves next

theorem leads_syntaxPasses (ps : List (Pass SyntaxAction)) :
    ∀ tree w, Leads R (syntaxPasses ps tree) w := by
  induction ps with
  | nil => exact fun _ w => stable.refl w
  | cons p ps ih =>
    intro tree w
    apply leads_update stable (stable.worked w _ rfl)
    apply Leads.bind stable (leads_record stable p _ _)
    intro next after _
    exact ih next after

theorem leads_documentPasses (phase : Phase) (ps : List (Pass DocumentAction)) :
    ∀ w, Leads R (documentPasses phase ps) w := by
  induction ps with
  | nil => exact stable.refl
  | cons p ps ih =>
    intro w
    apply leads_require stable
    intro d
    apply Leads.bind stable (leads_record stable p _ w)
    intro next middle _
    apply leads_update stable (stable.worked middle _ rfl)
    exact ih _

theorem leads_providedImport (w : World) :
    Leads R (providedImport e.features w.document.fileKind) w := by
  unfold providedImport
  cases registered : e.features.providedImport?.bind (· w.document.fileKind) with
  | none => exact stable.refl w
  | some i =>
    apply leads_get
    dsimp only
    cases known : w.providedImport? with
    | some file => exact stable.refl w
    | none =>
      have added : (w.files.add i.path i.content .inMemory).1.get?
          (w.files.add i.path i.content .inMemory).2 =
          some (.ofContent w.files.size i.path i.content .inMemory) :=
        FileSet.get?_add w.files i.path i.content .inMemory
      dsimp only
      rw [added]
      exact stable.provided w i registered known

/-! ## Phases -/

theorem leads_parsing (w : World) : Leads R (parsing e) w := by
  apply leads_require stable
  intro source
  apply leads_get
  apply leads_update stable (stable.parserOptions w)
  dsimp only
  split
  · exact stable.refl _
  · apply Leads.bind stable (leads_providedImport stable _)
    intro provided after _
    exact stable.worked after _ rfl

theorem leads_documentClassifier (w : World) : Leads R (documentClassifier e) w := by
  apply leads_require stable
  intro d
  apply leads_get
  dsimp only
  cases e.features.classifiers.ordered.find? fun c => c.action.accepts w.document d with
  | none => exact stable.refl w
  | some c =>
    apply Leads.bind stable (leads_record stable c _ w)
    intro next after _
    exact stable.worked after _ rfl

theorem leads_lowering (w : World) : Leads R (lowering e) w := by
  apply leads_require stable
  intro tree
  apply leads_require stable
  intro imports
  exact stable.trans (stable.codeOptions w) (stable.worked _ _ rfl)

end

end Action

/-- A relation that holds across every move holds across every execution. -/
theorem Phase.leads_execute {e : Engine} {R : World → World → Prop} (stable : e.Stable R)
    (p : Phase) (w : World) : (p.execute e).Leads R w := by
  open TemplateCompiler.Action in
  cases p with
  | parsing => exact leads_parsing stable w
  | syntaxTree =>
    apply leads_require stable
    intro tree
    apply Leads.bind stable (leads_syntaxPasses stable _ tree w)
    intro next after _
    exact stable.worked after _ rfl
  | helperDiscovery =>
    apply leads_require stable
    intro tree
    apply leads_require stable
    intro imports
    exact stable.worked w _ rfl
  | helperBinding =>
    apply leads_require stable
    intro tree
    apply leads_require stable
    intro scope
    exact stable.worked w _ rfl
  | lowering => exact leads_lowering stable w
  | documentClassifier => exact leads_documentClassifier stable w
  | directiveClassifier =>
    apply leads_require stable
    intro d
    exact leads_documentPasses stable _ _ w
  | optimization =>
    apply leads_require stable
    intro d
    exact leads_documentPasses stable _ _ w
  | targetLowering =>
    apply leads_require stable
    intro d
    apply leads_require stable
    intro options
    cases e.target.write options d with
    | error cause => exact stable.refl w
    | ok output => exact stable.worked w _ rfl

end TemplateCompiler
