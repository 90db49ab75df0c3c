import Mathlib.Logic.Relation
import TemplateCompiler.Proofs.PhaseSupply

/-!
# Runs on a document that was run before

A document keeps what a run has made of it.  Options stay once they are settled, trees are replaced
by later ones, and the import that an engine provides joins the files only once.  A run that was
cancelled or has failed leaves slots filled that the next run finds.

None of this shows in a later run that completes.  What runs keep of a document is what it was
given and the options that it has settled, or would settle, on.  Two documents that agree on this
agree, phase by phase, on every slot that a phase of the next run reads, because each slot that is
read was filled in the same run.  So the run leaves the document of a run that is the first.
-/

namespace TemplateCompiler

open IR

/-! ## Engines that are composed -/

/-- An assembly with the default phases and features, extended by dialects, by directives and by the
tag helpers of a project. -/
inductive Assembly.Composed (c : Configuration) : Assembly → Prop where
  | standard : Composed c (.standard c)
  | shared {a : Assembly} : Composed c a → Composed c a.addShared
  | views {a : Assembly} (withImports : Bool) : Composed c a → Composed c (a.addViews withImports)
  | components {a : Assembly} : Composed c a → Composed c a.addComponents
  | directives {a : Assembly} (ds : List DirectiveDescriptor) :
    Composed c a → Composed c (a.addDirectives ds)
  | helpers {a : Assembly} (helpers? : Option (List TagHelper)) :
    Composed c a → Composed c { a with features := { a.features with helpers? } }

namespace Assembly.Composed

variable {c : Configuration} {a : Assembly}

theorem isRegular (composed : a.Composed c) : a.features.IsRegular := by
  induction composed with
  | standard => exact isRegular_standard c
  | shared _ ih => exact isRegular_addShared ih
  | views withImports _ ih => exact isRegular_addViews ih withImports
  | components _ ih => exact isRegular_addComponents ih
  | directives ds _ ih => exact isRegular_addDirectives ih ds
  | helpers helpers? _ ih => exact { ih with }

theorem phases (composed : a.Composed c) : a.phases = Stage.all := by
  induction composed with
  | standard => rfl
  | shared _ ih => exact ih
  | views withImports _ ih => cases withImports <;> exact ih
  | components _ ih => exact ih
  | directives ds _ ih => exact ih
  | helpers helpers? _ ih => exact ih

end Assembly.Composed

/-! ## Agreement -/

/-- Two documents hold the same artifact, or both have none of this kind. -/
def CodeDocument.SameIn (d other : CodeDocument) : Artifact → Prop
  | .source => d.source? = other.source?
  | .parserOptions => d.parserOptions? = other.parserOptions?
  | .codeOptions => d.codeOptions? = other.codeOptions?
  | .tree => d.tree? = other.tree?
  | .importTrees => d.importTrees? = other.importTrees?
  | .helperScope => d.scope? = other.scope?
  | .intermediate => d.intermediate? = other.intermediate?
  | .output => d.output? = other.output?

/-- Two workpieces agree for an engine: their documents were given the same, they settle on the same
options, the engine provides the same imports, and they hold the same of some artifacts. -/
structure Workpiece.Agree (e : Engine) (artifacts : List Artifact) (w v : Workpiece) : Prop where
  given : w.document.given = v.document.given
  parserOptions : Workpiece.parserOptions e w.document = Workpiece.parserOptions e v.document
  codeOptions : Workpiece.codeOptions e w.document = Workpiece.codeOptions e v.document
  provided : (w.provide e.features w.document.fileKind).1 =
    (v.provide e.features v.document.fileKind).1
  slots : ∀ a ∈ artifacts, w.document.SameIn v.document a

namespace Workpiece

variable {e : Engine} {artifacts : List Artifact} {u v w : Workpiece}

namespace Agree

theorem refl (w : Workpiece) : Agree e artifacts w w where
  given := rfl
  parserOptions := rfl
  codeOptions := rfl
  provided := rfl
  slots a _ := by cases a <;> rfl

theorem symm (agree : Agree e artifacts w v) : Agree e artifacts v w where
  given := agree.given.symm
  parserOptions := agree.parserOptions.symm
  codeOptions := agree.codeOptions.symm
  provided := agree.provided.symm
  slots a member := by
    have same := agree.slots a member
    cases a <;> exact Eq.symm same

theorem trans (first : Agree e artifacts u v) (second : Agree e artifacts v w) :
    Agree e artifacts u w where
  given := first.given.trans second.given
  parserOptions := first.parserOptions.trans second.parserOptions
  codeOptions := first.codeOptions.trans second.codeOptions
  provided := first.provided.trans second.provided
  slots a member := by
    have left := first.slots a member
    have right := second.slots a member
    cases a <;> exact Eq.trans left right

theorem source? (agree : Agree e artifacts w v) : w.document.source? = v.document.source? :=
  (congrArg CodeDocument.source? agree.given :)

theorem imports (agree : Agree e artifacts w v) : w.document.imports = v.document.imports :=
  (congrArg CodeDocument.imports agree.given :)

theorem fileKind (agree : Agree e artifacts w v) : w.document.fileKind = v.document.fileKind :=
  (congrArg CodeDocument.fileKind agree.given :)

theorem helpers? (agree : Agree e artifacts w v) : w.document.helpers? = v.document.helpers? :=
  (congrArg CodeDocument.helpers? agree.given :)

theorem digest (agree : Agree e artifacts w v) : w.document.digest = v.document.digest :=
  (congrArg CodeDocument.digest agree.given :)

end Agree

/-- What an engine provides does not depend on the document. -/
theorem fst_provide_withDocument (w : Workpiece) (f : Features) (kind : FileKind)
    (document : CodeDocument) :
    ({ w with document }.provide f kind).1 = (w.provide f kind).1 := by
  rw [provide_withDocument]

/-- Once an engine has provided an import, it provides the same one. -/
theorem fst_provide_provide (w : Workpiece) (f : Features) (kind : FileKind) :
    ((w.provide f kind).2.provide f kind).1 = (w.provide f kind).1 := by
  rcases w with ⟨document, files, provided?⟩
  unfold provide
  cases f.providedImport?.bind (· kind) with
  | none => rfl
  | some i => cases provided? <;> rfl

/-- A document that was made of another one by filling slots agrees with it. -/
theorem agree_of_unprocessed (regular : e.features.IsRegular) {document : CodeDocument}
    (same : document.unprocessed = w.document.unprocessed) :
    Agree e [] w { w with document } where
  given := (congrArg CodeDocument.given same :).symm
  parserOptions := by
    have known : document.parserOptions? = w.document.parserOptions? :=
      (congrArg CodeDocument.parserOptions? same :)
    have given : document.given = w.document.given := (congrArg CodeDocument.given same :)
    exact regular.parserOptions_congr given.symm known.symm
  codeOptions := by
    have known : document.codeOptions? = w.document.codeOptions? :=
      (congrArg CodeDocument.codeOptions? same :)
    unfold Workpiece.codeOptions
    rw [known]
  provided := by
    have kind : document.fileKind = w.document.fileKind :=
      (congrArg CodeDocument.fileKind same :)
    rw [kind]
    exact (w.fst_provide_withDocument e.features w.document.fileKind document).symm
  slots _ member := by cases member

end Workpiece

/-! ## What runs keep -/

namespace World

variable {e : Engine}

/-- Agreement on nothing but what a document was given and settles on holds across every move of a
phase. -/
theorem stable_agree (regular : e.features.IsRegular) :
    e.Stable fun w v => Workpiece.Agree e [] w.workpiece v.workpiece where
  refl w := Workpiece.Agree.refl _
  trans := Workpiece.Agree.trans
  traced w _ _ := Workpiece.Agree.refl _
  worked w doc same := Workpiece.agree_of_unprocessed (w := w.workpiece) regular same
  parserOptions w := {
    given := rfl
    parserOptions := rfl
    codeOptions := rfl
    provided := (w.workpiece.fst_provide_withDocument _ _ _).symm
    slots := fun _ member => by cases member }
  codeOptions w := {
    given := rfl
    parserOptions := regular.parserOptions_congr rfl rfl
    codeOptions := rfl
    provided := (w.workpiece.fst_provide_withDocument _ _ _).symm
    slots := fun _ member => by cases member }
  provided w i registered absent := {
    given := rfl
    parserOptions := rfl
    codeOptions := rfl
    provided := by
      unfold Workpiece.provide World.workpiece
      dsimp only
      rw [registered, absent]
    slots := fun _ member => by cases member }

/-- A step keeps what a document was given and settles on, whether the phase completes or fails. -/
theorem step_agree (regular : e.features.IsRegular) (w : World) (parent : Trace.OpenSpan)
    (p : Phase) :
    Workpiece.Agree e [] w.workpiece (w.step e parent (.phase p)).1.workpiece := by
  have leads := p.leads_execute (stable_agree regular) (w.entered parent (.phase p))
  have executed : ∃ outcome left,
      (p.execute e).run (w.entered parent (.phase p)) = (outcome, left) := ⟨_, _, rfl⟩
  rcases executed with ⟨outcome, left, ran⟩
  rcases step_of_execute (s := .phase p) ran with ⟨last, stepped, same, -⟩
  unfold Action.Leads at leads
  rw [ran] at leads
  rw [stepped, same]
  exact leads

theorem steps_agree (regular : e.features.IsRegular) (parent : Trace.OpenSpan)
    (cancelAt? : Option Nat) (ps : List Phase) :
    ∀ (w : World) (executed : Nat),
      Workpiece.Agree e [] w.workpiece
        (w.steps e parent cancelAt? executed (ps.map .phase)).1.workpiece := by
  induction ps with
  | nil =>
    intro w executed
    exact Workpiece.Agree.refl _
  | cons p ps ih =>
    intro w executed
    have first := step_agree regular w parent p
    rw [List.map_cons, steps]
    split
    · exact Workpiece.Agree.refl _
    · cases stepped : w.step e parent (.phase p) with
      | mk next err? =>
        rw [stepped] at first
        cases err? with
        | some err => exact first
        | none => exact first.trans (ih next (executed + 1))

/-- One world is what a run of an engine has left of the other, whether the run was complete, was
cancelled or has failed. -/
def RanTo (e : Engine) (w v : World) : Prop :=
  ∃ parent cancelAt?, (w.run e parent cancelAt?).1 = v

theorem run_agree (regular : e.features.IsRegular) (phases : e.phases = Stage.all) (w : World)
    (parent : Nat) (cancelAt? : Option Nat) :
    Workpiece.Agree e [] w.workpiece (w.run e parent cancelAt?).1.workpiece := by
  rcases w.run_eq_steps e parent cancelAt? with ⟨tracer, span, opened⟩
  rw [opened, phases]
  exact steps_agree regular span cancelAt? Phase.all { w with tracer } 0

/-- However often an engine has run, a document keeps what it was given and settles on. -/
theorem agree_of_runs (regular : e.features.IsRegular) (phases : e.phases = Stage.all)
    {w v : World} (runs : Relation.ReflTransGen (RanTo e) w v) :
    Workpiece.Agree e [] w.workpiece v.workpiece := by
  induction runs with
  | refl => exact Workpiece.Agree.refl _
  | tail _ last ih =>
    rcases last with ⟨parent, cancelAt?, rfl⟩
    exact ih.trans (run_agree regular phases _ parent cancelAt?)

end World

/-! ## What phases read -/

namespace Phase

/-- The artifacts that a phase reads, besides what the document was given. -/
def reads : Phase → List Artifact
  | parsing => []
  | syntaxTree => [.tree]
  | helperDiscovery | lowering => [.tree, .importTrees]
  | helperBinding => [.tree, .helperScope]
  | documentClassifier | directiveClassifier | optimization => [.intermediate]
  | targetLowering => [.intermediate, .codeOptions]

/-- Each phase reads only what is known or what a phase before it has produced. -/
def readsKnown (known : List Artifact) : List Phase → Bool
  | [] => true
  | p :: ps => p.reads.all known.contains && readsKnown (known ++ p.produces) ps

theorem readsKnown_all : readsKnown [] all = true := rfl

end Phase

namespace Workpiece

variable {e : Engine} {artifacts : List Artifact} {v w next : Workpiece}

/-- A slot that was read held something. -/
theorem slot_bind_ok {α β : Type} {phase : Phase} {artifact : Artifact}
    {read : CodeDocument → Option α} {f : α → Except PipelineError β} {b : β}
    (done : (w.slot phase artifact read >>= f) = .ok b) :
    ∃ a, read w.document = some a ∧ f a = .ok b := by
  cases filled : read w.document with
  | none =>
    unfold slot at done
    rw [filled] at done
    cases done
  | some a =>
    rw [slot_bind filled] at done
    exact ⟨a, rfl, done⟩

/-- Two documents in the places of documents that agree, if they were given the same, settle on the
same options and hold the same of what is asked for. -/
theorem Agree.withDocuments (agree : Agree e artifacts w v) {left right : CodeDocument}
    {asked : List Artifact} (fromLeft : left.given = w.document.given)
    (fromRight : right.given = v.document.given)
    (parserOptions : Workpiece.parserOptions e left = Workpiece.parserOptions e right)
    (codeOptions : Workpiece.codeOptions e left = Workpiece.codeOptions e right)
    (slots : ∀ a ∈ asked, left.SameIn right a) :
    Agree e asked { w with document := left } { v with document := right } where
  given := (fromLeft.trans agree.given).trans fromRight.symm
  parserOptions := parserOptions
  codeOptions := codeOptions
  provided := by
    have kindLeft : left.fileKind = w.document.fileKind :=
      (congrArg CodeDocument.fileKind fromLeft :)
    have kindRight : right.fileKind = v.document.fileKind :=
      (congrArg CodeDocument.fileKind fromRight :)
    have onLeft := w.fst_provide_withDocument e.features w.document.fileKind left
    have onRight := v.fst_provide_withDocument e.features v.document.fileKind right
    dsimp only
    rw [kindLeft, kindRight]
    exact (onLeft.trans agree.provided).trans onRight.symm
  slots := slots

/-- Slots that two phases fill alike, in documents that agree on the rest. -/
theorem Agree.worked (regular : e.features.IsRegular) (agree : Agree e artifacts w v)
    {left right : CodeDocument} {asked : List Artifact}
    (fromLeft : left.unprocessed = w.document.unprocessed)
    (fromRight : right.unprocessed = v.document.unprocessed)
    (slots : ∀ a ∈ asked, left.SameIn right a) :
    Agree e asked { w with document := left } { v with document := right } := by
  have before : Agree e [] w v := { agree with slots := fun _ member => by cases member }
  have whole := ((agree_of_unprocessed regular fromLeft).symm.trans before).trans
    (agree_of_unprocessed regular fromRight)
  exact { whole with slots }

/-- Imports that an engine provides may join the files. -/
theorem Agree.provide (agree : Agree e artifacts w v) :
    Agree e artifacts (w.provide e.features w.document.fileKind).2
      (v.provide e.features v.document.fileKind).2 where
  given := by
    rw [document_provide, document_provide]
    exact agree.given
  parserOptions := by
    rw [document_provide, document_provide]
    exact agree.parserOptions
  codeOptions := by
    rw [document_provide, document_provide]
    exact agree.codeOptions
  provided := by
    rw [document_provide, document_provide, fst_provide_provide, fst_provide_provide]
    exact agree.provided
  slots := by
    rw [document_provide, document_provide]
    exact agree.slots

variable {p : Phase}

/-- A phase that works on the intermediate tree makes the same of the same tree. -/
theorem Agree.shaping (regular : e.features.IsRegular) (agree : Agree e artifacts w v)
    (shaping : p.isShaping = true) {d : Document} (lowered : w.document.intermediate? = some d)
    (same : v.document.intermediate? = some d) (effect : p.effect e w = .ok next) :
    ∃ other, p.effect e v = .ok other ∧ Agree e (artifacts ++ []) next other := by
  rcases regular.effect_shaping shaping with ⟨change, runs⟩
  rw [runs lowered] at effect
  cases effect
  refine ⟨_, runs same, agree.worked regular rfl rfl fun a member => ?_⟩
  have old := agree.slots a ((List.append_nil artifacts) ▸ member)
  rw [agree.given]
  cases a <;> first | exact old | rfl

/-! What one phase makes of a workpiece, it makes of every other one that agrees on what it reads. -/

theorem Agree.parsing (agree : Agree e artifacts w v) (effect : Phase.parsing.effect e w = .ok next) :
    ∃ other, Phase.parsing.effect e v = .ok other
      ∧ Agree e (artifacts ++ Phase.parsing.produces) next other := by
  rcases slot_bind_ok effect with ⟨source, given, parsed⟩
  cases honored : (Workpiece.parserOptions e w.document).conflict? with
  | some c =>
    rw [honored] at parsed
    cases parsed
  | none =>
    rw [ProjectEngine.effect_parsing given honored] at effect
    cases effect
    refine ⟨_, ProjectEngine.effect_parsing (agree.source?.symm.trans given)
      (agree.parserOptions ▸ honored), ?_⟩
    refine agree.provide.withDocuments ?_ ?_ agree.parserOptions agree.codeOptions ?_
    · rw [document_provide]
      rfl
    · rw [document_provide]
      rfl
    · unfold parsedDocument
      rw [agree.parserOptions, agree.provided, agree.imports]
      refine List.forall_mem_append.mpr ⟨fun a old => ?_, fun a new => ?_⟩
      · have same := agree.slots a old
        cases a <;> first | exact same | rfl
      · simp only [Phase.produces, List.mem_cons, List.not_mem_nil, or_false] at new
        rcases new with rfl | rfl | rfl <;> rfl

theorem Agree.syntaxTree (regular : e.features.IsRegular) (agree : Agree e artifacts w v)
    (tree : .tree ∈ artifacts) (effect : Phase.syntaxTree.effect e w = .ok next) :
    ∃ other, Phase.syntaxTree.effect e v = .ok other ∧ Agree e (artifacts ++ []) next other := by
  rcases slot_bind_ok effect with ⟨t, parsed, -⟩
  rcases regular.effect_syntaxTree with ⟨change, runs⟩
  rw [runs parsed] at effect
  cases effect
  refine ⟨_, runs ((agree.slots .tree tree).symm.trans parsed), agree.worked regular rfl rfl ?_⟩
  rw [List.append_nil]
  intro a member
  have old := agree.slots a member
  cases a <;> first | exact old | rfl

theorem Agree.discovery (regular : e.features.IsRegular) (agree : Agree e artifacts w v)
    (tree : .tree ∈ artifacts) (importTrees : .importTrees ∈ artifacts)
    (effect : Phase.helperDiscovery.effect e w = .ok next) :
    ∃ other, Phase.helperDiscovery.effect e v = .ok other
      ∧ Agree e (artifacts ++ Phase.helperDiscovery.produces) next other := by
  rcases slot_bind_ok effect with ⟨t, parsed, found⟩
  rcases slot_bind_ok found with ⟨ts, parsedImports, -⟩
  rw [effect_discovery parsed parsedImports] at effect
  cases effect
  refine ⟨_, effect_discovery ((agree.slots .tree tree).symm.trans parsed)
    ((agree.slots .importTrees importTrees).symm.trans parsedImports),
    agree.worked regular rfl rfl ?_⟩
  have found : discovered e w.document t ts = discovered e v.document t ts := by
    unfold discovered
    rw [agree.helpers?, agree.fileKind]
  rw [found]
  refine List.forall_mem_append.mpr ⟨fun a old => ?_, fun a new => ?_⟩
  · have same := agree.slots a old
    cases a <;> first | exact same | rfl
  · cases List.mem_singleton.mp new
    rfl

theorem Agree.binding (regular : e.features.IsRegular) (agree : Agree e artifacts w v)
    (tree : .tree ∈ artifacts) (helperScope : .helperScope ∈ artifacts)
    (effect : Phase.helperBinding.effect e w = .ok next) :
    ∃ other, Phase.helperBinding.effect e v = .ok other
      ∧ Agree e (artifacts ++ []) next other := by
  rcases slot_bind_ok effect with ⟨t, parsed, bound⟩
  rcases slot_bind_ok bound with ⟨scope, inScope, -⟩
  rw [ProjectEngine.effect_helperBinding parsed inScope] at effect
  cases effect
  refine ⟨_, ProjectEngine.effect_helperBinding ((agree.slots .tree tree).symm.trans parsed)
    ((agree.slots .helperScope helperScope).symm.trans inScope), agree.worked regular rfl rfl ?_⟩
  rw [List.append_nil]
  intro a member
  have old := agree.slots a member
  cases a <;> first | exact old | rfl

theorem Agree.lowering (regular : e.features.IsRegular) (agree : Agree e artifacts w v)
    (tree : .tree ∈ artifacts) (importTrees : .importTrees ∈ artifacts)
    (effect : Phase.lowering.effect e w = .ok next) :
    ∃ other, Phase.lowering.effect e v = .ok other
      ∧ Agree e (artifacts ++ Phase.lowering.produces) next other := by
  rcases slot_bind_ok effect with ⟨t, parsed, lowered⟩
  rcases slot_bind_ok lowered with ⟨ts, parsedImports, -⟩
  rw [ProjectEngine.effect_lowering parsed parsedImports] at effect
  cases effect
  refine ⟨_, ProjectEngine.effect_lowering ((agree.slots .tree tree).symm.trans parsed)
    ((agree.slots .importTrees importTrees).symm.trans parsedImports), ?_⟩
  have settled := agree.parserOptions
  rw [regular.parserOptions_eq, regular.parserOptions_eq] at settled
  refine agree.withDocuments rfl rfl ?_ agree.codeOptions ?_
  · rw [regular.parserOptions_eq, regular.parserOptions_eq]
    exact settled
  · unfold loweredDocument
    rw [agree.codeOptions, agree.digest]
    refine List.forall_mem_append.mpr ⟨fun a old => ?_, fun a new => ?_⟩
    · have same := agree.slots a old
      cases a <;> first | exact same | rfl
    · simp only [Phase.produces, List.mem_cons, List.not_mem_nil, or_false] at new
      rcases new with rfl | rfl <;> rfl

/-- What the writer was given and has made of it. -/
theorem of_effect_writing (effect : Phase.targetLowering.effect e w = .ok next) :
    ∃ d options output, w.document.intermediate? = some d
      ∧ w.document.codeOptions? = some options ∧ e.target.write options d = .ok output := by
  rcases slot_bind_ok effect with ⟨d, lowered, written⟩
  rcases slot_bind_ok written with ⟨options, set, done⟩
  cases outcome : e.target.write options d with
  | error cause =>
    rw [outcome] at done
    cases done
  | ok output => exact ⟨d, options, output, lowered, set, outcome⟩

theorem Agree.writing (regular : e.features.IsRegular) (agree : Agree e artifacts w v)
    (intermediate : .intermediate ∈ artifacts) (codeOptions : .codeOptions ∈ artifacts)
    (effect : Phase.targetLowering.effect e w = .ok next) :
    ∃ other, Phase.targetLowering.effect e v = .ok other
      ∧ Agree e (artifacts ++ Phase.targetLowering.produces) next other := by
  rcases of_effect_writing effect with ⟨d, options, output, lowered, set, written⟩
  rw [effect_writing lowered set written] at effect
  cases effect
  refine ⟨_, effect_writing ((agree.slots .intermediate intermediate).symm.trans lowered)
    ((agree.slots .codeOptions codeOptions).symm.trans set) written,
    agree.worked regular rfl rfl ?_⟩
  refine List.forall_mem_append.mpr ⟨fun a old => ?_, fun a new => ?_⟩
  · have same := agree.slots a old
    cases a <;> first | exact same | rfl
  · cases List.mem_singleton.mp new
    rfl

/-- A phase that completes on a workpiece completes on every other one that agrees on what the phase
reads.  The two then also agree on what it produces. -/
theorem effect_agree (regular : e.features.IsRegular) (agree : Agree e artifacts w v)
    (known : ∀ a ∈ p.reads, a ∈ artifacts) (effect : p.effect e w = .ok next) :
    ∃ other, p.effect e v = .ok other ∧ Agree e (artifacts ++ p.produces) next other := by
  cases p with
  | parsing => exact agree.parsing effect
  | syntaxTree => exact agree.syntaxTree regular (known _ (by decide)) effect
  | helperDiscovery =>
    exact agree.discovery regular (known _ (by decide)) (known _ (by decide)) effect
  | helperBinding =>
    exact agree.binding regular (known _ (by decide)) (known _ (by decide)) effect
  | lowering => exact agree.lowering regular (known _ (by decide)) (known _ (by decide)) effect
  | documentClassifier | directiveClassifier | optimization =>
    rcases slot_bind_ok effect with ⟨d, lowered, -⟩
    have same := (agree.slots .intermediate (known _ (by decide))).symm.trans lowered
    exact agree.shaping regular rfl lowered same effect
  | targetLowering =>
    exact agree.writing regular (known _ (by decide)) (known _ (by decide)) effect

/-- Phases that read only what is known complete alike on workpieces that agree on it. -/
theorem through_agree (regular : e.features.IsRegular) (ps : List Phase) :
    ∀ {artifacts : List Artifact} {w v next : Workpiece}, Agree e artifacts w v →
      Phase.readsKnown artifacts ps = true → through e (ps.map .phase) w = .ok next →
      ∃ other, through e (ps.map .phase) v = .ok other
        ∧ Agree e (artifacts ++ ps.flatMap Phase.produces) next other := by
  induction ps with
  | nil =>
    intro artifacts w v next agree known done
    cases done
    exact ⟨v, rfl, (List.append_nil artifacts).symm ▸ agree⟩
  | cons p ps ih =>
    intro artifacts w v next agree known done
    rcases Bool.and_eq_true_iff.mp known with ⟨first, rest⟩
    have reads : ∀ a ∈ p.reads, a ∈ artifacts :=
      fun a member => List.contains_iff_mem.mp (List.all_eq_true.mp first a member)
    cases effect : p.effect e w with
    | error err =>
      rw [List.map_cons, through, Stage.effect, effect] at done
      cases done
    | ok middle =>
      rw [List.map_cons, through_phase effect] at done
      rcases effect_agree regular agree reads effect with ⟨between, same, agrees⟩
      rcases ih agrees rest done with ⟨other, completed, final⟩
      refine ⟨other, (through_phase same).trans completed, ?_⟩
      rw [List.flatMap_cons, ← List.append_assoc]
      exact final

/-- Agreement on all that the nine phases produce is equality. -/
theorem Agree.document_eq (agree : Agree e (Phase.all.flatMap Phase.produces) w v) :
    w.document = v.document := by
  have parserOptions : w.document.parserOptions? = v.document.parserOptions? :=
    agree.slots .parserOptions (by decide)
  have codeOptions : w.document.codeOptions? = v.document.codeOptions? :=
    agree.slots .codeOptions (by decide)
  have tree : w.document.tree? = v.document.tree? := agree.slots .tree (by decide)
  have importTrees : w.document.importTrees? = v.document.importTrees? :=
    agree.slots .importTrees (by decide)
  have scope : w.document.scope? = v.document.scope? := agree.slots .helperScope (by decide)
  have intermediate : w.document.intermediate? = v.document.intermediate? :=
    agree.slots .intermediate (by decide)
  have output : w.document.output? = v.document.output? := agree.slots .output (by decide)
  have source := agree.source?
  have imports := agree.imports
  have kind := agree.fileKind
  have helpers := agree.helpers?
  cases left : w.document
  cases right : v.document
  simp only [left, right] at *
  subst_vars
  rfl

/-- What completes all phases has its code. -/
theorem written_of_through {w next : Workpiece} (done : through e Stage.all w = .ok next) :
    ∃ d output, next.document.intermediate? = some d ∧ next.document.output? = some output := by
  have split : Stage.all = Stage.all.dropLast ++ [.phase .targetLowering] := rfl
  rw [split, through_append] at done
  cases front : through e Stage.all.dropLast w with
  | error err =>
    rw [front] at done
    cases done
  | ok middle =>
    rw [front] at done
    have effect : Phase.targetLowering.effect e middle = .ok next :=
      (bind_pure (Phase.targetLowering.effect e middle)).symm.trans done
    rcases of_effect_writing effect with ⟨d, options, output, lowered, set, written⟩
    rw [effect_writing lowered set written] at effect
    cases effect
    exact ⟨d, output, lowered, rfl⟩

end Workpiece

namespace World

/-- A run that completes forgets the runs before it.  Whatever an engine has made of a document,
a run that completes leaves it as a run leaves the document that no phase has worked on.  That run
may take place before the others, after them or between them. -/
theorem run_forgets {c : Configuration} {a : Assembly} (composed : a.Composed c) {e : Engine}
    (built : a.engine = .ok e) {start before after other fresh : World}
    (earlier : Relation.ReflTransGen (RanTo e) start before) {parent : Nat}
    {cancelAt? : Option Nat} (ran : before.run e parent cancelAt? = (after, none))
    (elsewhere : Relation.ReflTransGen (RanTo e) start other)
    (files : fresh.files = other.files) (provided : fresh.providedImport? = other.providedImport?)
    (document : fresh.document = start.document.unprocessed) (root : Nat) :
    ∃ last d output, fresh.run e root = (last, none) ∧ last.document = after.document
      ∧ after.document.intermediate? = some d ∧ after.document.output? = some output := by
  have regular : e.features.IsRegular := by
    rcases ProjectEngine.engine_eq built with ⟨target, -, rfl⟩
    exact composed.isRegular
  have phases : e.phases = Stage.all := by
    rcases ProjectEngine.engine_eq built with ⟨target, -, rfl⟩
    exact composed.phases
  have whole := through_of_run ran
  rw [phases] at whole
  have same : fresh.workpiece = { other.workpiece with document := start.document.unprocessed } := by
    unfold World.workpiece
    rw [files, provided, document]
  have kept := agree_of_runs regular phases elsewhere
  have agree : Workpiece.Agree e [] other.workpiece fresh.workpiece := by
    rw [same]
    have own : Workpiece.Agree e [] other.workpiece other.workpiece := .refl _
    refine own.withDocuments rfl (kept.given : start.document.unprocessed.given = _) ?_ ?_ ?_
    · have unprocessed : Workpiece.parserOptions e start.document =
          Workpiece.parserOptions e start.document.unprocessed :=
        regular.parserOptions_congr rfl rfl
      exact kept.parserOptions.symm.trans unprocessed
    · exact kept.codeOptions.symm
    · intro _ member
      cases member
  have both := ((agree_of_runs regular phases earlier).symm.trans kept).trans agree
  rcases Workpiece.through_agree regular Phase.all both Phase.readsKnown_all whole with
    ⟨final, completed, agrees⟩
  have completes : Workpiece.through e e.phases fresh.workpiece = .ok final := by
    rw [phases]
    exact completed
  rcases Workpiece.written_of_through whole with ⟨d, output, lowered, written⟩
  rcases fresh.run_eq_steps e root none with ⟨tracer, span, opened⟩
  have stepped : ∃ last, { fresh with tracer }.steps e span none 0 e.phases = (last, none)
      ∧ last.workpiece = final := steps_of_through_ok e.phases 0 completes
  rcases stepped with ⟨last, finished, left⟩
  refine ⟨last, d, output, opened.trans finished, ?_, lowered, written⟩
  have equal := agrees.document_eq
  rw [← left] at equal
  exact equal.symm

/-- A run that was cancelled before lowering, and then a complete one. -/
theorem run_forgets_cancelled :
    let start : World :=
      { document := .ofSource (.ofContent 0 "/a.quill" "@page\n<p>@x</p>" .none) [] }
    let a := ProjectEngine.assembly true {} true none []
    ∃ e after last d output, a.Composed {} ∧ a.engine = .ok e
      ∧ (start.run e 0 (some 3)).1.run e = (after, none) ∧ start.run e = (last, none)
      ∧ last.document = after.document ∧ after.document.intermediate? = some d
      ∧ after.document.output? = some output := by
  intro start a
  have built : ∃ e, ((EngineBuilder.project {} true none).build (·.addDirectives [])).2 = .ok e :=
    ⟨_, rfl⟩
  rcases built with ⟨e, built⟩
  have project := ProjectEngine.isProject_of_build built
  have engine : a.engine = .ok e := (ProjectEngine.engine_of_build built).2
  have composed : a.Composed {} :=
    .directives [] (.components (.helpers none (.views true (.shared .standard))))
  have regular : e.features.IsRegular := by
    rcases ProjectEngine.engine_eq engine with ⟨target, -, rfl⟩
    exact composed.isRegular
  have kept := run_agree regular project.phases start 0 (some 3)
  have honored : (Workpiece.parserOptions e start.document).conflict? = none := by
    unfold Workpiece.parserOptions
    rw [project.parserOptions, ProjectEngine.configuration_of_build built]
    rfl
  have still : (Workpiece.parserOptions e (start.run e 0 (some 3)).1.document).conflict? = none :=
    kept.parserOptions ▸ honored
  rcases ProjectEngine.run_of_honored project (w := (start.run e 0 (some 3)).1)
    kept.source?.symm still 0 with ⟨after, ran, -⟩
  have forgets : ∃ last d output, start.run e 0 = (last, none)
      ∧ last.document = after.document ∧ after.document.intermediate? = some d
      ∧ after.document.output? = some output :=
    run_forgets composed engine (.single ⟨0, some 3, rfl⟩) ran .refl rfl rfl rfl 0
  rcases forgets with ⟨last, d, output, first, same, lowered, written⟩
  exact ⟨e, after, last, d, output, composed, engine, ran, first, same, lowered, written⟩

end World

end TemplateCompiler
