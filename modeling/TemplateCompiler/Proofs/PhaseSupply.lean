import Mathlib.Data.List.Induction
import TemplateCompiler.Proofs.PhaseInvariants
import TemplateCompiler.Proofs.RegularEngine

/-!
# What phases need and what they produce

A phase reads artifacts of the document and fills slots with others.  `Phase.needs` and
`Phase.produces` say which, and nothing else decides whether phases in some order get through: a run
fails exactly when some phase needs an artifact that the document did not come with and that no
phase before it has produced.  It then ends with the error of that phase, which changes nothing.

The phases are among the nine and may come in any order, any number of times or not at all.  The
engine has the default features.  The document is fresh: it holds no artifact that a phase produces,
except that its options may have been set.
-/

namespace TemplateCompiler

open IR

/-! ## Observed phases -/

/-- Executing a phase observes nothing: only the run around it does. -/
theorem Stage.events_execute (e : Engine) (s : Stage) (w : World) :
    ((s.execute e).run w).2.events = w.events := by
  have stable : e.Stable fun w v => v.events = w.events := {
    refl := fun _ => rfl
    trans := fun first second => second.trans first
    traced := fun _ _ _ => rfl
    worked := fun _ _ _ => rfl
    parserOptions := fun _ => rfl
    codeOptions := fun _ => rfl
    provided := fun _ _ _ _ => rfl }
  cases s with
  | phase p => exact Phase.leads_execute stable p w
  | custom c =>
    change ((Action.custom e c).run w).2.events = w.events
    unfold Action.custom
    rw [Action.run_get_bind, Action.run_bind_ok (Action.run_update _ w)]
    cases (c.run e.configuration e.features w.document).2 <;> rfl

def Stage.completed (s : Stage) : List PhaseEvent := [⟨s.name, .started⟩, ⟨s.name, .ended⟩]

def Stage.aborted (s : Stage) : List PhaseEvent := [⟨s.name, .started⟩, ⟨s.name, .failed⟩]

/-- The events of one of the nine phases that completes. -/
def Phase.completed (p : Phase) : List PhaseEvent := Stage.completed (.phase p)

/-- The events of one of the nine phases that fails. -/
def Phase.aborted (p : Phase) : List PhaseEvent := Stage.aborted (.phase p)

theorem Phase.flatMap_completed (ps : List Phase) :
    (ps.map Stage.phase).flatMap Stage.completed = ps.flatMap completed := by
  rw [List.flatMap_map]
  rfl

namespace World

/-- The world in which a phase is executed: its start is noted, and its span has begun. -/
def entered (w : World) (parent : Trace.OpenSpan) (s : Stage) : World :=
  { w.observe s .started with
    tracer := ((w.observe s .started).tracer.begin .phase s.name parent.id).1 }

/-- The end of a step is observed, and with it whether the phase has failed. -/
theorem step_of_execute {e : Engine} {s : Stage} {w after : World} {parent : Trace.OpenSpan}
    {outcome : Except PipelineError Unit}
    (ran : (s.execute e).run (w.entered parent s) = (outcome, after)) :
    ∃ last, w.step e parent s = (last, match outcome with | .ok _ => none | .error err => some err)
      ∧ last.workpiece = after.workpiece
      ∧ last.events = after.events
        ++ [⟨s.name, match outcome with | .ok _ => .ended | .error _ => .failed⟩] := by
  unfold entered at ran
  unfold step
  dsimp only
  rw [ran]
  cases outcome with
  | ok _ => exact ⟨_, rfl, rfl, rfl⟩
  | error err => exact ⟨_, rfl, rfl, rfl⟩

/-- A step is observed twice, and the second event tells whether the phase has failed. -/
theorem events_step {e : Engine} {s : Stage} {w after : World} {parent : Trace.OpenSpan}
    {err? : Option PipelineError} (stepped : w.step e parent s = (after, err?)) :
    after.events = w.events ++ if err?.isSome then s.aborted else s.completed := by
  have unobserved := s.events_execute e (w.entered parent s)
  rcases ran : (s.execute e).run (w.entered parent s) with ⟨outcome, left⟩
  rcases step_of_execute ran with ⟨last, whole, -, events⟩
  rw [ran] at unobserved
  rw [whole] at stepped
  cases stepped
  rw [events, unobserved]
  cases outcome with
  | ok _ => exact List.append_assoc w.events _ _
  | error err => exact List.append_assoc w.events _ _

/-- A run that completes was observed to start and to end every phase in order. -/
theorem events_steps {e : Engine} {parent : Trace.OpenSpan} {cancelAt? : Option Nat}
    (ss : List Stage) :
    ∀ {w after : World} {executed : Nat}, w.steps e parent cancelAt? executed ss = (after, none) →
      after.events = w.events ++ ss.flatMap Stage.completed := by
  induction ss with
  | nil =>
    intro w after executed ran
    cases ran
    exact (List.append_nil _).symm
  | cons s ss ih =>
    intro w after executed ran
    rw [steps] at ran
    split at ran
    · cases ran
    · cases stepped : w.step e parent s with
      | mk next err? =>
        have observed := events_step stepped
        rw [stepped] at ran
        cases err? with
        | some err => cases ran
        | none =>
          rw [ih ran, observed, List.flatMap_cons, List.append_assoc]
          rfl

/-- A phase that fails and changes nothing ends a run, and what the phases before it have left
stays. -/
theorem steps_of_refusal {e : Engine} {parent : Trace.OpenSpan} {s : Stage} {err : PipelineError}
    {piece : Workpiece}
    (refuses : ∀ v : World, v.workpiece = piece → (s.execute e).run v = (.error err, v))
    (rest done : List Stage) :
    ∀ {w : World} (executed : Nat), Workpiece.through e done w.workpiece = .ok piece →
      ∃ after, w.steps e parent none executed (done ++ s :: rest) = (after, some err)
        ∧ after.workpiece = piece
        ∧ after.events = w.events ++ done.flatMap Stage.completed ++ s.aborted := by
  induction done with
  | nil =>
    intro w executed through
    cases through
    rcases step_of_execute (refuses (w.entered parent s) rfl) with ⟨last, stepped, left, -⟩
    refine ⟨{ last with tracer := last.tracer.finish parent "failed" }, ?_, left, ?_⟩
    · rw [List.nil_append, steps, stepped]
      rfl
    · rw [List.flatMap_nil, List.append_nil]
      exact events_step stepped
  | cons q done ih =>
    intro w executed through
    cases effect : q.effect e w.workpiece with
    | error other =>
      rw [Workpiece.through, effect] at through
      cases through
    | ok next =>
      rw [Workpiece.through_cons effect] at through
      rcases step_of_effect_ok effect parent with ⟨after, stepped, same⟩
      rw [← same] at through
      rcases ih (executed + 1) through with ⟨last, ran, left, events⟩
      refine ⟨last, ?_, left, ?_⟩
      · rw [List.cons_append, steps, stepped]
        exact ran
      · rw [events, events_step stepped, List.flatMap_cons]
        simp only [Option.isSome_none, Bool.false_eq_true, if_false, List.append_assoc]

end World

/-! ## Needs and products -/

namespace Phase

/-- What a phase asks for, in the order in which it does. -/
def needs : Phase → List Artifact
  | parsing => [.source]
  | syntaxTree | helperDiscovery | lowering => [.tree]
  | helperBinding => [.tree, .helperScope]
  | documentClassifier | directiveClassifier | optimization | targetLowering => [.intermediate]

/-- What a document has after a phase.  Phases that only change what is there produce nothing. -/
def produces : Phase → List Artifact
  | parsing => [.parserOptions, .tree, .importTrees]
  | helperDiscovery => [.helperScope]
  | lowering => [.codeOptions, .intermediate]
  | targetLowering => [.output]
  | syntaxTree | helperBinding | documentClassifier | directiveClassifier | optimization => []

/-- Whether an artifact is there after some phases: the document came with it, or one of the phases
produces it. -/
def isSupplied (doc : CodeDocument) (done : List Phase) (a : Artifact) : Bool :=
  doc.has a || done.any fun p => p.produces.contains a

/-- The first artifact that a phase needs and that is not there after some phases. -/
def lacks? (doc : CodeDocument) (done : List Phase) (p : Phase) : Option Artifact :=
  p.needs.find? fun a => !isSupplied doc done a

/-- Each phase finds what it needs: the document had it before the run, or one of the phases before
has produced it. -/
def AllSupplied (doc : CodeDocument) (ps : List Phase) : Prop :=
  ∀ done p rest, ps = done ++ p :: rest → p.lacks? doc done = none

variable {doc : CodeDocument}

theorem isSupplied_snoc (done : List Phase) (p : Phase) (a : Artifact) :
    isSupplied doc (done ++ [p]) a = (isSupplied doc done a || p.produces.contains a) := by
  unfold isSupplied
  rw [List.any_append, List.any_cons, List.any_nil, Bool.or_false, Bool.or_assoc]

theorem allSupplied_nil : AllSupplied doc [] := by
  intro done p rest split
  exact absurd split.symm (List.append_ne_nil_of_right_ne_nil done (List.cons_ne_nil p rest))

theorem AllSupplied.snoc {ps : List Phase} {p : Phase} (supplied : AllSupplied doc ps)
    (last : p.lacks? doc ps = none) : AllSupplied doc (ps ++ [p]) := by
  intro done q rest split
  rcases List.eq_nil_or_concat rest with rfl | ⟨front, r, rfl⟩
  · rcases List.append_inj' split rfl with ⟨rfl, same⟩
    cases same
    exact last
  · have regrouped : ps ++ [p] = (done ++ q :: front) ++ [r] := by
      rw [split, List.concat_eq_append, List.append_assoc]
      rfl
    rcases List.append_inj' regrouped rfl with ⟨rfl, -⟩
    exact supplied done q front rfl

theorem AllSupplied.front {ps rest : List Phase} (supplied : AllSupplied doc (ps ++ rest)) :
    AllSupplied doc ps := by
  intro done p behind split
  apply supplied done p (behind ++ rest)
  rw [split, List.append_assoc]
  rfl

/-- Either each phase finds what it needs, or there is a first one that does not. -/
theorem allSupplied_or_lacks (doc : CodeDocument) (ps : List Phase) :
    AllSupplied doc ps ∨ ∃ done p rest a, ps = done ++ p :: rest ∧ AllSupplied doc done
      ∧ p.lacks? doc done = some a := by
  induction ps using List.reverseRecOn with
  | nil => exact .inl allSupplied_nil
  | append_singleton ps p ih =>
    rcases ih with supplied | ⟨done, q, rest, a, rfl, supplied, lacks⟩
    · cases last : p.lacks? doc ps with
      | none => exact .inl (supplied.snoc last)
      | some a => exact .inr ⟨ps, p, [], a, rfl, supplied, last⟩
    · refine .inr ⟨done, q, rest ++ [p], a, ?_, supplied, lacks⟩
      rw [List.append_assoc]
      rfl

end Phase

/-! ## Fresh documents -/

namespace CodeDocument

/-- No phase has made anything of a document. -/
def IsFresh (d : CodeDocument) : Prop := d.unprocessed = d

theorem IsFresh.has_eq_false {d : CodeDocument} (fresh : d.IsFresh) {a : Artifact}
    (made : a ∈ [Artifact.tree, .importTrees, .helperScope, .intermediate, .output]) :
    d.has a = false := by
  rw [← fresh]
  simp only [List.mem_cons, List.not_mem_nil, or_false] at made
  rcases made with rfl | rfl | rfl | rfl | rfl <;> rfl

end CodeDocument

namespace Phase

variable {doc : CodeDocument}

/-- The trees of the imports come with the tree. -/
theorem isSupplied_importTrees (fresh : doc.IsFresh) {done : List Phase}
    (parsed : isSupplied doc done .tree = true) : isSupplied doc done .importTrees = true := by
  unfold isSupplied at parsed ⊢
  rw [fresh.has_eq_false (by decide), Bool.false_or] at parsed ⊢
  rcases List.any_eq_true.mp parsed with ⟨p, member, produced⟩
  refine List.any_eq_true.mpr ⟨p, member, ?_⟩
  cases p <;> exact produced

/-- The options of the code come with the intermediate tree. -/
theorem isSupplied_codeOptions (fresh : doc.IsFresh) {done : List Phase}
    (lowered : isSupplied doc done .intermediate = true) :
    isSupplied doc done .codeOptions = true := by
  unfold isSupplied at lowered ⊢
  rw [fresh.has_eq_false (by decide), Bool.false_or] at lowered
  rcases List.any_eq_true.mp lowered with ⟨p, member, produced⟩
  rw [Bool.or_eq_true_iff]
  refine .inr (List.any_eq_true.mpr ⟨p, member, ?_⟩)
  cases p <;> exact produced

end Phase

/-! ## Steps -/

namespace Phase

open Workpiece

variable {e : Engine} {doc : CodeDocument} {done : List Phase} {p : Phase}

/-- A document has what it came with and what phases have produced. -/
def Equipped (doc : CodeDocument) (done : List Phase) (now : CodeDocument) : Prop :=
  ∀ a, now.has a = isSupplied doc done a

theorem Equipped.snoc {now next : CodeDocument} (equipped : Equipped doc done now)
    (adds : ∀ a, next.has a = (now.has a || p.produces.contains a)) :
    Equipped doc (done ++ [p]) next := by
  intro a
  rw [adds, equipped, isSupplied_snoc]

theorem Equipped.source {now : CodeDocument} (equipped : Equipped doc done now)
    (given : isSupplied doc done .source = true) : ∃ source, now.source? = some source :=
  Option.isSome_iff_exists.mp ((equipped .source).trans given)

theorem Equipped.tree {now : CodeDocument} (equipped : Equipped doc done now)
    (parsed : isSupplied doc done .tree = true) : ∃ tree, now.tree? = some tree :=
  Option.isSome_iff_exists.mp ((equipped .tree).trans parsed)

/-- A document that was parsed has its tree and those of its imports. -/
theorem Equipped.trees {now : CodeDocument} (equipped : Equipped doc done now)
    (fresh : doc.IsFresh) (parsed : isSupplied doc done .tree = true) :
    ∃ tree imports, now.tree? = some tree ∧ now.importTrees? = some imports := by
  rcases equipped.tree parsed with ⟨tree, own⟩
  rcases Option.isSome_iff_exists.mp
      ((equipped .importTrees).trans (isSupplied_importTrees fresh parsed)) with ⟨imports, others⟩
  exact ⟨tree, imports, own, others⟩

theorem Equipped.scope {now : CodeDocument} (equipped : Equipped doc done now)
    (known : isSupplied doc done .helperScope = true) : ∃ scope, now.scope? = some scope :=
  Option.isSome_iff_exists.mp ((equipped .helperScope).trans known)

theorem Equipped.intermediate {now : CodeDocument} (equipped : Equipped doc done now)
    (lowered : isSupplied doc done .intermediate = true) : ∃ d, now.intermediate? = some d :=
  Option.isSome_iff_exists.mp ((equipped .intermediate).trans lowered)

/-- A document that was lowered has its intermediate tree and the options of its code. -/
theorem Equipped.writable {now : CodeDocument} (equipped : Equipped doc done now)
    (fresh : doc.IsFresh) (lowered : isSupplied doc done .intermediate = true) :
    ∃ d options, now.intermediate? = some d ∧ now.codeOptions? = some options := by
  rcases equipped.intermediate lowered with ⟨d, there⟩
  rcases Option.isSome_iff_exists.mp
      ((equipped .codeOptions).trans (isSupplied_codeOptions fresh lowered)) with ⟨options, set⟩
  exact ⟨d, options, there, set⟩

/-- What a phase that lacks nothing needs is there. -/
theorem isSupplied_of_lacks?_eq_none (supplied : p.lacks? doc done = none) {a : Artifact}
    (needed : a ∈ p.needs) : isSupplied doc done a = true := by
  have present := List.find?_eq_none.mp supplied a needed
  rw [Bool.not_eq_true', Bool.not_eq_false] at present
  exact present

/-- A phase completes: it produces its artifacts, removes none, and leaves the parser's options as
they were. -/
structure Completes (e : Engine) (doc : CodeDocument) (done : List Phase) (p : Phase)
    (w next : Workpiece) : Prop where
  effect : p.effect e w = .ok next
  equipped : Equipped doc (done ++ [p]) next.document
  options : parserOptions e next.document = parserOptions e w.document

/-- A phase that works on the intermediate tree completes if there is one. -/
theorem completes_of_shaping (regular : e.features.IsRegular) {w : Workpiece}
    (equipped : Equipped doc done w.document) (shaping : p.isShaping = true)
    (produces : p.produces = []) (lowered : isSupplied doc done .intermediate = true) :
    ∃ next, Completes e doc done p w next := by
  rcases regular.effect_shaping shaping with ⟨change, effect⟩
  rcases equipped.intermediate lowered with ⟨d, there⟩
  refine ⟨_, effect there, equipped.snoc fun a => ?_, regular.parserOptions_congr rfl rfl⟩
  rw [produces]
  cases a <;> simp [CodeDocument.has, there]

/-- A phase that lacks nothing completes. -/
theorem completes_of_supplied (regular : e.features.IsRegular) (total : e.target.IsTotal)
    (fresh : doc.IsFresh) {w : Workpiece} (equipped : Equipped doc done w.document)
    (honored : (parserOptions e w.document).conflict? = none)
    (supplied : p.lacks? doc done = none) : ∃ next, Completes e doc done p w next := by
  have needed := fun a => isSupplied_of_lacks?_eq_none (a := a) supplied
  cases p with
  | parsing =>
    rcases equipped.source (needed _ (by decide)) with ⟨source, given⟩
    refine ⟨_, ProjectEngine.effect_parsing given honored, equipped.snoc fun a => ?_, rfl⟩
    cases a <;> simp [CodeDocument.has, parsedDocument, produces]
  | syntaxTree =>
    rcases regular.effect_syntaxTree with ⟨change, effect⟩
    rcases equipped.tree (needed _ (by decide)) with ⟨tree, parsed⟩
    refine ⟨_, effect parsed, equipped.snoc fun a => ?_, regular.parserOptions_congr rfl rfl⟩
    cases a <;> simp [CodeDocument.has, produces, parsed]
  | helperDiscovery =>
    rcases equipped.trees fresh (needed _ (by decide)) with ⟨tree, imports, own, others⟩
    refine ⟨_, effect_discovery own others, equipped.snoc fun a => ?_,
      regular.parserOptions_congr rfl rfl⟩
    cases a <;> simp [CodeDocument.has, produces, own]
  | helperBinding =>
    rcases equipped.tree (needed _ (by decide)) with ⟨tree, parsed⟩
    rcases equipped.scope (needed _ (by decide)) with ⟨scope, known⟩
    refine ⟨_, ProjectEngine.effect_helperBinding parsed known, equipped.snoc fun a => ?_,
      regular.parserOptions_congr rfl rfl⟩
    cases a <;> simp [CodeDocument.has, produces, parsed]
  | lowering =>
    rcases equipped.trees fresh (needed _ (by decide)) with ⟨tree, imports, own, others⟩
    refine ⟨_, ProjectEngine.effect_lowering own others, equipped.snoc fun a => ?_,
      regular.parserOptions_congr rfl rfl⟩
    cases a <;> simp [CodeDocument.has, loweredDocument, produces]
  | documentClassifier | directiveClassifier | optimization =>
    exact completes_of_shaping regular equipped rfl rfl (needed _ (by decide))
  | targetLowering =>
    rcases equipped.writable fresh (needed _ (by decide)) with ⟨d, options, lowered, set⟩
    rcases total options d with ⟨output, written⟩
    refine ⟨_, effect_writing lowered set written, equipped.snoc fun a => ?_,
      regular.parserOptions_congr rfl rfl⟩
    cases a <;> simp [CodeDocument.has, produces]

/-- A phase that lacks an artifact names it, and changes nothing. -/
theorem execute_of_lacks {w : World} {a : Artifact} (equipped : Equipped doc done w.document)
    (lacks : p.lacks? doc done = some a) :
    (p.execute e).run w = (.error (.missingArtifact (some p) a), w) := by
  have absent : w.document.has a = false := by
    have unsupplied := List.find?_some lacks
    rw [equipped]
    exact (Bool.not_eq_true' _).mp unsupplied
  have needed : a ∈ p.needs := List.mem_of_find?_eq_some lacks
  cases p with
  | helperBinding =>
    cases parsed : w.document.tree? with
    | none =>
      have first : isSupplied doc done .tree = false := by
        rw [← equipped]
        change w.document.tree?.isSome = false
        rw [parsed]
        rfl
      have same : a = .tree := by
        have found : lacks? doc done .helperBinding = some .tree := by
          unfold lacks? needs
          rw [List.find?_cons, first]
          rfl
        exact Option.some.inj (lacks.symm.trans found)
      rw [same]
      exact Action.run_bind_error (Action.run_require_none parsed)
    | some tree =>
      have same : a = .helperScope := by
        rcases List.mem_cons.mp needed with rfl | scope
        · change w.document.tree?.isSome = false at absent
          rw [parsed] at absent
          cases absent
        · exact List.mem_singleton.mp scope
      rw [same] at absent ⊢
      refine (Action.run_bind_ok (Action.run_require_some parsed)).trans ?_
      exact Action.run_bind_error (Action.run_require_none (Option.not_isSome_iff_eq_none.mp
        (Bool.eq_false_iff.mp absent)))
  | parsing | syntaxTree | helperDiscovery | lowering | documentClassifier | directiveClassifier
  | optimization | targetLowering =>
    cases List.mem_singleton.mp needed
    exact Action.run_bind_error (Action.run_require_none (Option.not_isSome_iff_eq_none.mp
      (Bool.eq_false_iff.mp absent)))

end Phase

/-! ## Runs -/

namespace Workpiece

variable {e : Engine}

theorem through_append (ss ts : List Stage) :
    ∀ w : Workpiece, through e (ss ++ ts) w = through e ss w >>= through e ts := by
  induction ss with
  | nil => exact fun _ => rfl
  | cons s ss ih =>
    intro w
    rw [List.cons_append, through, through, bind_assoc]
    congr 1
    funext next
    exact ih next

theorem through_snoc {ss : List Stage} {s : Stage} {w next : Workpiece}
    (done : through e ss w = .ok next) : through e (ss ++ [s]) w = s.effect e next := by
  rw [through_append, done]
  exact bind_pure (s.effect e next)

/-- Phases that all find what they need complete. -/
theorem through_of_supplied (regular : e.features.IsRegular) (total : e.target.IsTotal)
    {w : Workpiece} (fresh : w.document.IsFresh)
    (honored : (parserOptions e w.document).conflict? = none) (ps : List Phase) :
    Phase.AllSupplied w.document ps →
      ∃ next, through e (ps.map .phase) w = .ok next
        ∧ Phase.Equipped w.document ps next.document
        ∧ parserOptions e next.document = parserOptions e w.document := by
  induction ps using List.reverseRecOn with
  | nil =>
    intro supplied
    exact ⟨w, rfl, fun a => (Bool.or_false _).symm, rfl⟩
  | append_singleton ps p ih =>
    intro supplied
    rcases ih supplied.front with ⟨middle, done, equipped, same⟩
    rcases Phase.completes_of_supplied regular total fresh equipped
        (same ▸ honored) (supplied ps p [] rfl) with ⟨next, completed⟩
    refine ⟨next, ?_, completed.equipped, completed.options.trans same⟩
    rw [List.map_append]
    exact (through_snoc done).trans completed.effect

/-- The phases that an engine has play no role in what a phase does. -/
theorem through_withPhases (phases ss : List Stage) :
    ∀ w : Workpiece, through { e with phases } ss w = through e ss w := by
  induction ss with
  | nil => exact fun _ => rfl
  | cons s ss ih =>
    intro w
    have effect : s.effect { e with phases } w = s.effect e w := by
      rcases s with p | c
      · cases p <;> rfl
      · rfl
    rw [through, through, effect]
    congr 1
    funext next
    exact ih next

end Workpiece

namespace World

open Workpiece

variable {e : Engine}

/-- A run is its steps inside a span. -/
theorem run_eq_steps (w : World) (e : Engine) (parent : Nat) (cancelAt? : Option Nat) :
    ∃ tracer span, w.run e parent cancelAt? =
      { w with tracer }.steps e span cancelAt? 0 e.phases :=
  ⟨_, _, rfl⟩

theorem events_run {w after : World} {parent : Nat} {cancelAt? : Option Nat}
    (ran : w.run e parent cancelAt? = (after, none)) :
    after.events = w.events ++ e.phases.flatMap Stage.completed := by
  rcases w.run_eq_steps e parent cancelAt? with ⟨tracer, span, opened⟩
  rw [opened] at ran
  exact events_steps (w := { w with tracer }) e.phases ran

/-- A run of phases that all find what they need completes. -/
theorem run_of_supplied (regular : e.features.IsRegular) (total : e.target.IsTotal) {w : World}
    (fresh : w.document.IsFresh) (honored : (parserOptions e w.document).conflict? = none)
    {ps : List Phase} (supplied : Phase.AllSupplied w.document ps) (parent : Nat) :
    ∃ after, w.run { e with phases := ps.map .phase } parent = (after, none)
      ∧ through e (ps.map .phase) w.workpiece = .ok after.workpiece
      ∧ after.events = w.events ++ ps.flatMap Phase.completed := by
  rcases through_of_supplied regular total (w := w.workpiece) fresh honored ps supplied with
    ⟨next, done, -, -⟩
  rw [← Phase.flatMap_completed]
  generalize ps.map Stage.phase = phases at done ⊢
  have whole := (through_withPhases phases phases w.workpiece).trans done
  rcases w.run_eq_steps { e with phases } parent none with ⟨tracer, span, opened⟩
  have stepped : ∃ after, { w with tracer }.steps { e with phases } span none 0 phases =
      (after, none) ∧ after.workpiece = next := steps_of_through_ok phases 0 whole
  rcases stepped with ⟨after, ran, left⟩
  refine ⟨after, opened.trans ran, ?_, events_run (opened.trans ran)⟩
  rw [left]
  exact done

/-- A run ends at the first phase that lacks something, with what the phases before it have left. -/
theorem run_of_lacks (regular : e.features.IsRegular) (total : e.target.IsTotal) {w : World}
    (fresh : w.document.IsFresh) (honored : (parserOptions e w.document).conflict? = none)
    {done : List Phase} (supplied : Phase.AllSupplied w.document done) {p : Phase} {a : Artifact}
    (lacks : p.lacks? w.document done = some a) (rest : List Phase) (parent : Nat) :
    ∃ after, w.run { e with phases := (done ++ p :: rest).map .phase } parent =
        (after, some (.missingArtifact (some p) a))
      ∧ through e (done.map .phase) w.workpiece = .ok after.workpiece
      ∧ after.events = w.events ++ done.flatMap Phase.completed ++ p.aborted := by
  rcases through_of_supplied regular total (w := w.workpiece) fresh honored done supplied with
    ⟨next, through, equipped, -⟩
  rw [← Phase.flatMap_completed, List.map_append, List.map_cons]
  generalize done.map Stage.phase = before, rest.map Stage.phase = behind at through ⊢
  let phases := before ++ .phase p :: behind
  have refuses : ∀ v : World, v.workpiece = next →
      (p.execute { e with phases }).run v = (.error (.missingArtifact (some p) a), v) := by
    intro v same
    rw [← same] at equipped
    exact Phase.execute_of_lacks equipped lacks
  have whole := (through_withPhases phases before w.workpiece).trans through
  rcases w.run_eq_steps { e with phases } parent none with ⟨tracer, span, opened⟩
  have stepped : ∃ after, { w with tracer }.steps { e with phases } span none 0 phases =
        (after, some (.missingArtifact (some p) a))
      ∧ after.workpiece = next
      ∧ after.events = w.events ++ before.flatMap Stage.completed ++ p.aborted :=
    steps_of_refusal (s := .phase p) refuses behind before 0 whole
  rcases stepped with ⟨after, ran, left, events⟩
  refine ⟨after, opened.trans ran, ?_, events⟩
  rw [left]
  exact through

end World

namespace Assembly

/-- Default features suffice for each of the nine phases. -/
theorem engine_of_default (c : Configuration) (ps : List Phase) :
    { (empty c).addDefaultFeatures with phases := ps.map .phase }.engine = .ok
      { configuration := c, features := (empty c).addDefaultFeatures.features
        phases := ps.map .phase, target := Code.Backend.outline [] } := by
  have complete :
      { (empty c).addDefaultFeatures with phases := ps.map .phase }.phaseError? = none := by
    apply List.findSome?_eq_none_iff.mpr
    intro s member
    rcases List.mem_map.mp member with ⟨p, -, rfl⟩
    cases p <;> rfl
  unfold engine
  rw [complete]
  rfl

end Assembly

namespace World

/-- An engine with the default features and any list of the nine phases, run on a fresh document
whose parser options are valid, fails exactly when some phase lacks an artifact.  It then ends at
the first such phase with an error that names the phase and the artifact.  The phases before it were
observed to start and to end, the phase itself to start and to fail, and the document is as a run of
the phases before it leaves it. -/
theorem run_fails_iff_lacks (c : Configuration) (valid : c.conflict? = none)
    (phases : List Phase) :
    ∃ e, (EngineBuilder.build { assembly :=
        { (Assembly.empty c).addDefaultFeatures with phases := phases.map .phase } }).2 = .ok e
      ∧ ∀ (w : World) (parent : Nat), w.document.IsFresh →
        (Workpiece.parserOptions e w.document).conflict? = none →
          ((w.run e parent).2 ≠ none ↔ ∃ done p rest, phases = done ++ p :: rest
            ∧ p.lacks? w.document done ≠ none)
          ∧ ((w.run e parent).2 = none →
            (w.run e parent).1.events = w.events ++ phases.flatMap Phase.completed)
          ∧ ∀ done p rest a, phases = done ++ p :: rest → Phase.AllSupplied w.document done →
            p.lacks? w.document done = some a →
              ∃ after before, w.run e parent = (after, some (.missingArtifact (some p) a))
                ∧ after.events = w.events ++ done.flatMap Phase.completed ++ p.aborted
                ∧ w.run { e with phases := done.map .phase } parent = (before, none)
                ∧ after.document = before.document := by
  have built : (EngineBuilder.build { assembly :=
        { (Assembly.empty c).addDefaultFeatures with phases := phases.map .phase } }).2 =
      { (Assembly.empty c).addDefaultFeatures with phases := phases.map .phase }.engine := by
    have honored : (Assembly.empty c).addDefaultFeatures.configuration.conflict? = none := valid
    unfold EngineBuilder.build
    dsimp only
    rw [honored]
    rfl
  refine ⟨_, built.trans (Assembly.engine_of_default c phases), ?_⟩
  intro w parent fresh honored
  have regular := Assembly.isRegular_addDefaultFeatures c
  have total := Code.Backend.isTotal_outline []
  refine ⟨?_, ?_, ?_⟩
  · constructor
    · intro fails
      rcases Phase.allSupplied_or_lacks w.document phases with
        supplied | ⟨done, p, rest, a, split, -, lacks⟩
      · rcases run_of_supplied regular total fresh honored supplied parent with ⟨after, ran, -⟩
        rw [ran] at fails
        exact absurd rfl fails
      · refine ⟨done, p, rest, split, ?_⟩
        rw [lacks]
        exact Option.some_ne_none a
    · rintro ⟨done, p, rest, split, lacks⟩
      rcases Phase.allSupplied_or_lacks w.document phases with
        supplied | ⟨done, p, rest, a, rfl, supplied, lacks⟩
      · exact absurd (supplied done p rest split) lacks
      · rcases run_of_lacks regular total fresh honored supplied lacks rest parent with
          ⟨after, ran, -⟩
        rw [ran]
        exact Option.some_ne_none _
  · intro succeeds
    rw [← Phase.flatMap_completed]
    exact events_run (Prod.ext rfl succeeds)
  · rintro done p rest a rfl supplied lacks
    rcases run_of_lacks regular total fresh honored supplied lacks rest parent with
      ⟨after, ran, left, events⟩
    rcases run_of_supplied regular total fresh honored supplied parent with
      ⟨before, ranBefore, same, -⟩
    refine ⟨after, before, ran, events, ranBefore, ?_⟩
    rw [left] at same
    exact congrArg Workpiece.document (Except.ok.inj same)

/-- Elements cannot be bound before tag helpers were looked for, whatever ran before. -/
theorem run_fails_iff_lacks_unscoped :
    let w : World := { document := .ofSource (.ofContent 0 "/a.quill" "<p>@x</p>" .none) [] }
    let done : List Phase := [.parsing, .lowering, .syntaxTree, .optimization]
    ∃ e after before, (EngineBuilder.build
        { assembly := { (Assembly.empty {}).addDefaultFeatures with
            phases := (done ++ [Phase.helperBinding, .parsing]).map .phase } }).2 = .ok e
      ∧ w.document.IsFresh ∧ (Workpiece.parserOptions e w.document).conflict? = none
      ∧ w.run e = (after, some (.missingArtifact (some .helperBinding) .helperScope))
      ∧ after.events =
        [⟨"parsing", .started⟩, ⟨"parsing", .ended⟩, ⟨"ir-lowering", .started⟩,
          ⟨"ir-lowering", .ended⟩, ⟨"syntax-tree", .started⟩, ⟨"syntax-tree", .ended⟩,
          ⟨"optimization", .started⟩, ⟨"optimization", .ended⟩,
          ⟨"tag-helper-rewrite", .started⟩, ⟨"tag-helper-rewrite", .failed⟩]
      ∧ w.run { e with phases := done.map .phase } = (before, none)
      ∧ after.document = before.document := by
  intro w done
  rcases run_fails_iff_lacks {} rfl (done ++ [.helperBinding, .parsing]) with ⟨e, built, outcome⟩
  have same : e = { configuration := {}, features := (Assembly.empty {}).addDefaultFeatures.features
                    phases := (done ++ [Phase.helperBinding, .parsing]).map .phase
                    target := Code.Backend.outline [] } := (Except.ok.inj built).symm
  have honored : (Workpiece.parserOptions e w.document).conflict? = none := by
    rw [same]
    rfl
  have supplied : Phase.AllSupplied w.document done :=
    (((Phase.allSupplied_nil.snoc rfl).snoc rfl).snoc rfl).snoc rfl
  rcases (outcome w 0 rfl honored).2.2 done
      .helperBinding [.parsing] .helperScope rfl supplied rfl
    with ⟨after, before, ran, events, ranBefore, left⟩
  exact ⟨e, after, before, built, rfl, honored, ran, events, ranBefore, left⟩

end World

end TemplateCompiler
