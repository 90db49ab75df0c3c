import TemplateCompiler.Proofs.PipelineRun
import TemplateCompiler.Proofs.SpanForest

/-!
# The spans of a run

A run does the same whatever traces it, and it begins and ends its spans one inside the other: the
span of the document, in it those of the phases, and in these the ones of the passes
(`World.run_records`).  That holds whether the run completes, is cancelled between two phases or
fails in one of them, be it one of the nine or another one, so the events of a run are bracketed,
and a lower level leaves out of them what it does not include (`World.spans_bracketed`).
-/

namespace TemplateCompiler

open Trace

namespace Trace.Tracer

theorem record_span (t : Tracer) (around : Nat) (note : SpanNote) (inside behind : Spans) :
    t.record around (.span note inside behind) =
      (((t.begin note.scope note.name (note.outer?.getD around)).1.record
        (t.begin note.scope note.name (note.outer?.getD around)).2.id inside).finish
          { (t.begin note.scope note.name (note.outer?.getD around)).2 with extra := note.extra }
          note.detail).record around behind := rfl

/-- A span has no further values when it begins. -/
theorem extra_begin (t : Tracer) (scope : Scope) (name : Text) (parent : Nat) :
    { (t.begin scope name parent).2 with extra := [] } = (t.begin scope name parent).2 := by
  rw [begin]
  split <;> rfl

theorem withExtra_begin (t : Tracer) (scope : Scope) (name : Text) (parent : Nat)
    (key value : Text) :
    (t.begin scope name parent).2.withExtra key value =
      { (t.begin scope name parent).2 with extra := [(key, value)] } := by
  rw [begin]
  split <;> rfl

end Trace.Tracer

namespace Action

variable {α β : Type}

/-- An action does the same whatever traces it, and it records the spans of passes. -/
def Steady (x : Action α) (w : World) : Prop :=
  ∃ (outcome : Except PipelineError α) (after : World) (passes : Spans), passes.ArePasses ∧
    ∀ (tracer : Tracer) (around : Nat),
      x.run { w with tracer } = (outcome, { after with tracer := tracer.record around passes })

/-! ## Moves -/

theorem steady_of_silent {x : Action α} {w : World} (outcome : Except PipelineError α)
    (after : World)
    (silent : ∀ tracer : Tracer, x.run { w with tracer } = (outcome, { after with tracer })) :
    Steady x w := ⟨outcome, after, .none, trivial, fun tracer _ => silent tracer⟩

theorem steady_pure (a : α) (w : World) : Steady (pure a) w :=
  steady_of_silent (.ok a) w fun _ => rfl

theorem steady_throw (e : PipelineError) (w : World) : Steady (throw e : Action α) w :=
  steady_of_silent (.error e) w fun _ => rfl

theorem steady_update (f : CodeDocument → CodeDocument) (w : World) : Steady (update f) w :=
  steady_of_silent (.ok ()) { w with document := f w.document } fun _ => rfl

theorem steady_require {phase : Phase} {artifact : Artifact} {slot : CodeDocument → Option α}
    {w : World} : Steady (require phase artifact slot) w := by
  cases read : slot w.document with
  | none => exact steady_of_silent _ w fun _ => run_require_none read
  | some a => exact steady_of_silent _ w fun _ => run_require_some read

/-- What follows an action records its spans behind those of the action. -/
theorem Steady.bind {x : Action α} {f : α → Action β} {w : World} (first : Steady x w)
    (next : ∀ a after, Steady (f a) after) : Steady (x >>= f) w := by
  rcases first with ⟨outcome, after, passes, arePasses, ran⟩
  cases outcome with
  | error err =>
    exact ⟨_, after, passes, arePasses, fun tracer around => run_bind_error (ran tracer around)⟩
  | ok a =>
    rcases next a after with ⟨outcome', after', passes', arePasses', ran'⟩
    refine ⟨outcome', after', passes.append passes', arePasses.append arePasses', ?_⟩
    intro tracer around
    rw [run_bind_ok (ran tracer around), ran', Tracer.record_append]

/-- Reading the document is not affected by the tracer. -/
theorem steady_get {f : World → Action β} {w : World}
    (untraced : ∀ tracer : Tracer, f { w with tracer } = f w) (next : Steady (f w) w) :
    Steady (get >>= f) w := by
  rcases next with ⟨outcome, after, passes, arePasses, ran⟩
  refine ⟨outcome, after, passes, arePasses, fun tracer around => ?_⟩
  rw [run_get_bind, untraced, ran]

/-- A pass has a span of its own, with the cause if it fails. -/
theorem steady_record (p : Pass α) (outcome : Except Text β) (w : World) :
    Steady (record p outcome) w := by
  cases outcome with
  | ok b =>
    refine ⟨.ok b, { w with journal := w.journal ++ p.note?.toList },
      .span { scope := .pass, name := p.name, outer? := some 0 } .none .none,
      ⟨⟨rfl, rfl, rfl⟩, trivial⟩, fun tracer around => ?_⟩
    rw [Tracer.record_span, Tracer.extra_begin]
    rfl
  | error cause =>
    refine ⟨.error (.pass p.name cause), { w with journal := w.journal ++ p.note?.toList },
      .span { scope := .pass, name := p.name, outer? := some 0, extra := [("error", cause)] }
        .none .none,
      ⟨⟨rfl, rfl, rfl⟩, trivial⟩, fun tracer around => ?_⟩
    rw [Tracer.record_span, ← Tracer.withExtra_begin]
    rfl

/-! ## Passes -/

theorem steady_syntaxPasses (ps : List (Pass SyntaxAction)) :
    ∀ tree w, Steady (syntaxPasses ps tree) w := by
  induction ps with
  | nil => exact steady_pure
  | cons p ps ih =>
    intro tree w
    refine (steady_update _ w).bind fun _ after => ?_
    exact (steady_record p _ after).bind fun next after => ih next after

theorem steady_documentPasses (phase : Phase) (ps : List (Pass DocumentAction)) :
    ∀ w, Steady (documentPasses phase ps) w := by
  induction ps with
  | nil => exact steady_pure ()
  | cons p ps ih =>
    intro w
    refine steady_require.bind fun d after => steady_get (fun _ => rfl) ?_
    refine (steady_record p _ after).bind fun next after => ?_
    exact (steady_update _ after).bind fun _ after => ih after

/-! ## Phases -/

theorem steady_providedImport (f : Features) (kind : FileKind) (w : World) :
    Steady (providedImport f kind) w := by
  rcases w with ⟨document, files, provided?, tracer, journal, events⟩
  unfold providedImport
  cases f.providedImport?.bind (· kind) with
  | none => exact steady_pure [] _
  | some i =>
    cases provided? with
    | some file => exact steady_of_silent (.ok [file]) _ fun _ => rfl
    | none =>
      let file := SourceFile.ofContent files.size i.path i.content .inMemory
      let added := files.add i.path i.content .inMemory
      have found : added.1.get? added.2 = some file := FileSet.get?_add ..
      refine steady_of_silent (.ok [file]) ⟨document, added.1, some file, tracer, journal, events⟩ ?_
      intro tracer
      rw [run_get_bind]
      dsimp only
      rw [found]
      rfl

theorem steady_parsing (e : Engine) (w : World) : Steady (parsing e) w := by
  refine steady_require.bind fun source after => steady_get (fun _ => rfl) ?_
  refine (steady_update _ after).bind fun _ after => ?_
  dsimp only
  split
  · exact steady_throw _ after
  · exact (steady_providedImport _ _ after).bind fun _ after => steady_update _ after

theorem steady_documentClassifier (e : Engine) (w : World) : Steady (documentClassifier e) w := by
  refine steady_require.bind fun d after => steady_get (fun _ => rfl) ?_
  dsimp only
  split
  · exact steady_pure () after
  · exact (steady_record _ _ after).bind fun _ after => steady_update _ after

theorem steady_execute (e : Engine) (p : Phase) (w : World) : Steady (p.execute e) w := by
  cases p with
  | parsing => exact steady_parsing e w
  | syntaxTree =>
    refine steady_require.bind fun tree after => ?_
    exact (steady_syntaxPasses _ tree after).bind fun _ after => steady_update _ after
  | helperDiscovery =>
    refine steady_require.bind fun tree after => steady_require.bind fun imports after => ?_
    exact steady_get (fun _ => rfl) (steady_update _ after)
  | helperBinding =>
    refine steady_require.bind fun tree after => steady_require.bind fun scope after => ?_
    exact steady_update _ after
  | lowering =>
    refine steady_require.bind fun tree after => steady_require.bind fun imports after => ?_
    exact steady_get (fun _ => rfl) (steady_update _ after)
  | documentClassifier => exact steady_documentClassifier e w
  | directiveClassifier => exact steady_require.bind fun _ after => steady_documentPasses _ _ after
  | optimization => exact steady_require.bind fun _ after => steady_documentPasses _ _ after
  | targetLowering =>
    refine steady_require.bind fun d after => steady_require.bind fun options after => ?_
    cases e.target.write options d with
    | error cause => exact steady_throw _ after
    | ok output => exact steady_update _ after

theorem steady_custom (e : Engine) (c : CustomPhase) (w : World) : Steady (custom e c) w := by
  refine steady_get (fun _ => rfl) ?_
  dsimp only
  refine (steady_update _ w).bind fun _ after => ?_
  cases (c.run e.configuration e.features w.document).2 with
  | some cause => exact steady_throw _ after
  | none => exact steady_pure () after

theorem steady_stage (e : Engine) (s : Stage) (w : World) : Steady (s.execute e) w := by
  cases s with
  | phase p => exact steady_execute e p w
  | custom c => exact steady_custom e c w

end Action

/-! ## Runs -/

namespace World

section Step

variable {w after : World} {e : Engine} {parent : OpenSpan} {s : Stage}

theorem step_of_ok
    (ran : (s.execute e).run { w.observe s .started with
        tracer := ((w.observe s .started).tracer.begin .phase s.name parent.id).1 } =
      (.ok (), after)) :
    w.step e parent s =
      ({ after with
          tracer := after.tracer.finish (w.tracer.begin .phase s.name parent.id).2 [] }.observe
            s .ended,
        none) := by
  unfold step
  dsimp only
  rw [ran]
  rfl

theorem step_of_error {cause : PipelineError}
    (ran : (s.execute e).run { w.observe s .started with
        tracer := ((w.observe s .started).tracer.begin .phase s.name parent.id).1 } =
      (.error cause, after)) :
    w.step e parent s =
      ({ after with
          tracer := after.tracer.finish
            ((w.tracer.begin .phase s.name parent.id).2.withExtra "error" cause.message) [] }.observe
            s .failed,
        some cause) := by
  unfold step
  dsimp only
  rw [ran]
  rfl

end Step

variable (w : World) (e : Engine)

/-- A phase does the same whatever traces it, and it has a span inside of the one it is executed
in. -/
theorem step_records (s : Stage) :
    ∃ (outcome : Option PipelineError) (after : World) (phase : Spans), phase.ArePhases ∧
      ∀ (tracer : Tracer) (parent : OpenSpan), { w with tracer }.step e parent s =
        ({ after with tracer := tracer.record parent.id phase }, outcome) := by
  rcases Action.steady_stage e s (w.observe s .started) with
    ⟨outcome, after, passes, arePasses, ran⟩
  cases outcome with
  | ok _ =>
    refine ⟨none, after.observe s .ended, .span { scope := .phase, name := s.name } passes .none,
      ⟨⟨rfl, rfl, arePasses⟩, trivial⟩, fun tracer parent => ?_⟩
    rw [Tracer.record_span, Tracer.extra_begin]
    exact step_of_ok (w := { w with tracer }) (ran _ _)
  | error cause =>
    refine ⟨some cause, after.observe s .failed,
      .span { scope := .phase, name := s.name, extra := [("error", cause.message)] } passes .none,
      ⟨⟨rfl, rfl, arePasses⟩, trivial⟩, fun tracer parent => ?_⟩
    rw [Tracer.record_span, ← Tracer.withExtra_begin]
    exact step_of_error (w := { w with tracer }) (ran _ _)

theorem steps_records (cancelAt? : Option Nat) (ss : List Stage) :
    ∀ (w : World) (executed : Nat),
      ∃ (outcome : Option PipelineError) (after : World) (detail : Text) (phases : Spans),
        phases.ArePhases ∧ ∀ (tracer : Tracer) (parent : OpenSpan),
          { w with tracer }.steps e parent cancelAt? executed ss =
            ({ after with tracer := (tracer.record parent.id phases).finish parent detail },
              outcome) := by
  induction ss with
  | nil => exact fun w _ => ⟨none, w, [], .none, trivial, fun _ _ => rfl⟩
  | cons s ss ih =>
    intro w executed
    cases cancelled : cancelAt?.any fun k => k ≤ executed with
    | true =>
      refine ⟨some .cancelled, w, "canceled", .none, trivial, fun tracer parent => ?_⟩
      rw [steps, if_pos cancelled]
      rfl
    | false =>
      have executes : ¬ (cancelAt?.any fun k => k ≤ executed) = true := by simp [cancelled]
      rcases step_records w e s with ⟨outcome, after, phase, arePhases, stepped⟩
      cases outcome with
      | some cause =>
        refine ⟨some cause, after, "failed", phase, arePhases, fun tracer parent => ?_⟩
        rw [steps, if_neg executes, stepped]
      | none =>
        rcases ih after (executed + 1) with ⟨outcome, last, detail, phases, arePhases', ran⟩
        refine ⟨outcome, last, detail, phase.append phases, arePhases.append arePhases', ?_⟩
        intro tracer parent
        rw [steps, if_neg executes, stepped]
        dsimp only
        rw [ran, Tracer.record_append]

/-- A run does the same whatever traces it, and it records the span of its document. -/
theorem run_records (parent : Nat) (cancelAt? : Option Nat) :
    ∃ (outcome : Option PipelineError) (after : World) (name detail : Text) (phases : Spans),
      phases.ArePhases ∧ ∀ tracer : Tracer, { w with tracer }.run e parent cancelAt? =
        ({ after with tracer := tracer.record 0 (.ofDocument name detail parent phases) },
          outcome) := by
  rcases steps_records e cancelAt? e.phases w 0 with
    ⟨outcome, after, detail, phases, arePhases, ran⟩
  refine ⟨outcome, after, (w.document.source?.map SourceFile.path).getD "document", detail, phases,
    arePhases, fun tracer => ?_⟩
  unfold run
  dsimp only
  rw [Spans.ofDocument, Tracer.record_span, Tracer.extra_begin]
  exact ran _ _

/-- The events in the ring of a tracer after a run. -/
def recordedBy (tracer : Tracer) (w : World) (e : Engine) (parent : Nat)
    (cancelAt? : Option Nat) : List Event :=
  ({ w with tracer }.run e parent cancelAt?).1.tracer.recorded

/-- A ring of the finest level with room for a run has a bracketed sequence of events: phases lie in
the span of the document and passes in those of their phases.  At any other level, a ring with room
has the events of them that its level includes, with other numbers for the spans. -/
theorem spans_bracketed (parent : Nat) (cancelAt? : Option Nat) :
    ∃ needed : Nat, ∀ (capacity : Int) (sequence given : Nat), needed ≤ Ring.size capacity →
      let debug := recordedBy (.ofRing .debug capacity sequence given) w e parent cancelAt?
      debug.length = needed ∧ Bracketed debug ∧ (begun debug).Nodup ∧
      (∀ id ∈ begun debug, (ended debug).count id = 1) ∧ Frame .document parent Phases debug ∧
      ∀ (level : Level) (capacity' : Int) (sequence' given' : Nat),
        (level.restrict debug).length ≤ Ring.size capacity' →
        Renamed (level.restrict debug)
          (recordedBy (.ofRing level capacity' sequence' given') w e parent cancelAt?) := by
  rcases run_records w e parent cancelAt? with
    ⟨outcome, after, name, detail, phases, arePhases, ran⟩
  have placed := arePhases.placed_ofDocument name detail parent
  have frame := arePhases.frame_ofDocument name detail parent
  generalize Spans.ofDocument name detail parent phases = spans at ran placed frame
  have records : ∀ {level : Level} {capacity : Int} {sequence given : Nat},
      (spans.events level given 0).length ≤ Ring.size capacity →
      recordedBy (.ofRing level capacity sequence given) w e parent cancelAt? =
        spans.events level given 0 := fun room => by
    rw [recordedBy, ran]
    exact Tracer.recorded_record room
  refine ⟨2 * spans.count .debug, fun capacity sequence given room => ?_⟩
  have length := spans.length_events .debug given 0
  have distinct := spans.nodup_begun_events .debug given 0
  have bracketed := (frame given).bracketed_append (fun _ _ phases => phases.bracketed) .nil
  rw [List.append_nil] at bracketed
  rw [records (length.trans_le room)]
  refine ⟨length, bracketed, distinct, fun id => bracketed.count_ended distinct, frame given, ?_⟩
  intro level capacity' sequence' given' room'
  rcases placed.renamed level given given' with ⟨number, zero, differ, same⟩
  rw [records (by rwa [same, List.length_map])]
  exact ⟨number, zero, differ, same⟩

end World

end TemplateCompiler
