import TemplateCompiler.Proofs.SessionCalls
import TemplateCompiler.Report.Rendering

/-!
# The limit on diagnostics

A limit keeps the first diagnostics of a document, in the order in which they are found: what there
is to say about its imports comes before what the phases find.  What is compiled, and what a session
knows afterwards, does not depend on the limit (`Session.compileFile_limited`).  Whether the
document counts as failed does: it is still known to have failed if an error is among those that are
kept, and only then (`Session.failure_survives_iff`).
-/

namespace TemplateCompiler

/-! ## Bags with a limit -/

namespace DiagnosticBag

/-- What a limit leaves of diagnostics that come one after another; zero is no limit. -/
def cut (limit : Nat) (ds : List Diagnostic) : List Diagnostic :=
  if limit = 0 then ds else ds.take limit

def holding (limit : Nat) (ds : List Diagnostic) : DiagnosticBag := ⟨cut limit ds, limit⟩

theorem cut_zero (ds : List Diagnostic) : cut 0 ds = ds := rfl

theorem cut_of_pos {limit : Nat} (positive : limit ≠ 0) (ds : List Diagnostic) :
    cut limit ds = ds.take limit := if_neg positive

theorem cut_eq_nil_iff (limit : Nat) (ds : List Diagnostic) : cut limit ds = [] ↔ ds = [] := by
  rw [cut]
  split
  · rfl
  · next positive =>
    rw [List.take_eq_nil_iff]
    exact or_iff_right positive

theorem cut_subset {limit : Nat} {ds : List Diagnostic} {d : Diagnostic} (kept : d ∈ cut limit ds) :
    d ∈ ds := by
  rw [cut] at kept
  split at kept
  · exact kept
  · exact List.mem_of_mem_take kept

theorem any_of_any_cut {limit : Nat} {ds : List Diagnostic} {p : Diagnostic → Bool}
    (some : (cut limit ds).any p = true) : (cut 0 ds).any p = true := by
  rcases List.any_eq_true.mp some with ⟨d, kept, holds⟩
  exact List.any_eq_true.mpr ⟨d, cut_subset kept, holds⟩

theorem ofLimit_eq (limit : Int) : ofLimit limit = holding limit.toNat [] := by
  rw [holding, (cut_eq_nil_iff _ _).mpr rfl]
  rfl

theorem add_holding (limit : Nat) (ds : List Diagnostic) (d : Diagnostic) :
    ((holding limit ds).add d).1 = holding limit (ds ++ [d]) := by
  rw [add, isFull, holding, holding]
  dsimp only
  by_cases none : limit = 0
  · subst none
    rfl
  · rw [cut_of_pos none, cut_of_pos none, List.length_take, List.take_append]
    have positive : 0 < limit := Nat.pos_of_ne_zero none
    by_cases full : limit ≤ ds.length
    · rw [Nat.min_eq_left full, Nat.sub_eq_zero_of_le full, List.take_zero, List.append_nil]
      simp [positive]
    · have room : [d].take (limit - ds.length) = [d] :=
        List.take_of_length_le (Nat.le_sub_of_add_le (by rw [List.length_singleton]; omega))
      rw [Nat.min_eq_right (Nat.le_of_not_le full), room]
      simp [full]

theorem addAll_holding (limit : Nat) (ds more : List Diagnostic) :
    (holding limit ds).addAll more = holding limit (ds ++ more) := by
  induction more generalizing ds with
  | nil => rw [List.append_nil]; rfl
  | cons d more ih =>
    change ((holding limit ds).add d).1.addAll more = _
    rw [add_holding, ih, List.append_assoc, List.singleton_append]

end DiagnosticBag

theorem DiagnosticBag.sort_holding_of_unlocated (ds : List Diagnostic)
    (unlocated : ∀ d ∈ ds, d.spans = []) (limit : Nat) :
    (holding limit ds).sort = holding limit ds := by
  rw [sort, holding]
  dsimp only
  rw [Diagnostic.sorted_of_unlocated fun d kept => unlocated d (cut_subset kept)]

/-- What a call has to say about a document, whatever the limit. -/
structure Findings where
  /-- The result, but for its bag. -/
  result : CompileResult
  /-- What was found about the imports, and came first. -/
  ignored : List Diagnostic
  /-- All else that was found, in the order in which it was found. -/
  found : List Diagnostic
  /-- The record of timings, to which no limit applies. -/
  timing? : Option Diagnostic := none

namespace Findings

def limited (limit : Nat) (f : Findings) : CompileResult :=
  let bag := (DiagnosticBag.holding limit (f.ignored ++ f.found)).sort
  { f.result with bag := (f.timing?.map (Session.addTimings bag)).getD bag }

/-- The findings of a document besides those of the code writer are what they can be: warnings about
imports that were ignored, and the information about timings.  None of them is an error. -/
structure Regular (f : Findings) : Prop where
  ignored : ∀ d ∈ f.ignored, ∃ name cause, d = Session.ignoredImport name cause
  timing : ∀ d ∈ f.timing?, d.severity = .info ∧ d.code = .timings

end Findings

namespace Session

def limited (s : Session) (limit : Int) : Session :=
  { s with options := { s.options with maxDiagnostics := limit } }

/-! ## Asking for imports -/

theorem askImport_limited (s : Session) (limit : Int) (name : Text) :
    (s.limited limit).askImport name =
      ((s.askImport name).1.limited limit, (s.askImport name).2) := by
  have entries : (s.limited limit).knownImport? name = s.knownImport? name := rfl
  rw [askImport, askImport, entries]
  cases s.knownImport? name <;> rfl

/-- The imports that are found, and those that are ignored, do not depend on the limit. -/
theorem askImports_limited (s : Session) (document : Text) (files : List SourceFile)
    (names : List Text) :
    ∃ (next : Session) (res : Except SessionError (List Diagnostic × List SourceFile)),
      (∀ ignored all, res = .ok (ignored, all) →
        ∀ d ∈ ignored, ∃ name cause, d = ignoredImport name cause)
      ∧ ∀ limit bag, (s.limited limit).askImports document bag files names =
        (next.limited limit, res.map fun found => (bag.addAll found.1, found.2)) := by
  induction names generalizing s files with
  | nil =>
    refine ⟨s, .ok ([], files), fun ignored all done d member => ?_, fun limit bag => rfl⟩
    cases done
    cases member
  | cons name names ih =>
    simp only [askImports, askImport_limited]
    rcases s.askImport name with ⟨next, entry⟩
    cases entry with
    | present file => exact ih next (files ++ [file])
    | missing => exact ih next files
    | broken cause =>
      dsimp only
      by_cases lenient : next.options.config.suppressImportErrors
      · rcases ih next files with ⟨last, res, warned, rest⟩
        refine ⟨last, res.map fun found => (ignoredImport name cause :: found.1, found.2), ?_, ?_⟩
        · intro ignored all done
          cases res with
          | error e => cases done
          | ok found =>
            cases done
            exact List.forall_mem_cons.mpr ⟨⟨name, cause, rfl⟩, warned _ _ rfl⟩
        · intro limit bag
          refine (if_pos lenient).trans ?_
          rw [rest]
          cases res <;> rfl
      · exact ⟨next, .error (.importBroken document name cause), fun _ _ same => (by cases same),
          fun limit bag => if_neg lenient⟩

/-! ## Through the phases -/

theorem isEmpty_sort_holding (limit : Nat) (ds : List Diagnostic) :
    (DiagnosticBag.holding limit ds).sort.items.isEmpty = ds.isEmpty := by
  have length : (DiagnosticBag.holding limit ds).sort.items.length =
      (DiagnosticBag.cut limit ds).length :=
    List.length_mergeSort _
  rw [Bool.eq_iff_iff, List.isEmpty_iff_length_eq_zero, length, ← List.isEmpty_iff_length_eq_zero,
    List.isEmpty_iff, List.isEmpty_iff, DiagnosticBag.cut_eq_nil_iff]

/-- Keeping the output does not depend on the limit.  An output is kept if nothing was found, so
that there is room for the one warning about a record that could not be written. -/
theorem keep_limited (s : Session) (key : Digest) (doc : CodeDocument) (r : CompileResult)
    (ignored found : List Diagnostic) :
    ∃ (next : Session) (more : List Diagnostic), ∀ limit : Int,
      (s.limited limit).keep key doc
          { r with bag := (DiagnosticBag.holding limit.toNat (ignored ++ found)).sort } =
        (next.limited limit,
          { r with
            bag := (DiagnosticBag.holding limit.toNat (ignored ++ (found ++ more))).sort }) := by
  have records (limit : Int) : (s.limited limit).records? = s.records? := rfl
  simp only [keep, records, isEmpty_sort_holding]
  cases s.records? with
  | none => exact ⟨s, [], fun limit => by rw [List.append_nil]⟩
  | some kept =>
    dsimp only
    cases nothing : (ignored ++ found).isEmpty with
    | false => exact ⟨s, [], fun limit => by rw [List.append_nil]; rfl⟩
    | true =>
      cases closed : kept.closed? with
      | none =>
        exact ⟨{ s with records? := some (kept.write key (s.recordOf doc r.path r.output)) }, [],
          fun limit => by rw [List.append_nil]; rfl⟩
      | some cause =>
        refine ⟨s, [recordsClosed cause], fun limit => ?_⟩
        have added := DiagnosticBag.add_holding limit.toNat [] (recordsClosed cause)
        have sorted := DiagnosticBag.sort_holding_of_unlocated [recordsClosed cause]
          (by simp [recordsClosed, Diagnostic.spans]) limit.toNat
        have empty := DiagnosticBag.sort_holding_of_unlocated []
          (fun d member => absurd member List.not_mem_nil) limit.toNat
        rw [← List.append_assoc, List.isEmpty_iff.mp nothing, List.nil_append, sorted, empty]
        change (_, { r with bag := ((DiagnosticBag.holding limit.toNat []).add _).1 }) = _
        rw [added]
        rfl

/-- The result of a document that has been taken through all phases. -/
theorem compiled_limited (s : Session) (r : CompileResult) (key : Digest) (doc : CodeDocument)
    (timer : Timing.Recorder) {ignored : List Diagnostic}
    (warnings : ∀ d ∈ ignored, ∃ name cause, d = ignoredImport name cause) :
    ∃ (next : Session) (f : Findings), f.Regular ∧ ∀ limit : Int,
      (s.limited limit).compiled { r with bag := .holding limit.toNat ignored } key doc timer =
        (next.limited limit, f.limited limit.toNat) := by
  let output := (doc.output?.map fun o => (o.text, o.diagnostics)).getD ([], [])
  let raw : CompileResult := { r with document? := some doc, output := output.1 }
  rcases s.keep_limited key doc raw ignored output.2 with ⟨next, more, kept⟩
  refine ⟨next, {
    result := { raw with timing? := some timer.report }
    ignored
    found := output.2 ++ more
    timing? := if next.options.timings then some (timingDiagnostic r.path timer.report) else none },
    ⟨warnings, ?_⟩, fun limit => ?_⟩
  · intro d timed
    dsimp only at timed
    split at timed
    · cases timed
      exact ⟨rfl, rfl⟩
    · cases timed
  · have step := kept limit
    have same : (next.limited limit).options.timings = next.options.timings := rfl
    simp only [compiled, DiagnosticBag.addAll_holding]
    dsimp only [raw, output] at step
    rw [step]
    dsimp only [Findings.limited]
    rw [same]
    cases next.options.timings <;> rfl

/-- Running the phases on a document, with any limit.  The phases do not look at the limit, and the
findings meet it when they are put into the bag. -/
theorem runDocument_limited (s : Session) (r : CompileResult) (key : Digest) (doc : CodeDocument)
    (timer : Timing.Recorder) (parent : Nat) {ignored : List Diagnostic}
    (warnings : ∀ d ∈ ignored, ∃ name cause, d = ignoredImport name cause) :
    ∃ (next : Session) (res : Except SessionError Findings), (∀ f, res = .ok f → f.Regular)
      ∧ ∀ limit : Int,
        (s.limited limit).runDocument { r with bag := .holding limit.toNat ignored } key doc timer
            parent = (next.limited limit, res.map (Findings.limited limit.toNat)) := by
  have engine (limit : Int) : (s.limited limit).engine = s.engine := rfl
  have files (limit : Int) : (s.limited limit).files = s.files := rfl
  have provided (limit : Int) : (s.limited limit).providedImport? = s.providedImport? := rfl
  have tracer (limit : Int) : (s.limited limit).tracer = s.tracer := rfl
  simp only [runDocument, engine, files, provided, tracer]
  generalize World.run _ s.engine parent = ran
  rcases ran with ⟨w, _ | cause⟩
  · obtain ⟨next, f, regular, done⟩ := compiled_limited { s with
        files := w.files
        providedImport? := w.providedImport?
        tracer := w.tracer
        events := s.events ++ w.events.map (.phase r.path) } r key w.document
      (recordPhases timer w.events) warnings
    refine ⟨next, .ok f, fun g same => Except.ok.inj same ▸ regular, fun limit => ?_⟩
    exact congrArg (fun p => (p.1, Except.ok p.2)) (done limit)
  · exact ⟨{ s with
        files := w.files
        providedImport? := w.providedImport?
        tracer := w.tracer
        events := s.events ++ w.events.map (.phase r.path) },
      .error (.document r.path cause), fun _ same => (by cases same), fun limit => rfl⟩

/-- A document that has been read, with its imports, comes out the same under every limit. -/
theorem compileLoaded_limited (s : Session) (r : CompileResult) (doc : CodeDocument) (parent : Nat)
    {ignored : List Diagnostic}
    (warnings : ∀ d ∈ ignored, ∃ name cause, d = ignoredImport name cause) :
    ∃ (next : Session) (res : Except SessionError Findings), (∀ f, res = .ok f → f.Regular)
      ∧ ∀ limit : Int,
        (s.limited limit).compileLoaded { r with bag := .holding limit.toNat ignored } doc parent =
          (next.limited limit, res.map (Findings.limited limit.toNat)) := by
  have key (limit : Int) : (s.limited limit).recordKey doc = s.recordKey doc := rfl
  have output (limit : Int) : (s.limited limit).keptOutput? (s.recordKey doc) doc =
    s.keptOutput? (s.recordKey doc) doc := rfl
  simp only [compileLoaded, key, output]
  cases s.keptOutput? (s.recordKey doc) doc with
  | some output =>
    refine ⟨s, .ok {
      result := { r with output, isKept := true, timing? := some (loadTimer doc).report }
      ignored, found := [] }, fun f same => ?_, fun limit => ?_⟩
    · cases same
      exact ⟨warnings, fun d timed => (by cases timed)⟩
    · have sorted := DiagnosticBag.sort_holding_of_unlocated ignored (fun d member => by
        rcases warnings d member with ⟨name, cause, rfl⟩
        rfl) limit.toNat
      dsimp only [Findings.limited, Except.map]
      rw [List.append_nil, sorted]
      rfl
  | none => exact s.runDocument_limited r (s.recordKey doc) doc (loadTimer doc) parent warnings

/-! ## Calls -/

theorem compileName_limited (s : Session) (name : Text) (parent : Nat) :
    ∃ (next : Session) (res : Except SessionError Findings), (∀ f, res = .ok f → f.Regular)
      ∧ ∀ limit : Int, (s.limited limit).compileName name parent =
        (next.limited limit, res.map (Findings.limited limit.toNat)) := by
  have tree (limit : Int) : (s.limited limit).source = s.source := rfl
  simp only [compileName, prepare, tree]
  cases s.source.read name with
  | error cause =>
    refine ⟨s, .ok {
      result := { path := name, bag := {} }
      ignored := [], found := [sourceBroken name cause] }, fun f same => ?_, fun limit => ?_⟩
    · cases same
      exact ⟨fun d member => absurd member List.not_mem_nil, fun d timed => (by cases timed)⟩
    · have bound : (s.limited limit).options.maxDiagnostics = limit := rfl
      have sorted := DiagnosticBag.sort_holding_of_unlocated [sourceBroken name cause]
        (by simp [sourceBroken, Diagnostic.spans, Diagnostic.unlocated]) limit.toNat
      dsimp only [Findings.limited, Except.map]
      rw [bound, DiagnosticBag.ofLimit_eq, DiagnosticBag.addAll_holding, List.nil_append, sorted]
      rfl
  | ok content =>
    have bound (limit : Int) : (s.limited limit).options.maxDiagnostics = limit := rfl
    have added (limit : Int) : (s.limited limit).withSource name content =
      (s.withSource name content).limited limit := rfl
    have kind (limit : Int) : (s.limited limit).kindOf name = s.kindOf name := rfl
    have document (limit : Int) : (s.limited limit).documentOf name content =
      s.documentOf name content := rfl
    have files (limit : Int) : (s.limited limit).files = s.files := rfl
    obtain ⟨next, res, warnings, asked⟩ := (s.withSource name content).askImports_limited name []
      (Project.importPaths name (s.kindOf name))
    simp only [loading, added, kind, bound, document, files, asked, DiagnosticBag.ofLimit_eq]
    cases res with
    | error e => exact ⟨next, .error e, fun _ same => (by cases same), fun limit => rfl⟩
    | ok found =>
      rcases found with ⟨ignored, imports⟩
      simp only [Except.map, DiagnosticBag.addAll_holding, List.nil_append]
      exact next.compileLoaded_limited
        { path := name, file := s.files.size, bag := {} } (s.documentOf name content imports) parent
        (warnings ignored imports rfl)

/-- What a call does and finds does not depend on the limit, which decides how much is kept. -/
theorem compileFile_limited (s : Session) (path : Text) (parent : Nat) :
    ∃ (next : Session) (res : Except SessionError Findings), (∀ f, res = .ok f → f.Regular)
      ∧ ∀ limit : Int, (s.limited limit).compileFile path parent =
        (next.limited limit, res.map (Findings.limited limit.toNat)) := by
  have tracer (limit : Int) : (s.limited limit).tracer = s.tracer := rfl
  simp only [compileFile_eq, tracer]
  generalize s.tracer.begin .document (Path.clean path) parent = begun
  obtain ⟨next, res, regular, named⟩ :=
    compileName_limited { s with tracer := begun.1 } (Path.clean path) begun.2.id
  refine ⟨{ next with tracer := next.tracer.finish begun.2 [] }, res, regular, fun limit => ?_⟩
  have called := named limit
  exact congrArg (fun p => ({ p.1 with tracer := p.1.tracer.finish begun.2 [] }, p.2)) called

theorem compileNames_limited (s : Session) (parent : Nat) (names : List Text) :
    ∃ (next : Session) (res : Except SessionError (List Findings)),
      (∀ fs, res = .ok fs → ∀ f ∈ fs, f.Regular)
      ∧ ∀ (limit : Int) (results : List CompileResult),
        (s.limited limit).compileNames parent results names =
          (next.limited limit,
            res.map fun fs => results ++ fs.map (Findings.limited limit.toNat)) := by
  induction names generalizing s with
  | nil =>
    refine ⟨s, .ok [], fun fs same f member => ?_, fun limit results => ?_⟩
    · cases same
      cases member
    · rw [compileNames, Except.map, List.map_nil, List.append_nil]
  | cons name names ih =>
    rcases s.compileFile_limited name parent with ⟨next, res, regular, called⟩
    simp only [compileNames, called]
    cases res with
    | error e => exact ⟨next, .error e, fun _ same => (by cases same), fun _ _ => rfl⟩
    | ok f =>
      obtain ⟨last, rest, regulars, go⟩ :=
        ih { next with events := next.events ++ [.finished f.result.path] }
      refine ⟨last, rest.map (f :: ·), fun fs same g member => ?_, fun limit results => ?_⟩
      · cases rest with
        | error e => cases same
        | ok others =>
          cases same
          rcases List.mem_cons.mp member with rfl | among
          · exact regular _ rfl
          · exact regulars others rfl g among
      · refine (go limit (results ++ [f.limited limit.toNat])).trans ?_
        cases rest with
        | error e => rfl
        | ok others =>
          dsimp only [Except.map]
          rw [List.map_cons, List.append_assoc, List.singleton_append]

/-- Compiling all documents of a project does and finds the same under every limit. -/
theorem compileAll_limited (s : Session) :
    ∃ res : Except SessionError (List Findings), (∀ fs, res = .ok fs → ∀ f ∈ fs, f.Regular)
      ∧ ∀ limit : Int, (s.limited limit).compileAll.2 =
        res.map (List.map (Findings.limited limit.toNat)) := by
  have tracer (limit : Int) : (s.limited limit).tracer = s.tracer := rfl
  have expands (limit : Int) : (s.limited limit).expand (s.limited limit).options.paths =
    s.expand s.options.paths := rfl
  simp only [compileAll, tracer, expands]
  cases s.expand s.options.paths with
  | error e => exact ⟨.error e, fun _ same => (by cases same), fun _ => rfl⟩
  | ok names =>
    generalize s.tracer.begin .driver "compile" 0 = begun
    obtain ⟨next, res, regular, go⟩ :=
      compileNames_limited { s with tracer := begun.1 } begun.2.id names
    refine ⟨res, regular, fun limit => (congrArg Prod.snd (go limit [])).trans ?_⟩
    cases res <;> rfl

end Session

/-! ## What the limit hides -/

theorem isError_of_info (d : Diagnostic) (info : d.severity = .info) : d.isError = false := by
  rw [Diagnostic.isError, info]
  rfl

namespace Findings

variable {f : Findings}

theorem items_addTimings (bag : DiagnosticBag) (d : Diagnostic) :
    (Session.addTimings bag d).items = bag.items ++ [d] := by
  rw [Session.addTimings, DiagnosticBag.add]
  cases bag.isFull <;> rfl

theorem items_limited (f : Findings) (limit : Nat) :
    (f.limited limit).bag.items =
      Diagnostic.sorted (DiagnosticBag.cut limit (f.ignored ++ f.found)) ++ f.timing?.toList := by
  rw [limited]
  cases f.timing? with
  | none => exact (List.append_nil _).symm
  | some d => exact items_addTimings _ d

/-- What makes a document fail is looked for among what the limit leaves. -/
theorem Regular.any_items (regular : f.Regular) {p : Diagnostic → Bool}
    (harmless : ∀ d, d.severity = .info → p d = false) (limit : Nat) :
    (f.limited limit).bag.items.any p = (DiagnosticBag.cut limit (f.ignored ++ f.found)).any p := by
  have timing : f.timing?.toList.any p = false := by
    refine List.any_eq_false.mpr fun d member => ?_
    rw [harmless d (regular.timing d (Option.mem_toList.mp member)).1]
    exact Bool.false_ne_true
  rw [items_limited, List.any_append, timing, Bool.or_false, Diagnostic.sorted,
    (List.mergeSort_perm _ _).any_eq]

theorem Regular.reports_limited (regular : f.Regular) (limit : Nat) :
    (f.limited limit).reports =
      (Diagnostic.sorted (DiagnosticBag.cut limit (f.ignored ++ f.found))).filter
        fun d => d.code != .timings := by
  have timing : (f.timing?.toList.filter fun d => d.code != .timings) = [] := by
    refine List.filter_eq_nil_iff.mpr fun d member => ?_
    rw [(regular.timing d (Option.mem_toList.mp member)).2]
    exact Bool.false_ne_true
  rw [CompileResult.reports, DiagnosticBag.reported, items_limited, List.filter_append, timing,
    List.append_nil]

theorem hasErrors_of_reports {r : CompileResult} (some : Diagnostic.anyError r.reports = true) :
    r.bag.hasErrors = true := by
  rcases List.any_eq_true.mp some with ⟨d, member, error⟩
  exact List.any_eq_true.mpr ⟨d, (List.mem_filter.mp member).1, error⟩

/-- Where there is room for one finding, and it is reported, there is nothing else. -/
theorem Regular.hasErrors_of_single (regular : f.Regular) {d : Diagnostic}
    (single : (f.limited 1).reports = [d]) : (f.limited 1).bag.hasErrors = d.isError := by
  rw [regular.reports_limited, DiagnosticBag.cut_of_pos Nat.one_ne_zero] at single
  rw [DiagnosticBag.hasErrors, Diagnostic.anyError, regular.any_items isError_of_info,
    DiagnosticBag.cut_of_pos Nat.one_ne_zero]
  cases all : f.ignored ++ f.found with
  | nil =>
    rw [all, List.take_nil, Diagnostic.sorted, List.mergeSort_nil] at single
    cases single
  | cons other others =>
    rw [all, List.take_succ_cons, List.take_zero, Diagnostic.sorted, List.mergeSort_singleton]
      at single
    have same : d = other := by
      have member : d ∈ [other].filter fun e => e.code != .timings :=
        single ▸ List.mem_singleton_self d
      exact List.mem_singleton.mp (List.mem_filter.mp member).1
    rw [same]
    exact Bool.or_false _

/-- The imports that are ignored take up room, and are no errors. -/
theorem Regular.hasErrors_limited (regular : f.Regular) {limit : Nat} (positive : limit ≠ 0) :
    (f.limited limit).bag.hasErrors =
      Diagnostic.anyError (f.found.take (limit - f.ignored.length)) := by
  have warnings : (f.ignored.take limit).any Diagnostic.isError = false := by
    refine List.any_eq_false.mpr fun d member => ?_
    rcases regular.ignored d (List.mem_of_mem_take member) with ⟨name, cause, rfl⟩
    exact Bool.false_ne_true
  rw [DiagnosticBag.hasErrors, Diagnostic.anyError, regular.any_items isError_of_info,
    DiagnosticBag.cut_of_pos positive,
    List.take_append, List.any_append, warnings, Bool.false_or, Diagnostic.anyError]

theorem Regular.hasErrors_unlimited (regular : f.Regular) :
    (f.limited 0).bag.hasErrors = Diagnostic.anyError f.found := by
  have warnings : f.ignored.any Diagnostic.isError = false := by
    refine List.any_eq_false.mpr fun d member => ?_
    rcases regular.ignored d member with ⟨name, cause, rfl⟩
    exact Bool.false_ne_true
  rw [DiagnosticBag.hasErrors, Diagnostic.anyError, regular.any_items isError_of_info,
    DiagnosticBag.cut_zero, List.any_append, warnings, Bool.false_or, Diagnostic.anyError]

end Findings

/-- Whether a diagnostic is an error in a report. -/
def Report.Options.counts (o : Report.Options) (d : Diagnostic) : Bool :=
  (o.admit? d).any Diagnostic.isError

theorem Report.Options.counts_of_info (o : Report.Options) (d : Diagnostic)
    (info : d.severity = .info) : o.counts d = false := by
  rw [counts, admit?, info]
  split
  · rfl
  · exact isError_of_info d info

theorem Report.Options.anyError_gather (o : Report.Options) (bags : List DiagnosticBag) :
    Diagnostic.anyError (o.gather bags) = bags.any fun b => b.items.any o.counts := by
  rw [gather, Diagnostic.anyError, List.any_filterMap, List.any_flatMap]
  rfl

/-- Whether a report of some results says that there are errors, which makes the run fail. -/
def Report.Options.fails (o : Report.Options) (results : List CompileResult) : Bool :=
  Diagnostic.anyError (o.gather (results.map CompileResult.bag))

theorem Report.Options.fails_limited (o : Report.Options) {fs : List Findings}
    (regular : ∀ f ∈ fs, f.Regular) (limit : Nat) :
    o.fails (fs.map (Findings.limited limit)) = true ↔
      ∃ f ∈ fs, ∃ d ∈ DiagnosticBag.cut limit (f.ignored ++ f.found), o.counts d = true := by
  rw [fails, anyError_gather, List.map_map, List.any_map, List.any_eq_true]
  refine exists_congr fun f => and_congr_right fun member => ?_
  change (f.limited limit).bag.items.any o.counts = true ↔ _
  rw [(regular f member).any_items o.counts_of_info, List.any_eq_true]

namespace Session

/-- A status that a limit can only improve is the same under a limit if it stays bad. -/
theorem status_eq_iff (status : Nat → Bool) (limit : Int)
    (improves : status limit.toNat = true → status 0 = true) :
    status limit.toNat = status 0 ↔ (0 < limit → status 0 = true → status limit.toNat = true) := by
  by_cases positive : 0 < limit
  · rw [forall_prop_of_true positive, Bool.eq_iff_iff]
    exact ⟨Iff.mpr, fun worse => ⟨improves, worse⟩⟩
  · rw [Int.toNat_of_nonpos (Int.not_lt.mp positive)]
    exact iff_of_true rfl fun absurdity => absurd absurdity positive

theorem toNat_ne_zero {limit : Int} (positive : 0 < limit) : limit.toNat ≠ 0 :=
  Nat.pos_iff_ne_zero.mp (Int.pos_iff_toNat_pos.mp positive)

/-- A call fails under every limit, or gives a result under every limit.  A limit leaves the result
failed if an error is among what there is room for after the ignored imports, and only then.  In the
same way, the status of a run that compiles all documents is that of a run without limit if what
makes it fail is among what the limit leaves of some document, and only then. -/
theorem failure_survives_iff (s : Session) :
    (∀ path parent,
      (∃ e, ∀ limit, ((s.limited limit).compileFile path parent).2 = .error e)
      ∨ ∃ f : Findings, f.Regular ∧ ∀ limit : Int,
          ((s.limited limit).compileFile path parent).2 = .ok (f.limited limit.toNat)
          ∧ ((f.limited limit.toNat).bag.hasErrors = (f.limited 0).bag.hasErrors ↔
              (0 < limit → Diagnostic.anyError f.found = true →
                Diagnostic.anyError (f.found.take (limit.toNat - f.ignored.length)) = true)))
    ∧ ((∃ e, ∀ limit, (s.limited limit).compileAll.2 = .error e)
      ∨ ∃ fs : List Findings, (∀ f ∈ fs, f.Regular) ∧ ∀ limit : Int,
          (s.limited limit).compileAll.2 = .ok (fs.map (Findings.limited limit.toNat))
          ∧ ∀ o : Report.Options,
              (o.fails (fs.map (Findings.limited limit.toNat)) =
                  o.fails (fs.map (Findings.limited 0)) ↔
                (0 < limit → (∃ f ∈ fs, ∃ d ∈ f.ignored ++ f.found, o.counts d = true) →
                  ∃ f ∈ fs, ∃ d ∈ (f.ignored ++ f.found).take limit.toNat,
                    o.counts d = true))) := by
  refine ⟨fun path parent => ?_, ?_⟩
  · rcases s.compileFile_limited path parent with ⟨next, res, regular, called⟩
    cases res with
    | error e => exact .inl ⟨e, fun limit => congrArg Prod.snd (called limit)⟩
    | ok f =>
      have regular := regular f rfl
      refine .inr ⟨f, regular, fun limit => ⟨congrArg Prod.snd (called limit), ?_⟩⟩
      have improves : (f.limited limit.toNat).bag.hasErrors = true →
          (f.limited 0).bag.hasErrors = true := by
        rw [DiagnosticBag.hasErrors, DiagnosticBag.hasErrors, Diagnostic.anyError,
          Diagnostic.anyError, regular.any_items isError_of_info,
          regular.any_items isError_of_info]
        exact DiagnosticBag.any_of_any_cut
      refine (status_eq_iff (fun n => (f.limited n).bag.hasErrors) limit improves).trans
        (forall_congr' fun positive => ?_)
      rw [regular.hasErrors_limited (toNat_ne_zero positive), regular.hasErrors_unlimited]
  · rcases s.compileAll_limited with ⟨res, regular, called⟩
    cases res with
    | error e => exact .inl ⟨e, called⟩
    | ok fs =>
      have regular := regular fs rfl
      refine .inr ⟨fs, regular, fun limit => ⟨called limit, fun o => ?_⟩⟩
      have improves : o.fails (fs.map (Findings.limited limit.toNat)) = true →
          o.fails (fs.map (Findings.limited 0)) = true := by
        rw [o.fails_limited regular, o.fails_limited regular]
        rintro ⟨f, member, d, kept, counts⟩
        exact ⟨f, member, d, DiagnosticBag.cut_subset kept, counts⟩
      refine (status_eq_iff (fun n => o.fails (fs.map (Findings.limited n))) limit
        improves).trans (forall_congr' fun positive => ?_)
      rw [o.fails_limited regular, o.fails_limited regular]
      simp only [DiagnosticBag.cut_zero, DiagnosticBag.cut_of_pos (toNat_ne_zero positive)]

/-- A view with an error, below an import that cannot be read because it is a directory. -/
def brokenImport : FileSource := FileTree.source
  ⟨[("_ViewImports.quill/a.txt", ""), ("a.quill", "@\x7b x")]⟩

/-- All that is found about a document whose source and imports can be read, in the order in which
it is found. -/
def foundIn? (s : Session) (path : Text) : Option (List Diagnostic) :=
  match s.prepare (Path.clean path) with
  | (_, .inl _) => none
  | (next, .inr p) =>
    if (Workpiece.parserOptions next.engine p.document).conflict?.isSome then none
    else some (p.bag.addAll (next.written p.document p.source).diagnostics).items

theorem reports_of_foundIn? {s : Session} (sound : s.Sound) (none : s.records? = none) {path : Text}
    {found : List Diagnostic} (judged : s.foundIn? path = some found) (parent : Nat) :
    ∃ r, (s.compileFile path parent).2 = .ok r
      ∧ r.reports = (Diagnostic.sorted found).filter fun d => d.code != .timings := by
  have seen := sound.outcome_unrecorded none path parent
  rw [judgement] at seen
  rw [foundIn?] at judged
  split at judged
  · cases judged
  · next next p prepared =>
    rw [prepared] at seen
    split at judged
    · cases judged
    · next honored =>
      rw [Option.not_isSome_iff_eq_none] at honored
      cases judged
      dsimp only at seen
      rw [verdict, honored] at seen
      cases done : (s.compileFile path parent).2 with
      | error e =>
        rw [done] at seen
        cases seen
      | ok r =>
        rw [done] at seen
        exact ⟨r, rfl, congrArg Prod.snd (Except.ok.inj seen)⟩

theorem Sound.limited {s : Session} (sound : s.Sound) (limit : Int) : (s.limited limit).Sound :=
  ⟨sound.engine, sound.helpers, sound.imports, sound.provided⟩

/-- Without a limit the result has an error; with a limit of one, the warning about the import
leaves no room for it. -/
theorem failure_survives_iff_hidden :
    ∃ s f, start { config := { suppressImportErrors := true } } brokenImport none .none = .ok s
      ∧ ((s.limited 0).compileFile "a.quill").2 = .ok (Findings.limited 0 f)
      ∧ ((s.limited 1).compileFile "a.quill").2 = .ok (Findings.limited 1 f)
      ∧ (Findings.limited 0 f).bag.hasErrors = true
      ∧ (Findings.limited 1 f).bag.hasErrors = false := by
  have judged :
      ((start { config := { suppressImportErrors := true } } brokenImport none .none).toOption.map
      fun s => ([0, 1].map fun limit => ((s.limited limit).foundIn? "a.quill").map
        fun found => found.map fun d => (d.isError, d.code == .timings), s.records?.isNone))
        = some ([some [(false, false), (true, false)], some [(false, false)]], true) := by
    decide +kernel
  cases opened : start { config := { suppressImportErrors := true } } brokenImport none .none with
  | error e =>
    rw [opened] at judged
    cases judged
  | ok s =>
    rw [opened] at judged
    rcases Prod.mk.inj (Option.some.inj judged) with ⟨found, unrecorded⟩
    have unrecorded := Option.isNone_iff_eq_none.mp unrecorded
    rcases List.cons.inj found with ⟨unlimited, rest⟩
    rcases Option.map_eq_some_iff.mp unlimited with ⟨all, allFound, shapes⟩
    rcases Option.map_eq_some_iff.mp (List.cons.inj rest).1 with ⟨first, oneFound, shape⟩
    have sound := sound_of_start opened
    rcases reports_of_foundIn? (sound.limited 0) unrecorded allFound 0 with ⟨r, done, reports⟩
    rcases reports_of_foundIn? (sound.limited 1) unrecorded oneFound 0 with ⟨r', done', reports'⟩
    rcases (failure_survives_iff s).1 "a.quill" 0 with ⟨e, failed⟩ | ⟨f, regular, results⟩
    · rw [failed 0] at done
      cases done
    · have result := (results 0).1
      have result' := (results 1).1
      rw [done] at result
      rw [done'] at result'
      cases result
      cases result'
      refine ⟨s, f, rfl, done, done', ?_, ?_⟩
      · have worse : (true, false) ∈ all.map fun d => (d.isError, d.code == .timings) :=
          shapes ▸ List.mem_cons_of_mem _ (List.mem_singleton_self _)
        rcases List.mem_map.mp worse with ⟨error, member, shape⟩
        rcases Prod.mk.inj shape with ⟨isError, plain⟩
        refine Findings.hasErrors_of_reports (List.any_eq_true.mpr ⟨error, ?_, isError⟩)
        refine reports ▸ List.mem_filter.mpr ⟨List.mem_mergeSort.mpr member, ?_⟩
        rw [bne, plain]
        rfl
      · rcases List.map_eq_singleton_iff.mp shape with ⟨warning, rfl, harmless⟩
        rcases Prod.mk.inj harmless with ⟨isError, plain⟩
        have single : (Findings.limited 1 f).reports = [warning] := by
          refine reports'.trans ?_
          rw [Diagnostic.sorted, List.mergeSort_singleton, List.filter_singleton, bne, plain]
          rfl
        rw [regular.hasErrors_of_single single, isError]

end Session

end TemplateCompiler
