import TemplateCompiler.Proofs.SessionFiles

/-!
# Calls of a session

A call compiles one document: it reads the source, asks for the imports, and takes the output from a
record or takes the document through the phases.  Each part gets a specification here, in terms of
what the caller sees (`Session.outcome`) and of what is left in the session.  A call keeps sessions
sound (`Session.Sound.compileFile`).
-/

namespace TemplateCompiler

/-- Findings without a place are in order as they are. -/
theorem Diagnostic.sorted_of_unlocated {ds : List Diagnostic}
    (unlocated : ∀ d ∈ ds, d.spans = []) : sorted ds = ds := by
  refine List.mergeSort_of_pairwise (List.pairwise_of_forall_mem_list fun d member e member' => ?_)
  rw [compare, span?_of_spans_nil (unlocated d member), span?_of_spans_nil (unlocated e member')]
  rfl

namespace DiagnosticBag

/-- The findings in a bag, without the record of timings. -/
def reported (b : DiagnosticBag) : List Diagnostic := b.items.filter fun d => d.code != .timings

theorem mem_addAll {b : DiagnosticBag} {ds : List Diagnostic} {d : Diagnostic}
    (member : d ∈ (b.addAll ds).items) : d ∈ b.items ∨ d ∈ ds := by
  induction ds generalizing b with
  | nil => exact .inl member
  | cons e ds ih =>
    rcases ih (b := (b.add e).1) member with before | after
    · rw [add] at before
      split at before
      · exact .inl before
      · rcases List.mem_append.mp before with old | new
        · exact .inl old
        · exact .inr (List.mem_singleton.mp new ▸ List.mem_cons_self)
    · exact .inr (List.mem_cons_of_mem e after)

end DiagnosticBag

/-- The findings about a document, without the record of timings. -/
def CompileResult.reports (r : CompileResult) : List Diagnostic := r.bag.reported

namespace Session

/-- What a caller sees of a compilation: an error, or the output and the findings. -/
def outcome (result : Except SessionError CompileResult) :
    Except SessionError (Text × List Diagnostic) :=
  result.map fun r => (r.output, r.reports)

/-! ## Records and timings -/

/-- Nothing stands in the way of writing records, so that no warning about them is among the
findings. -/
def Writable (s : Session) : Prop := ∀ c ∈ s.records?, c.closed? = none

def recordsAfter (s : Session) (key : Digest) (doc : CodeDocument) (r : CompileResult) :
    Option RecordCache :=
  s.records?.map fun c =>
    if r.bag.items.isEmpty then c.write key (s.recordOf doc r.path r.output) else c

theorem keep_of_writable {s : Session} (writable : s.Writable) (key : Digest) (doc : CodeDocument)
    (r : CompileResult) :
    s.keep key doc r = ({ s with records? := s.recordsAfter key doc r }, r) := by
  rw [keep, recordsAfter]
  cases records : s.records? with
  | none => exact congrArg (fun c => ({ s with records? := c }, r)) records
  | some c =>
    have opened : c.closed? = none := writable c records
    dsimp only [Option.map_some]
    rw [opened]
    cases r.bag.items.isEmpty with
    | true => rfl
    | false => exact congrArg (fun c => ({ s with records? := c }, r)) records

/-- The record of timings is no finding. -/
theorem reported_addTimings (bag : DiagnosticBag) (path : Text) (t : Timing.Report) :
    (addTimings bag (timingDiagnostic path t)).reported = bag.reported := by
  have skipped : [timingDiagnostic path t].filter (fun d => d.code != .timings) = [] := rfl
  have added : (bag.items ++ [timingDiagnostic path t]).filter (fun d => d.code != .timings) =
      bag.reported := by
    rw [List.filter_append, skipped, List.append_nil, DiagnosticBag.reported]
  rw [addTimings, DiagnosticBag.add]
  cases bag.isFull <;> exact added

/-- The result of a document with an output. -/
theorem compiled_of_writable {s : Session} (writable : s.Writable) (r : CompileResult)
    (key : Digest) {doc : CodeDocument} {o : Code.Output} (written : doc.output? = some o)
    (timer : Timing.Recorder) :
    ∃ result, s.compiled r key doc timer = ({ s with records? := s.recordsAfter key doc { r with
          output := o.text
          bag := (r.bag.addAll o.diagnostics).sort } }, result)
      ∧ result.output = o.text ∧ result.reports = (r.bag.addAll o.diagnostics).sort.reported := by
  rw [compiled, written]
  dsimp only [Option.map_some, Option.getD_some]
  rw [keep_of_writable writable]
  dsimp only
  split
  · exact ⟨_, rfl, rfl, reported_addTimings _ _ _⟩
  · exact ⟨_, rfl, rfl, rfl⟩

/-! ## Through the phases -/

variable (s : Session)

/-- What the engine writes for a document whose source and imports are known.  It depends on what
the document was given, and on nothing else that the session has. -/
def written (doc : CodeDocument) (source : SourceFile) : Code.Output :=
  (Code.Target.outline []).write (Workpiece.codeOptions s.engine doc)
    (Workpiece.finished s.engine doc source (s.providedFor doc)
      (s.engine.configuration.version.atLeast .v3_0))

/-- What a caller sees of a document that is taken through the phases. -/
def verdict (name : Text) (bag : DiagnosticBag) (doc : CodeDocument) (source : SourceFile) :
    Except SessionError (Text × List Diagnostic) :=
  match (Workpiece.parserOptions s.engine doc).conflict? with
  | some conflict => .error (.document name (.parserOptions conflict))
  | none => .ok ((s.written doc source).text,
      (bag.addAll (s.written doc source).diagnostics).sort.reported)

variable {s} {doc : CodeDocument} {source : SourceFile}

/-- The result of a document that the phases let through. -/
theorem Loaded.runDocument_honored (loaded : s.Loaded doc source) (writable : s.Writable)
    (honored : (Workpiece.parserOptions s.engine doc).conflict? = none) (r : CompileResult)
    (key : Digest) (timer : Timing.Recorder) (parent : Nat) :
    ∃ tracer events result, s.runDocument r key doc timer parent = ({ s.providing doc with
        tracer, events
        records? := s.recordsAfter key doc { r with
          output := (s.written doc source).text
          bag := (r.bag.addAll (s.written doc source).diagnostics).sort } }, .ok result)
      ∧ result.output = (s.written doc source).text
      ∧ result.reports = (r.bag.addAll (s.written doc source).diagnostics).sort.reported := by
  obtain ⟨after, ran, piece⟩ := ProjectEngine.run_of_honored loaded.sound.isProject
    (w := { document := doc, files := s.files, providedImport? := s.providedImport?
            tracer := s.tracer }) loaded.given honored parent
  have document : after.document = _ := congrArg Workpiece.document piece
  have files : after.files = (s.providing doc).files := congrArg Workpiece.files piece
  have provided : after.providedImport? = (s.providing doc).providedImport? :=
    congrArg Workpiece.providedImport? piece
  rw [runDocument]
  dsimp only
  rw [ran]
  dsimp only
  rw [document, files, provided]
  have output : (Workpiece.compiledDocument s.engine doc source (s.providedFor doc)
      (s.engine.configuration.version.atLeast .v3_0)).output? = some (s.written doc source) := rfl
  obtain ⟨result, finished, seen⟩ := compiled_of_writable
    (s := { s.providing doc with
      tracer := after.tracer, events := s.events ++ after.events.map (.phase r.path) })
    writable r key output (recordPhases timer after.events)
  exact ⟨_, _, result, congrArg (fun p => (p.1, Except.ok p.2)) finished, seen⟩

/-- The result of a document that the first phase refuses. -/
theorem Loaded.runDocument_refused (loaded : s.Loaded doc source)
    {conflict : ParserOptions.Conflict}
    (refused : (Workpiece.parserOptions s.engine doc).conflict? = some conflict)
    (r : CompileResult) (key : Digest) (timer : Timing.Recorder) (parent : Nat) :
    ∃ tracer events, s.runDocument r key doc timer parent =
      ({ s with tracer, events }, .error (.document r.path (.parserOptions conflict))) := by
  obtain ⟨after, ran, files, provided⟩ := ProjectEngine.run_of_refused loaded.sound.isProject
    (w := { document := doc, files := s.files, providedImport? := s.providedImport?
            tracer := s.tracer }) loaded.given refused parent
  rw [runDocument]
  dsimp only
  rw [ran]
  dsimp only
  rw [files, provided]
  exact ⟨_, _, rfl⟩

theorem Loaded.outcome_runDocument (loaded : s.Loaded doc source) (writable : s.Writable)
    (r : CompileResult) (key : Digest) (timer : Timing.Recorder) (parent : Nat) :
    outcome (s.runDocument r key doc timer parent).2 = s.verdict r.path r.bag doc source := by
  rw [verdict]
  cases options : (Workpiece.parserOptions s.engine doc).conflict? with
  | some conflict =>
    obtain ⟨tracer, events, refused⟩ := loaded.runDocument_refused options r key timer parent
    rw [refused]
    rfl
  | none =>
    obtain ⟨tracer, events, result, ran, output, reports⟩ :=
      loaded.runDocument_honored writable options r key timer parent
    rw [ran]
    change Except.ok (result.output, result.reports) = _
    rw [output, reports]

/-- Documents that differ in the numbers of their files have the same output, and their findings
differ in these numbers. -/
theorem written_renumbered {s' : Session} {doc' : CodeDocument} {source' : SourceFile}
    {number : Nat → Nat} (injective : number.Injective) (engine : s'.engine = s.engine)
    (same : Workpiece.Renumbered number s.engine doc doc' source source' (s.providedFor doc)
      (s'.providedFor doc')) :
    (s'.written doc' source').text = (s.written doc source).text
      ∧ (s'.written doc' source').diagnostics =
        (s.written doc source).diagnostics.map (Relocation.renumber number).finding := by
  rw [written, engine, same.finished injective, same.code]
  exact Code.Target.write_relocate _ _ _

/-! ## Compiling in two parts -/

variable (s)

/-- What a call has in hand when the phases begin. -/
structure Prepared where
  bag : DiagnosticBag
  document : CodeDocument
  source : SourceFile

/-- Read a document by its cleaned path, and its imports.  A source that cannot be read is a result
already, and so is an import. -/
def prepare (name : Text) : Session × (Except SessionError CompileResult ⊕ Prepared) :=
  match s.source.read name with
  | .error cause =>
    (s, .inl (.ok { path := name
                    bag := (DiagnosticBag.ofLimit s.options.maxDiagnostics).addAll
                      [sourceBroken name cause] }))
  | .ok content =>
    match s.loading name content with
    | (next, .error e) => (next, .inl (.error e))
    | (next, .ok (bag, doc)) => (next, .inr ⟨bag, doc, .named s.files.size name content⟩)

/-- The timer of a document whose imports have been read. -/
def loadTimer (doc : CodeDocument) : Timing.Recorder :=
  let (timer, load) := Timing.Recorder.begin {} "load"
  timer.finish load (Text.ofNat doc.imports.length ++ " imports")

/-- Take the output of a document that has been loaded from a record, or compile it. -/
def compileLoaded (r : CompileResult) (doc : CodeDocument) (parent : Nat) :
    Session × Except SessionError CompileResult :=
  match s.keptOutput? (s.recordKey doc) doc with
  | some output =>
    (s, .ok { r with output, isKept := true, timing? := some (loadTimer doc).report })
  | none => s.runDocument r (s.recordKey doc) doc (loadTimer doc) parent

def compileName (name : Text) (parent : Nat) : Session × Except SessionError CompileResult :=
  match s.prepare name with
  | (next, .inl result) => (next, result)
  | (next, .inr p) =>
    next.compileLoaded { path := name, file := p.source.id, bag := p.bag } p.document parent

theorem compileSource_eq (name content : Text) (parent : Nat) :
    (s.withSource name content).compileSource name (.named s.files.size name content) parent =
      match s.loading name content with
      | (next, .error e) => (next, .error e)
      | (next, .ok (bag, doc)) =>
        next.compileLoaded { path := name, file := s.files.size, bag } doc parent := by
  rw [compileSource, loading]
  dsimp only [withSource, kindOf]
  generalize { s with files := (s.files.addRelative name name content .none).1 }.askImports name
    (.ofLimit s.options.maxDiagnostics) []
    (Project.importPaths name (s.options.fileKind?.getD (.ofPath name))) = asked
  rcases asked with ⟨next, _ | ⟨bag, imports⟩⟩ <;> rfl

/-- Compiling a document is preparing and compiling it with a span around.  The source is found
again under the number that it was just given. -/
theorem compileFile_eq (path : Text) (parent : Nat) :
    s.compileFile path parent =
      let begun := s.tracer.begin .document (Path.clean path) parent
      let done := { s with tracer := begun.1 }.compileName (Path.clean path) begun.2.id
      ({ done.1 with tracer := done.1.tracer.finish begun.2 [] }, done.2) := by
  rw [compileFile]
  dsimp only
  generalize s.tracer.begin .document (Path.clean path) parent = begun
  rw [compileName, prepare]
  dsimp only
  cases s.source.read (Path.clean path) with
  | error cause => rfl
  | ok content =>
    have found : (s.files.addRelative (Path.clean path) (Path.clean path) content .none).1.get?
        (s.files.addRelative (Path.clean path) (Path.clean path) content .none).2 = _ :=
      FileSet.includes_addRelative s.files (Path.clean path) content
    have source := compileSource_eq { s with tracer := begun.1 } (Path.clean path) content begun.2.id
    dsimp only [withSource] at source ⊢
    rw [found]
    dsimp only
    rw [source]
    generalize { s with tracer := begun.1 }.loading (Path.clean path) content = result
    rcases result with ⟨next, _ | ⟨bag, doc⟩⟩ <;> rfl

/-- What is prepared is a document that has been loaded, with warnings that have no place. -/
theorem Sound.prepare {s : Session} (sound : s.Sound) {name : Text}
    (cleaned : Path.clean name = name) :
    Asked s (s.prepare name).1 ∧ ∀ p, (s.prepare name).2 = .inr p →
      (s.prepare name).1.Loaded p.document p.source ∧ ∀ d ∈ p.bag.items, d.spans = [] := by
  rw [Session.prepare]
  cases s.source.read name with
  | error cause =>
    dsimp only
    exact ⟨.refl s, fun p early => by cases early⟩
  | ok content =>
    have loading := sound.loading cleaned content
    dsimp only
    generalize s.loading name content = result at loading ⊢
    rcases result with ⟨next, _ | ⟨bag, doc⟩⟩
    · dsimp only
      exact ⟨loading.1, fun p early => by cases early⟩
    · dsimp only
      refine ⟨loading.1, fun p prepared => ?_⟩
      cases Sum.inr.inj prepared
      obtain ⟨loaded, -, warnings, warned, unlocated⟩ := loading.2 bag doc rfl
      refine ⟨loaded, fun d member => ?_⟩
      dsimp only at member
      rw [warned] at member
      rcases DiagnosticBag.mem_addAll member with none | reported
      · exact absurd none List.not_mem_nil
      · exact unlocated d reported

/-! ## What a caller sees

Records and the tracer are not looked at before the phases begin, so what is prepared does not depend
on them.
-/

def equipped (s : Session) (tracer : Trace.Tracer) (records? : Option RecordCache) : Session :=
  { s with tracer, records? }

section Equipped

variable (s : Session) (tracer : Trace.Tracer) (records? : Option RecordCache)

theorem askImport_equipped (name : Text) :
    (s.equipped tracer records?).askImport name =
      ((s.askImport name).1.equipped tracer records?, (s.askImport name).2) := by
  have entries : (s.equipped tracer records?).knownImport? name = s.knownImport? name := rfl
  rw [askImport, askImport, entries]
  cases s.knownImport? name <;> rfl

theorem askImports_equipped (document : Text) (bag : DiagnosticBag) (found : List SourceFile)
    (names : List Text) :
    (s.equipped tracer records?).askImports document bag found names =
      ((s.askImports document bag found names).1.equipped tracer records?,
        (s.askImports document bag found names).2) := by
  induction names generalizing s bag found with
  | nil => rfl
  | cons name names ih =>
    rw [askImports, askImports, askImport_equipped]
    rcases s.askImport name with ⟨next, entry⟩
    cases entry with
    | present file => exact ih next bag (found ++ [file])
    | missing => exact ih next bag found
    | broken cause =>
      dsimp only
      change (if next.options.config.suppressImportErrors then _ else _) = _
      split
      · exact ih next _ found
      · rfl

/-- Preparing looks neither at the tracer nor at records. -/
theorem prepare_equipped (name : Text) :
    (s.equipped tracer records?).prepare name =
      ((s.prepare name).1.equipped tracer records?, (s.prepare name).2) := by
  have tree : (s.equipped tracer records?).source = s.source := rfl
  rw [prepare, prepare, tree]
  cases s.source.read name with
  | error cause => rfl
  | ok content =>
    have added : (s.equipped tracer records?).withSource name content =
      (s.withSource name content).equipped tracer records? := rfl
    have kind : (s.equipped tracer records?).kindOf name = s.kindOf name := rfl
    have options : (s.equipped tracer records?).options = s.options := rfl
    have document : (s.equipped tracer records?).documentOf name content =
      s.documentOf name content := rfl
    have loading : (s.equipped tracer records?).loading name content =
        ((s.loading name content).1.equipped tracer records?, (s.loading name content).2) := by
      rw [Session.loading, Session.loading, added, kind, options, document, askImports_equipped]
    dsimp only
    rw [loading]
    generalize s.loading name content = result
    rcases result with ⟨next, _ | ⟨bag, doc⟩⟩ <;> rfl

theorem Sound.equipped {s : Session} (sound : s.Sound) : (s.equipped tracer records?).Sound :=
  ⟨sound.engine, sound.helpers, sound.imports, sound.provided⟩

theorem Loaded.equipped {s : Session} {doc : CodeDocument} {source : SourceFile}
    (loaded : s.Loaded doc source) : (s.equipped tracer records?).Loaded doc source :=
  ⟨loaded.sound.equipped _ _, loaded.fresh, loaded.read, loaded.distinct⟩

end Equipped

/-- What a caller sees of a call that does not look at records. -/
def judgement (s : Session) (path : Text) : Except SessionError (Text × List Diagnostic) :=
  match s.prepare (Path.clean path) with
  | (_, .inl result) => outcome result
  | (next, .inr p) => next.verdict (Path.clean path) p.bag p.document p.source

theorem judgement_equipped (s : Session) (tracer : Trace.Tracer) (records? : Option RecordCache)
    (path : Text) :
    (s.equipped tracer records?).judgement path = s.judgement path := by
  rw [judgement, judgement, prepare_equipped]
  rcases s.prepare (Path.clean path) with ⟨next, early | p⟩ <;> rfl

/-- A call comes out as it is judged if each document that is prepared does. -/
theorem outcome_compileFile_of {s : Session} {path : Text}
    (agrees : ∀ p, (s.prepare (Path.clean path)).2 = .inr p → ∀ tracer parent,
      outcome (((s.prepare (Path.clean path)).1.equipped tracer s.records?).compileLoaded
          { path := Path.clean path, file := p.source.id, bag := p.bag } p.document parent).2 =
        (s.prepare (Path.clean path)).1.verdict (Path.clean path) p.bag p.document p.source)
    (parent : Nat) : outcome (s.compileFile path parent).2 = s.judgement path := by
  rw [compileFile_eq]
  dsimp only
  generalize s.tracer.begin .document (Path.clean path) parent = begun
  change outcome ((s.equipped begun.1 s.records?).compileName (Path.clean path) begun.2.id).2 = _
  rw [compileName, prepare_equipped, judgement]
  generalize s.prepare (Path.clean path) = result at agrees ⊢
  rcases result with ⟨next, early | p⟩
  · rfl
  · exact agrees p rfl begun.1 begun.2.id

/-- Without records, every document is taken through the phases. -/
theorem compileLoaded_unrecorded {s : Session} (none : s.records? = none) (r : CompileResult)
    (doc : CodeDocument) (parent : Nat) : s.compileLoaded r doc parent =
      s.runDocument r (s.recordKey doc) doc (loadTimer doc) parent := by
  rw [compileLoaded, keptOutput?, none]
  rfl

theorem writable_unrecorded {s : Session} (none : s.records? = none) : s.Writable := by
  rw [Writable, none]
  exact nofun

theorem Sound.outcome_unrecorded {s : Session} (sound : s.Sound) (none : s.records? = none)
    (path : Text) (parent : Nat) : outcome (s.compileFile path parent).2 = s.judgement path := by
  refine outcome_compileFile_of (fun p prepared tracer parent => ?_) parent
  have loaded := ((sound.prepare (Path.clean_clean path)).2 p prepared).1
  have equipped := loaded.equipped tracer s.records?
  rw [none] at equipped ⊢
  rw [compileLoaded_unrecorded rfl]
  exact equipped.outcome_runDocument (writable_unrecorded rfl) _ _ _ _

/-! ## What a call leaves -/

/-- A call leaves a session of the same project, in which everything holds that should. -/
structure Served (s next : Session) : Prop where
  options : next.options = s.options
  tree : next.source = s.source
  engine : next.engine = s.engine
  helpers : next.helpers = s.helpers
  sound : next.Sound
  current : s.Current → next.Current
  writable : next.Writable
  unrecorded : s.records? = none → next.records? = none

theorem Served.trans {first second third : Session} (one : Served first second)
    (two : Served second third) : Served first third where
  options := two.options.trans one.options
  tree := two.tree.trans one.tree
  engine := two.engine.trans one.engine
  helpers := two.helpers.trans one.helpers
  sound := two.sound
  current := fun current => two.current (one.current current)
  writable := two.writable
  unrecorded := fun none => two.unrecorded (one.unrecorded none)

variable {s}

theorem Sound.served (sound : s.Sound) (writable : s.Writable) (tracer : Trace.Tracer)
    (events : List SessionEvent) : Served s { s with tracer, events } where
  options := rfl
  tree := rfl
  engine := rfl
  helpers := rfl
  sound := ⟨sound.engine, sound.helpers, sound.imports, sound.provided⟩
  current := id
  writable
  unrecorded := id

theorem Asked.served {next : Session} (asked : Asked s next) (sound : s.Sound)
    (writable : s.Writable) : Served s next where
  options := by rw [asked.frame]
  tree := by rw [asked.frame]
  engine := by rw [asked.frame]
  helpers := by rw [asked.frame]
  sound := asked.sound sound
  current := asked.current
  writable := by
    rw [Writable, asked.frame]
    exact writable
  unrecorded := by
    rw [asked.frame]
    exact id

theorem Writable.recordsAfter (writable : s.Writable) (key : Digest) (doc : CodeDocument)
    (r : CompileResult) : ∀ c ∈ s.recordsAfter key doc r, c.closed? = none := by
  intro c left
  obtain ⟨before, known, written⟩ := Option.map_eq_some_iff.mp left
  rw [← written, apply_ite RecordCache.closed?]
  exact (ite_self _).trans (writable before known)

theorem Loaded.served_compileLoaded (loaded : s.Loaded doc source) (writable : s.Writable)
    (r : CompileResult) (parent : Nat) : Served s (s.compileLoaded r doc parent).1 := by
  rw [compileLoaded]
  cases s.keptOutput? (s.recordKey doc) doc with
  | some output => exact loaded.sound.served writable s.tracer s.events
  | none =>
    dsimp only
    cases options : (Workpiece.parserOptions s.engine doc).conflict? with
    | some conflict =>
      obtain ⟨tracer, events, refused⟩ :=
        loaded.runDocument_refused options r (s.recordKey doc) (loadTimer doc) parent
      rw [refused]
      exact loaded.sound.served writable tracer events
    | none =>
      obtain ⟨tracer, events, result, ran, -⟩ := loaded.runDocument_honored writable options r
        (s.recordKey doc) (loadTimer doc) parent
      have sound := (loaded.sound.providing doc).1
      rw [ran]
      exact {
        options := rfl
        tree := rfl
        engine := rfl
        helpers := rfl
        sound := ⟨sound.engine, sound.helpers, sound.imports, sound.provided⟩
        current := id
        writable := writable.recordsAfter _ _ _
        unrecorded := fun none => by
          dsimp only
          rw [recordsAfter, none]
          rfl }

theorem Sound.served_compileName (sound : s.Sound) (writable : s.Writable) {name : Text}
    (cleaned : Path.clean name = name) (parent : Nat) :
    Served s (s.compileName name parent).1 := by
  have prepared := sound.prepare cleaned
  rw [compileName]
  generalize s.prepare name = result at prepared ⊢
  have served := prepared.1.served sound writable
  rcases result with ⟨next, early | p⟩
  · exact served
  · exact served.trans ((prepared.2 p rfl).1.served_compileLoaded served.writable _ parent)

/-- Calls keep sessions sound. -/
theorem Sound.served_compileFile (sound : s.Sound) (writable : s.Writable) (path : Text)
    (parent : Nat) : Served s (s.compileFile path parent).1 := by
  rw [compileFile_eq]
  dsimp only
  generalize s.tracer.begin .document (Path.clean path) parent = begun
  have before := sound.served writable begun.1 s.events
  have called := before.trans
    (before.sound.served_compileName before.writable (Path.clean_clean path) begun.2.id)
  exact called.trans (called.sound.served called.writable _ _)

end Session

end TemplateCompiler
