import Mathlib.Algebra.Order.BigOperators.Group.List
import Mathlib.Algebra.Order.Group.Nat
import TemplateCompiler.Proofs.ReportOrder
import TemplateCompiler.Proofs.SessionCalls

/-!
# The order in which documents are compiled

The documents of a session share its files, and what it knows about imports, so the numbers of files
depend on what was compiled before.  Nothing else does: after any two histories of a session, a
document has the same output, and the same findings in each file (`Session.compileFile_order`).  The
sequence of all findings is the same exactly if the two histories number the files with findings in
the same order, which they need not: an import document that another document was first to ask for
has a smaller number than the source, and a greater one otherwise.
-/

namespace TemplateCompiler

/-! ## Findings before they are sorted -/

theorem Relocation.map_finding_of_unlocated {ds : List Diagnostic}
    (unlocated : ∀ d ∈ ds, d.spans = []) (r : Relocation) : ds.map r.finding = ds := by
  refine (List.map_congr_left fun d member => ?_).trans (List.map_id ds)
  refine r.finding_of_fixed fun s inside => ?_
  rw [unlocated d member] at inside
  exact absurd inside List.not_mem_nil

namespace DiagnosticBag

/-- A bag with other findings in the places of its own. -/
def map (f : Diagnostic → Diagnostic) (b : DiagnosticBag) : DiagnosticBag :=
  { b with items := b.items.map f }

theorem addAll_map (f : Diagnostic → Diagnostic) (b : DiagnosticBag) (ds : List Diagnostic) :
    (b.map f).addAll (ds.map f) = (b.addAll ds).map f := by
  induction ds generalizing b with
  | nil => rfl
  | cons d ds ih =>
    have full : (b.map f).isFull = b.isFull := by
      rw [isFull, isFull, map, List.length_map]
    have added : ((b.map f).add (f d)).1 = (b.add d).1.map f := by
      rw [add, add, full]
      cases b.isFull with
      | true => rfl
      | false =>
        change DiagnosticBag.mk (b.items.map f ++ [d].map f) b.limit =
          ⟨(b.items ++ [d]).map f, b.limit⟩
        rw [List.map_append]
    rw [List.map_cons]
    change ((b.map f).add (f d)).1.addAll (ds.map f) = ((b.add d).1.addAll ds).map f
    rw [added, ih]

/-- Sorting does not look at the record of timings. -/
theorem reported_sort (b : DiagnosticBag) : b.sort.reported = Diagnostic.sorted b.reported :=
  filter_mergeSort Diagnostic.le_trans Diagnostic.le_total _ b.items

theorem reported_map (r : Relocation) (b : DiagnosticBag) :
    (b.map r.finding).reported = b.reported.map r.finding := by
  rw [reported, map, List.filter_map]
  rfl

end DiagnosticBag

/-! ## Files without numbers -/

/-- What is known about an import document, whatever its number. -/
def ImportEntry.anonymous : ImportEntry → ImportEntry
  | present file => present file.anonymous
  | missing => missing
  | broken cause => broken cause

namespace Session

theorem anonymous_entryOf (id : Nat) (name : Text) (content : Except ReadFailure Text) :
    (entryOf id name content).anonymous = entryOf 0 name content := by
  cases content with
  | ok content => rfl
  | error failure =>
    rw [entryOf, entryOf]
    cases failure.isMissing <;> rfl

section Twice

variable {s s' : Session}

theorem Current.anonymous_askImport (current : s.Current) (name : Text) :
    (s.askImport name).2.anonymous = entryOf 0 name (s.source.read name) := by
  have asked := asked_askImport s name
  have tree : (s.askImport name).1.source = s.source := by rw [asked.frame]
  obtain ⟨id, same⟩ := asked.current current name _ (mem_imports_askImport s name)
  rw [same, anonymous_entryOf, tree]

/-- What comes of asking for imports depends on the tree of files and on the options.  The entries
that two sessions have for a name agree but for the number of the file, so that both go the same way
at every name. -/
theorem askImports_anonymous (current : s.Current) (current' : s'.Current)
    (tree : s'.source = s.source) (options : s'.options = s.options) (document : Text)
    (bag : DiagnosticBag) {found found' : List SourceFile}
    (same : found'.map SourceFile.anonymous = found.map SourceFile.anonymous) (names : List Text) :
    (s'.askImports document bag found' names).2.map
        (Prod.map id (List.map SourceFile.anonymous)) =
      (s.askImports document bag found names).2.map
        (Prod.map id (List.map SourceFile.anonymous)) := by
  induction names generalizing s s' bag found found' with
  | nil => exact congrArg (fun files => Except.ok (bag, files)) same
  | cons name names ih =>
    have entries : (s'.askImport name).2.anonymous = (s.askImport name).2.anonymous := by
      rw [current.anonymous_askImport, current'.anonymous_askImport, tree]
    have asked := asked_askImport s name
    have asked' := asked_askImport s' name
    have next := asked.current current
    have next' := asked'.current current'
    have trees : (s'.askImport name).1.source = (s.askImport name).1.source := by
      rw [asked.frame, asked'.frame]
      exact tree
    have settings : (s'.askImport name).1.options = (s.askImport name).1.options := by
      rw [asked.frame, asked'.frame]
      exact options
    rw [askImports, askImports]
    generalize s.askImport name = result at entries next trees settings ⊢
    generalize s'.askImport name = result' at entries next' trees settings ⊢
    rcases result with ⟨after, entry⟩
    rcases result' with ⟨after', entry'⟩
    cases entry with
    | present file =>
      cases entry' with
      | present file' =>
        refine ih next next' trees settings bag ?_
        rw [List.map_append, List.map_append, same]
        exact congrArg (fun f => _ ++ [f]) (ImportEntry.present.inj entries)
      | missing => cases entries
      | broken cause' => cases entries
    | missing =>
      cases entry' with
      | present file' => cases entries
      | missing => exact ih next next' trees settings bag same
      | broken cause' => cases entries
    | broken cause =>
      cases entry' with
      | present file' => cases entries
      | missing => cases entries
      | broken cause' =>
        cases ImportEntry.broken.inj entries
        dsimp only at settings ⊢
        rw [settings]
        split
        · exact ih next next' trees settings _ same
        · rfl

/-- What is prepared, whatever the numbers of files: two sessions that have read the same files in
different orders differ in these numbers only. -/
def Prepared.anonymous (p : Prepared) : DiagnosticBag × FileKind × List SourceFile :=
  (p.bag, p.document.fileKind, (p.source :: p.document.imports).map SourceFile.anonymous)

/-- What is prepared depends on the tree of files and on the options, except for numbers. -/
theorem prepare_anonymous (current : s.Current) (current' : s'.Current)
    (tree : s'.source = s.source) (options : s'.options = s.options) (name : Text) :
    (s'.prepare name).2.map id Prepared.anonymous = (s.prepare name).2.map id Prepared.anonymous := by
  rw [prepare, prepare, tree]
  cases s.source.read name with
  | error cause =>
    dsimp only
    rw [options]
  | ok content =>
    have kind : s'.kindOf name = s.kindOf name := by rw [kindOf, kindOf, options]
    have added : (s.withSource name content).Current := current
    have added' : (s'.withSource name content).Current := current'
    have nothing :
        ([] : List SourceFile).map SourceFile.anonymous = [].map SourceFile.anonymous := rfl
    have found := askImports_anonymous added added' tree options name
      (.ofLimit s.options.maxDiagnostics) nothing (Project.importPaths name (s.kindOf name))
    dsimp only
    rw [loading, loading, kind, options]
    generalize (s.withSource name content).askImports name _ [] _ = asked at found ⊢
    generalize (s'.withSource name content).askImports name _ [] _ = asked' at found ⊢
    rcases asked with ⟨next, e | ⟨bag, files⟩⟩ <;> rcases asked' with ⟨next', e' | ⟨bag', files'⟩⟩
    · cases Except.error.inj found
      rfl
    · cases found
    · cases found
    · obtain ⟨rfl, same⟩ := Prod.mk.inj (Except.ok.inj found)
      change Sum.inr (bag', s'.kindOf name, _ :: files'.map SourceFile.anonymous) =
        Sum.inr (bag', s.kindOf name, _ :: files.map SourceFile.anonymous)
      rw [kind]
      exact congrArg (fun l => Sum.inr (bag', s.kindOf name, _ :: l)) same

end Twice

/-! ## Findings and files -/

variable {s s' : Session} {doc doc' : CodeDocument} {source source' : SourceFile}

/-- A finding of a document speaks of files of the document.  If it spoke of another one, exchanging
the number of that file for an unused one would leave the document as it is and change its findings.
-/
theorem Loaded.file_of_span (loaded : s.Loaded doc source) {d : Diagnostic}
    (member : d ∈ (s.written doc source).diagnostics) {span : Span} (inside : span ∈ d.spans) :
    ∃ f ∈ source :: (s.providedFor doc ++ doc.imports), f.id = span.file := by
  by_contra others
  have own : ∀ f ∈ source :: (s.providedFor doc ++ doc.imports), f.id ≠ span.file :=
    fun f held same => others ⟨f, held, same⟩
  let ids := (source :: (s.providedFor doc ++ doc.imports)).map SourceFile.id
  let spoken := ((s.written doc source).diagnostics.flatMap Diagnostic.spans).map Span.file
  let unused := (ids ++ spoken).sum + 1
  have fresh : ∀ i ∈ ids ++ spoken, i ≠ unused :=
    fun i held => Nat.ne_of_lt (Nat.lt_succ_of_le (List.le_sum_of_mem held))
  let number := Equiv.swap span.file unused
  have fixed : ∀ f ∈ source :: (s.providedFor doc ++ doc.imports),
      SourceFile.Renumbered number f f := by
    refine fun f held => ⟨(Equiv.swap_apply_of_ne_of_ne (own f held) (fresh f.id ?_)).symm, rfl⟩
    exact List.mem_append_left _ (List.mem_map_of_mem held)
  have same : Workpiece.Renumbered number s.engine doc doc source source (s.providedFor doc)
      (s.providedFor doc) := {
    given := loaded.given
    given' := loaded.given
    fileKind := rfl
    helpers := rfl
    digest := rfl
    parser := rfl
    code := rfl
    path := rfl
    relative := rfl
    source := fixed source List.mem_cons_self
    imports := List.forall₂_same.mpr fun f held => fixed f (List.mem_cons_of_mem _ held) }
  have findings := (written_renumbered number.injective rfl same).2
  have moved : (Relocation.renumber number).finding d ∈ (s.written doc source).diagnostics := by
    rw [findings]
    exact List.mem_map_of_mem member
  have place : (Relocation.renumber number).span span
      ∈ ((Relocation.renumber number).finding d).spans := by
    rw [Relocation.spans_finding]
    exact List.mem_map_of_mem inside
  refine fresh unused (List.mem_append_right _ ?_) rfl
  refine List.mem_map.mpr ⟨_, List.mem_flatMap.mpr ⟨_, moved, place⟩, ?_⟩
  exact Equiv.swap_apply_left span.file unused

theorem exists_counterpart {number : Nat → Nat} {fs gs : List SourceFile}
    (renumbered : List.Forall₂ (SourceFile.Renumbered number) fs gs)
    (same : gs.map SourceFile.anonymous = fs.map SourceFile.anonymous) {f : SourceFile}
    (member : f ∈ fs) : ∃ g ∈ gs, g.id = number f.id ∧ g.anonymous = f.anonymous := by
  induction renumbered with
  | nil => exact absurd member List.not_mem_nil
  | cons first rest ih =>
    have both := List.cons.inj same
    rcases List.mem_cons.mp member with rfl | later
    · exact ⟨_, List.mem_cons_self, first.id, both.1⟩
    · obtain ⟨g, inside, facts⟩ := ih both.2 later
      exact ⟨g, List.mem_cons_of_mem _ inside, facts⟩

/-- The files that are there when a document has been compiled. -/
theorem Sound.files_compileFile (sound : s.Sound) (unrecorded : s.records? = none) {path : Text}
    {next : Session} {p : Prepared} (prepared : s.prepare (Path.clean path) = (next, .inr p))
    (honored : (Workpiece.parserOptions next.engine p.document).conflict? = none) (parent : Nat) :
    (s.compileFile path parent).1.files = (next.providing p.document).files := by
  have loaded := ((sound.prepare (Path.clean_clean path)).2 p (by rw [prepared])).1
  rw [prepared] at loaded
  rw [compileFile_eq]
  dsimp only
  generalize s.tracer.begin .document (Path.clean path) parent = begun
  change ((s.equipped begun.1 s.records?).compileName (Path.clean path) begun.2.id).1.files = _
  rw [compileName, prepare_equipped, prepared, unrecorded]
  dsimp only
  rw [compileLoaded_unrecorded rfl]
  obtain ⟨tracer, events, result, ran, -⟩ := (loaded.equipped begun.1 none).runDocument_honored
    (writable_unrecorded rfl) honored { path := Path.clean path, file := p.source.id, bag := p.bag }
    (next.recordKey p.document) (loadTimer p.document) begun.2.id
  change ((next.equipped begun.1 none).runDocument _ (next.recordKey p.document) _ _ _).1.files = _
  rw [ran]
  rfl

end Session

/-! ## Corresponding results -/

/-- Two results of a document correspond if they have the same output, and the same findings in the
same sequence in each file, and at no file.  Files may have other numbers.  All findings are in the
same sequence exactly if these numbers are in the same order for the files that have findings. -/
structure CompileResult.Corresponds (number : Nat → Nat) (files files' : FileSet)
    (r r' : CompileResult) : Prop where
  output : r'.output = r.output
  files : ∀ d ∈ r.reports, ∀ span ∈ d.spans, ∃ f f', files.get? span.file = some f
    ∧ files'.get? (number span.file) = some f' ∧ f'.anonymous = f.anonymous
  each : ∀ i? : Option Nat, r'.reports.filter (fun d => d.file? == i?.map number) =
    (r.reports.filter fun d => d.file? == i?).map (Relocation.renumber number).finding
  whole : r'.reports = r.reports.map (Relocation.renumber number).finding ↔
    ∀ d ∈ r.reports, ∀ e ∈ r.reports, ∀ i ∈ d.file?, ∀ j ∈ e.file?, i < j → number i < number j

/-- Results that sort corresponding findings correspond. -/
theorem CompileResult.corresponds_of_sorted {number : Nat → Nat} (injective : number.Injective)
    {files files' : FileSet} {r r' : CompileResult} {ds : List Diagnostic}
    (output : r'.output = r.output) (reports : r.reports = Diagnostic.sorted ds)
    (reports' : r'.reports = Diagnostic.sorted (ds.map (Relocation.renumber number).finding))
    (held : ∀ d ∈ ds, ∀ span ∈ d.spans, ∃ f f', files.get? span.file = some f
      ∧ files'.get? (number span.file) = some f' ∧ f'.anonymous = f.anonymous) :
    Corresponds number files files' r r' := by
  have members : ∀ d, d ∈ r.reports ↔ d ∈ ds := by
    intro d
    rw [reports]
    exact List.mem_mergeSort
  refine ⟨output, fun d member => held d ((members d).mp member), fun i? => ?_, ?_⟩
  · rw [reports, reports']
    exact Diagnostic.filter_sorted_renumber injective ds i?
  · simp only [members]
    rw [reports, reports']
    exact Diagnostic.sorted_renumber_iff injective ds

/-- Results with the same findings, all of them without a place, correspond. -/
theorem CompileResult.corresponds_of_unlocated {files files' : FileSet} {r r' : CompileResult}
    (output : r'.output = r.output) (reports : r'.reports = r.reports)
    (unlocated : ∀ d ∈ r.reports, d.spans = []) : Corresponds id files files' r r' := by
  refine corresponds_of_sorted Function.injective_id output
    (Diagnostic.sorted_of_unlocated unlocated).symm ?_ fun d member span inside => ?_
  · rw [Relocation.map_finding_of_unlocated unlocated, Diagnostic.sorted_of_unlocated unlocated,
      reports]
  · rw [unlocated d member] at inside
    exact absurd inside List.not_mem_nil

namespace Session

variable {fresh s s' : Session}

/-- A source that cannot be read is reported without a place. -/
theorem unlocated_of_early (s : Session) (name : Text) : ∀ r : CompileResult,
    (s.prepare name).2 = .inl (.ok r) → ∀ d ∈ r.bag.items, d.spans = [] := by
  intro r early
  rw [prepare] at early
  split at early
  · cases early
    intro d member
    rcases DiagnosticBag.mem_addAll member with none | reported
    · exact absurd none List.not_mem_nil
    · rw [List.mem_singleton.mp reported]
      rfl
  · split at early
    · cases early
    · cases early

/-- What is prepared with the same files under other numbers has the same output, and the same
findings in these files. -/
theorem Loaded.written_anonymous {p p' : Prepared} (loaded : s.Loaded p.document p.source)
    (loaded' : s'.Loaded p'.document p'.source) (engine : s'.engine = s.engine)
    (same : p'.anonymous = p.anonymous) (unlocated : ∀ d ∈ p.bag.items, d.spans = []) :
    ∃ number : Equiv.Perm Nat,
      Workpiece.parserOptions s'.engine p'.document = Workpiece.parserOptions s.engine p.document
      ∧ (s'.written p'.document p'.source).text = (s.written p.document p.source).text
      ∧ (p'.bag.addAll (s'.written p'.document p'.source).diagnostics).reported =
        (p.bag.addAll (s.written p.document p.source).diagnostics).reported.map
          (Relocation.renumber number).finding
      ∧ ∀ d ∈ (p.bag.addAll (s.written p.document p.source).diagnostics).reported,
        ∀ span ∈ d.spans, ∃ f f', (s.providing p.document).files.get? span.file = some f
          ∧ (s'.providing p'.document).files.get? (number span.file) = some f'
          ∧ f'.anonymous = f.anonymous := by
  obtain ⟨bag, same⟩ := Prod.mk.inj same
  obtain ⟨fileKind, files⟩ := Prod.mk.inj same
  have read := List.cons.inj files
  have path : p'.source.anonymous.path = p.source.anonymous.path := congrArg SourceFile.path read.1
  obtain ⟨number, inputs⟩ := loaded.renumbered loaded' engine fileKind path
    (SourceFile.map_content_of_anonymous files)
  obtain ⟨text, diagnostics⟩ := written_renumbered number.injective engine inputs
  refine ⟨number, engine ▸ inputs.parser, text, ?_, fun d member span inside => ?_⟩
  · have warnings : p.bag.map (Relocation.renumber number).finding = p.bag := by
      rw [DiagnosticBag.map, Relocation.map_finding_of_unlocated unlocated]
    rw [bag, diagnostics, ← DiagnosticBag.reported_map, ← DiagnosticBag.addAll_map, warnings]
  · have all : (p'.source :: (s'.providedFor p'.document ++ p'.document.imports)).map
        SourceFile.anonymous =
      (p.source :: (s.providedFor p.document ++ p.document.imports)).map SourceFile.anonymous := by
      rw [List.map_cons, List.map_cons, List.map_append, List.map_append, read.1, read.2,
        loaded.anonymous_providedFor loaded' fileKind]
    rcases DiagnosticBag.mem_addAll (List.mem_filter.mp member).1 with before | found
    · rw [unlocated d before] at inside
      exact absurd inside List.not_mem_nil
    · obtain ⟨f, held, here⟩ := loaded.file_of_span found inside
      obtain ⟨f', held', there, alike⟩ :=
        exists_counterpart (.cons inputs.source inputs.imports) all held
      refine ⟨f, f', ?_, ?_, alike⟩
      · rw [← here]
        exact loaded.includes_files f held
      · rw [← here, ← there]
        exact loaded'.includes_files f' held'

theorem result_of_outcome {result : Except SessionError CompileResult} {output : Text}
    {reports : List Diagnostic} (seen : outcome result = .ok (output, reports)) :
    ∃ r, result = .ok r ∧ r.output = output ∧ r.reports = reports := by
  obtain ⟨r, done, same⟩ := ok_of_map seen
  exact ⟨r, done, Prod.mk.inj same⟩

section Twice

variable (sound : s.Sound) (sound' : s'.Sound) (unrecorded : s.records? = none)
  (unrecorded' : s'.records? = none) {path : Text} {parent : Nat} {r : CompileResult}
  (done : (s.compileFile path parent).2 = .ok r) (parent' : Nat) {next next' : Session}

include sound sound' unrecorded unrecorded' done

/-- A document that cannot be prepared has the same result twice. -/
theorem corresponds_of_early {result : Except SessionError CompileResult}
    (prepared : s.prepare (Path.clean path) = (next, .inl result))
    (prepared' : s'.prepare (Path.clean path) = (next', .inl result)) :
    ∃ r', (s'.compileFile path parent').2 = .ok r' ∧ ∃ number : Equiv.Perm Nat,
      CompileResult.Corresponds number (s.compileFile path parent).1.files
        (s'.compileFile path parent').1.files r r' := by
  have seen := sound.outcome_unrecorded unrecorded path parent
  have seen' := sound'.outcome_unrecorded unrecorded' path parent'
  rw [done, judgement, prepared] at seen
  rw [judgement, prepared'] at seen'
  obtain ⟨first, rfl, output, reports⟩ := result_of_outcome seen.symm
  obtain ⟨r', done', output', reports'⟩ := result_of_outcome seen'
  refine ⟨r', done', .refl Nat, ?_⟩
  refine CompileResult.corresponds_of_unlocated (output'.trans output) (reports'.trans reports) ?_
  intro d member
  rw [← reports] at member
  exact unlocated_of_early s (Path.clean path) first (congrArg Prod.snd prepared) d
    (List.mem_filter.mp member).1

/-- A document that is prepared with the same files under other numbers has corresponding results. -/
theorem corresponds_of_prepared {p p' : Prepared}
    (prepared : s.prepare (Path.clean path) = (next, .inr p))
    (prepared' : s'.prepare (Path.clean path) = (next', .inr p'))
    (engine : next'.engine = next.engine) (same : p'.anonymous = p.anonymous) :
    ∃ r', (s'.compileFile path parent').2 = .ok r' ∧ ∃ number : Equiv.Perm Nat,
      CompileResult.Corresponds number (s.compileFile path parent).1.files
        (s'.compileFile path parent').1.files r r' := by
  have ready := (sound.prepare (Path.clean_clean path)).2 p (by rw [prepared])
  have ready' := (sound'.prepare (Path.clean_clean path)).2 p' (by rw [prepared'])
  rw [prepared] at ready
  rw [prepared'] at ready'
  obtain ⟨number, parser, text, reported, held⟩ :=
    ready.1.written_anonymous ready'.1 engine same ready.2
  have seen := sound.outcome_unrecorded unrecorded path parent
  have seen' := sound'.outcome_unrecorded unrecorded' path parent'
  rw [done, judgement, prepared] at seen
  rw [judgement, prepared'] at seen'
  dsimp only at seen seen'
  rw [verdict] at seen seen'
  rw [parser] at seen'
  cases honored : (Workpiece.parserOptions next.engine p.document).conflict? with
  | some conflict =>
    rw [honored] at seen
    cases seen
  | none =>
    rw [honored] at seen seen'
    obtain ⟨output, reports⟩ := Prod.mk.inj (Except.ok.inj seen)
    obtain ⟨r', done', output', reports'⟩ := result_of_outcome seen'
    refine ⟨r', done', number, ?_⟩
    rw [sound.files_compileFile unrecorded prepared honored,
      sound'.files_compileFile unrecorded' prepared' (by rw [parser, honored])]
    refine CompileResult.corresponds_of_sorted number.injective ?_ ?_ ?_ held
    · rw [output', text]
      exact output.symm
    · exact reports.trans (DiagnosticBag.reported_sort _)
    · rw [reports', DiagnosticBag.reported_sort, reported]

end Twice

/-- Sessions that were opened as the same one compile a document to corresponding results. -/
theorem Served.corresponds (served : Served fresh s) (served' : Served fresh s')
    (current : fresh.Current) (unrecorded : fresh.records? = none) {path : Text}
    {parent : Nat} {r : CompileResult} (done : (s.compileFile path parent).2 = .ok r)
    (parent' : Nat) :
    ∃ r', (s'.compileFile path parent').2 = .ok r' ∧ ∃ number : Equiv.Perm Nat,
      CompileResult.Corresponds number (s.compileFile path parent).1.files
        (s'.compileFile path parent').1.files r r' := by
  have asked := (served.sound.prepare (Path.clean_clean path)).1
  have asked' := (served'.sound.prepare (Path.clean_clean path)).1
  have engine : (s'.prepare (Path.clean path)).1.engine = (s.prepare (Path.clean path)).1.engine := by
    rw [asked.frame, asked'.frame]
    exact served'.engine.trans served.engine.symm
  have same := prepare_anonymous (served.current current) (served'.current current)
    (served'.tree.trans served.tree.symm) (served'.options.trans served.options.symm)
    (Path.clean path)
  rcases prepared : s.prepare (Path.clean path) with ⟨next, result | p⟩ <;>
    rcases prepared' : s'.prepare (Path.clean path) with ⟨next', result' | p'⟩ <;>
    rw [prepared, prepared'] at same
  · cases Sum.inl.inj same
    exact corresponds_of_early served.sound served'.sound (served.unrecorded unrecorded)
      (served'.unrecorded unrecorded) done parent' prepared prepared'
  · cases same
  · cases same
  · rw [prepared, prepared'] at engine
    exact corresponds_of_prepared served.sound served'.sound (served.unrecorded unrecorded)
      (served'.unrecorded unrecorded) done parent' prepared prepared' engine (Sum.inr.inj same)

/-! ## Histories -/

/-- The session after it has compiled some documents, one after another. -/
def afterAll (s : Session) (paths : List Text) : Session :=
  paths.foldl (fun s path => (s.compileFile path).1) s

theorem Sound.served_afterAll (sound : s.Sound) (writable : s.Writable) (paths : List Text) :
    Served s (s.afterAll paths) := by
  induction paths generalizing s with
  | nil => exact sound.served writable s.tracer s.events
  | cons path paths ih =>
    have first := sound.served_compileFile writable path 0
    exact first.trans (ih first.sound first.writable)

/-- A session that was opened without records knows nothing about imports yet. -/
theorem unrecorded_of_start {options : SessionOptions} {tree : FileSource} {tracer : Trace.Tracer}
    (opened : start options tree none tracer = .ok s) : s.records? = none ∧ s.Current := by
  rw [start] at opened
  obtain ⟨helpers, -, opened⟩ := ok_of_bind opened
  obtain ⟨c, -, opened⟩ := ok_of_bind opened
  obtain ⟨engine, -, opened⟩ := ok_of_bind opened
  cases opened
  exact ⟨rfl, fun name entry none => absurd none List.not_mem_nil⟩

/-- Whatever a session without records compiled before, a document that is compiled comes out the
same, except for the numbers of files and for the order of the files among the findings. -/
theorem compileFile_order {options : SessionOptions} {tree : FileSource} {tracer : Trace.Tracer}
    (opened : start options tree none tracer = .ok s) (before before' : List Text) {path : Text}
    {parent : Nat} {r : CompileResult}
    (done : ((s.afterAll before).compileFile path parent).2 = .ok r) (parent' : Nat) :
    ∃ r', ((s.afterAll before').compileFile path parent').2 = .ok r' ∧ ∃ number : Equiv.Perm Nat,
      CompileResult.Corresponds number ((s.afterAll before).compileFile path parent).1.files
        ((s.afterAll before').compileFile path parent').1.files r r' := by
  have sound := sound_of_start opened
  obtain ⟨unrecorded, current⟩ := unrecorded_of_start opened
  have writable := writable_unrecorded unrecorded
  exact (sound.served_afterAll writable before).corresponds (sound.served_afterAll writable before')
    current unrecorded done parent'

/-- Two views with a common import.  There are findings in the import and in the second view. -/
def unclosed : FileSource := FileTree.source
  ⟨[("_ViewImports.quill", "@section A \x7b"), ("a.quill", "<p></p>"), ("b.quill", "@\x7b x")]⟩

/-- The second view is compiled first, and after the other one. -/
theorem compileFile_order_unclosed :
    ∃ s r, start {} unclosed none .none = .ok s ∧ (s.compileFile "b.quill").2 = .ok r
      ∧ ∃ r', ((s.afterAll ["a.quill"]).compileFile "b.quill").2 = .ok r'
        ∧ ∃ number : Equiv.Perm Nat,
          CompileResult.Corresponds number (s.compileFile "b.quill").1.files
            ((s.afterAll ["a.quill"]).compileFile "b.quill").1.files r r' := by
  have judged : ((start {} unclosed none .none).toOption.map fun s =>
      (s.judgement "b.quill").isOk) = some true := by decide +kernel
  cases opened : start {} unclosed none .none with
  | error e =>
    rw [opened] at judged
    cases judged
  | ok s =>
    rw [opened] at judged
    have judged : (s.judgement "b.quill").isOk = true := Option.some.inj judged
    have seen := (sound_of_start opened).outcome_unrecorded (unrecorded_of_start opened).1
      "b.quill" 0
    cases done : (s.compileFile "b.quill").2 with
    | error e =>
      rw [done] at seen
      rw [← seen] at judged
      cases judged
    | ok r => exact ⟨s, r, rfl, done, compileFile_order opened [] ["a.quill"] done 0⟩

end Session

end TemplateCompiler
