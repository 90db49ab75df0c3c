import Mathlib.Data.List.Forall2
import Mathlib.Logic.Equiv.Basic
import TemplateCompiler.Proofs.CleanPath
import TemplateCompiler.Proofs.ManifestHelpers
import TemplateCompiler.Proofs.RelocatedOutput
import TemplateCompiler.Session.Compile

/-!
# The files of a session

Compiling a document begins with reading its source and asking for its imports.  What holds of a
session at all times is stated as `Session.Sound`: its engine is built from its tag helpers, and each
file that it remembers is in its file set, with the path and the content it was read with.  The
source, the imports and the import document that the engine provides are different files, so they
have different numbers (`Session.Loaded.nodup_ids`).
-/

namespace TemplateCompiler

/-! ## File sets -/

def SourceFile.named (id : Nat) (name content : Text) : SourceFile :=
  { SourceFile.ofContent id name content .none with relative := Path.rooted name }

/-- A file that is read has a place in the project; what the engine provides has none. -/
theorem SourceFile.relative_named_ne_nil (id : Nat) (name content : Text) :
    (named id name content).relative ≠ [] := by
  change Path.rooted name ≠ []
  rw [Path.rooted, Path.clean]
  exact List.cons_ne_nil _ _

def SourceFile.anonymous (f : SourceFile) : SourceFile := { f with id := 0 }

theorem SourceFile.map_content_of_anonymous {fs gs : List SourceFile}
    (same : gs.map anonymous = fs.map anonymous) : gs.map content = fs.map content := by
  have contents := congrArg (List.map content) same
  rw [List.map_map, List.map_map] at contents
  exact contents

namespace FileSet

/-- A file is in a set, under its number. -/
def Includes (s : FileSet) (file : SourceFile) : Prop := s.get? file.id = some file

def Within (s t : FileSet) : Prop := ∀ file, s.Includes file → t.Includes file

theorem Within.refl (s : FileSet) : s.Within s := fun _ held => held

theorem Within.trans {s t u : FileSet} (first : s.Within t) (second : t.Within u) : s.Within u :=
  fun file held => second file (first file held)

theorem lt_of_includes {s : FileSet} {file : SourceFile} (held : s.Includes file) :
    file.id < s.size :=
  (Array.getElem?_eq_some_iff.mp held).1

/-- The files of a set are told apart by their numbers. -/
theorem eq_of_id_eq {s : FileSet} {file other : SourceFile} (held : s.Includes file)
    (held' : s.Includes other) (same : file.id = other.id) : file = other := by
  rw [Includes, same, held'] at held
  exact (Option.some.inj held).symm

theorem within_push (s : FileSet) (file : SourceFile) : s.Within ⟨s.files.push file⟩ := by
  intro old held
  have inside := lt_of_includes held
  exact (Array.getElem?_push_lt inside).trans ((Array.getElem?_eq_getElem inside).symm.trans held)

theorem includes_push {s : FileSet} {file : SourceFile} (next : file.id = s.size) :
    Includes ⟨s.files.push file⟩ file := by
  rw [Includes, get?, next]
  exact Array.getElem?_push_size

/-- A file of a set that was read under a name. -/
structure Read (s : FileSet) (name : Text) (file : SourceFile) : Prop where
  held : s.Includes file
  named : ∃ content, file = .named file.id name content

theorem Read.mono {s t : FileSet} {name : Text} {file : SourceFile} (read : s.Read name file)
    (more : s.Within t) : t.Read name file := ⟨more file read.held, read.named⟩

theorem within_addRelative (s : FileSet) (name content : Text) :
    s.Within (s.addRelative name name content .none).1 := within_push s _

theorem includes_addRelative (s : FileSet) (name content : Text) :
    (s.addRelative name name content .none).1.Includes (.named s.size name content) :=
  includes_push rfl

end FileSet

namespace Session

/-! ## What holds at all times -/

/-- What holds of a session at all times: its engine is one of a project with its tag helpers, which
were built from drafts, and the imports it knows were read as its files say. -/
structure Sound (s : Session) : Prop where
  engine : ∃ c, (EngineBuilder.project c true (some s.helpers.items)).build.2 = .ok s.engine
  helpers : ∀ d ∈ s.helpers.items, d.Built
  imports : ∀ name file, (name, ImportEntry.present file) ∈ s.imports → s.files.Read name file
  provided : ∀ file ∈ s.providedImport?, s.files.Includes file
    ∧ file = .ofContent file.id Dialect.viewImportsPath Dialect.viewImports .inMemory

/-- An engine that is not customized is one without directives of its own. -/
theorem withoutDirectives {b : EngineBuilder} {e : Engine} (built : b.build.2 = .ok e) :
    (b.build (·.addDirectives [])).2 = .ok e := built

namespace Sound

variable {s : Session} (sound : s.Sound)

include sound

theorem engine_built :
    (EngineBuilder.project s.engine.configuration true (some s.helpers.items)).build.2 =
      .ok s.engine := by
  obtain ⟨c, built⟩ := sound.engine
  rw [ProjectEngine.configuration_of_build (withoutDirectives built)]
  exact built

theorem isProject :
    s.engine.IsProject (s.engine.configuration.version.atLeast .v3_0) true :=
  ProjectEngine.isProject_of_build (withoutDirectives sound.engine_built)

/-- An engine is determined by its configuration and its tag helpers. -/
theorem engine_eq {s' : Session} (sound' : s'.Sound)
    (configuration : s.engine.configuration = s'.engine.configuration)
    (helpers : s.helpers = s'.helpers) : s.engine = s'.engine := by
  have built := sound.engine_built
  rw [configuration, helpers, sound'.engine_built] at built
  exact (Except.ok.inj built).symm

/-- Files that join the set leave a session sound. -/
theorem withFiles {files : FileSet} (more : s.files.Within files) : Sound { s with files } where
  engine := sound.engine
  helpers := sound.helpers
  imports := fun name file member => (sound.imports name file member).mono more
  provided := fun file known =>
    ⟨more file (sound.provided file known).1, (sound.provided file known).2⟩

end Sound

/-- A session that was opened is sound. -/
theorem sound_of_start {options : SessionOptions} {source : FileSource}
    {records? : Option RecordCache} {tracer : Trace.Tracer} {s : Session}
    (opened : start options source records? tracer = .ok s) : s.Sound := by
  rw [start] at opened
  obtain ⟨helpers, read, opened⟩ := ok_of_bind opened
  obtain ⟨c, configured, opened⟩ := ok_of_bind opened
  obtain ⟨engine, built, opened⟩ := ok_of_bind opened
  cases opened
  exact {
    engine := ⟨c, ok_of_mapError built⟩
    helpers := built_of_readManifests (fun d none => absurd none List.not_mem_nil) read
    imports := fun name file none => absurd none List.not_mem_nil
    provided := nofun }

/-! ## Asking for imports -/

/-- What comes of reading an import document, under the next number. -/
def entryOf (id : Nat) (name : Text) : Except ReadFailure Text → ImportEntry
  | .ok content => .present (.named id name content)
  | .error failure => if failure.isMissing then .missing else .broken failure

theorem readImport_eq (s : Session) (name : Text) :
    ∃ files, s.readImport name = (files, entryOf s.files.size name (s.source.read name))
      ∧ s.files.Within files
      ∧ ∀ file, entryOf s.files.size name (s.source.read name) = .present file →
        files.Includes file ∧ ∃ content, file = .named file.id name content := by
  rw [readImport]
  cases s.source.read name with
  | error failure =>
    refine ⟨_, rfl, .refl _, fun file present => ?_⟩
    rw [entryOf] at present
    split at present <;> cases present
  | ok content =>
    have held := FileSet.includes_addRelative s.files name content
    have found : (s.files.addRelative name name content .none).1.get?
        (s.files.addRelative name name content .none).2 =
      some (.named s.files.size name content) := held
    refine ⟨(s.files.addRelative name name content .none).1, ?_,
      FileSet.within_addRelative s.files name content, fun file present => ?_⟩
    · dsimp only
      rw [found]
      rfl
    · cases present
      exact ⟨held, content, rfl⟩

/-- What is known about imports is what reading them would give now. -/
def Current (s : Session) : Prop :=
  ∀ name entry, (name, entry) ∈ s.imports → ∃ id, entry = entryOf id name (s.source.read name)

/-- Asking for import documents changes the files and what is known about imports only, and nothing
is forgotten. -/
structure Asked (s next : Session) : Prop where
  frame : next = { s with files := next.files, imports := next.imports }
  within : s.files.Within next.files
  remembers : ∀ e ∈ s.imports, e ∈ next.imports
  sound : s.Sound → next.Sound
  current : s.Current → next.Current

theorem Asked.refl (s : Session) : Asked s s := ⟨rfl, .refl _, fun _ member => member, id, id⟩

theorem Asked.trans {s next last : Session} (first : Asked s next) (second : Asked next last) :
    Asked s last where
  frame := by rw [second.frame, first.frame]
  within := first.within.trans second.within
  remembers := fun e member => second.remembers e (first.remembers e member)
  sound := fun sound => second.sound (first.sound sound)
  current := fun current => second.current (first.current current)

variable (s : Session)

/-- Asking for an import keeps a session sound: an entry is an old one, or the one that was just
read. -/
theorem asked_askImport (name : Text) : Asked s (s.askImport name).1 := by
  rw [askImport]
  cases s.knownImport? name with
  | some entry => exact .refl s
  | none =>
    obtain ⟨files, read, within, present⟩ := readImport_eq s name
    dsimp only
    rw [read]
    refine ⟨rfl, within, fun e member => List.mem_append_left _ member, fun sound => ?_,
      fun current other entry member => ?_⟩
    · have old := sound.withFiles within
      exact {
        engine := old.engine
        helpers := old.helpers
        imports := fun other file member => by
          rcases List.mem_append.mp member with before | new
          · exact old.imports other file before
          · obtain ⟨rfl, entry⟩ := Prod.mk.inj (List.mem_singleton.mp new)
            exact ⟨(present file entry.symm).1, (present file entry.symm).2⟩
        provided := old.provided }
    · rcases List.mem_append.mp member with before | new
      · exact current other entry before
      · obtain ⟨rfl, rfl⟩ := Prod.mk.inj (List.mem_singleton.mp new)
        exact ⟨_, rfl⟩

/-- What comes of asking is known afterwards. -/
theorem mem_imports_askImport (name : Text) :
    (name, (s.askImport name).2) ∈ (s.askImport name).1.imports := by
  rw [askImport]
  cases known : s.knownImport? name with
  | some entry =>
    obtain ⟨⟨other, entry'⟩, found, same⟩ := Option.map_eq_some_iff.mp known
    cases same
    have named := List.find?_some found
    cases eq_of_beq named
    exact List.mem_of_find?_eq_some found
  | none => exact List.mem_append_right _ (List.mem_singleton.mpr rfl)

/-- The files that come of asking for import documents have some of the names that were asked for,
and what is reported has no place. -/
theorem askImports_spec (document : Text) (bag : DiagnosticBag) (found : List SourceFile)
    (names : List Text) :
    Asked s (s.askImports document bag found names).1
      ∧ ∀ all files, (s.askImports document bag found names).2 = .ok (all, files) →
        (∃ present more, present.Sublist names ∧ files = found ++ more
          ∧ List.Forall₂ (fun name file => (name, .present file)
            ∈ (s.askImports document bag found names).1.imports) present more)
        ∧ ∃ warnings, all = bag.addAll warnings ∧ ∀ d ∈ warnings, d.spans = [] := by
  induction names generalizing s bag found with
  | nil =>
    refine ⟨.refl s, fun all files done => ?_⟩
    cases done
    exact ⟨⟨[], [], .slnil, (List.append_nil found).symm, .nil⟩, [], rfl,
      fun d none => absurd none List.not_mem_nil⟩
  | cons name names ih =>
    have asked := asked_askImport s name
    have known := mem_imports_askImport s name
    rw [askImports]
    generalize s.askImport name = result at asked known ⊢
    rcases result with ⟨next, entry⟩
    cases entry with
    | present file =>
      have rest := ih next bag (found ++ [file])
      refine ⟨asked.trans rest.1, fun all files done => ?_⟩
      obtain ⟨⟨present, more, among, split, each⟩, warned⟩ := rest.2 all files done
      refine ⟨⟨name :: present, file :: more, among.cons_cons name, ?_, .cons ?_ each⟩, warned⟩
      · rw [split, List.append_assoc, List.singleton_append]
      · exact rest.1.remembers _ known
    | missing =>
      have rest := ih next bag found
      refine ⟨asked.trans rest.1, fun all files done => ?_⟩
      obtain ⟨⟨present, more, among, split, each⟩, warned⟩ := rest.2 all files done
      exact ⟨⟨present, more, among.cons name, split, each⟩, warned⟩
    | broken cause =>
      dsimp only
      split
      · have rest := ih next (bag.add (ignoredImport name cause)).1 found
        refine ⟨asked.trans rest.1, fun all files done => ?_⟩
        obtain ⟨⟨present, more, among, split, each⟩, warnings, reported, unlocated⟩ :=
          rest.2 all files done
        exact ⟨⟨present, more, among.cons name, split, each⟩,
          ignoredImport name cause :: warnings, reported, List.forall_mem_cons.mpr ⟨rfl, unlocated⟩⟩
      · exact ⟨asked, nofun⟩

/-! ## Loading a document -/

/-- The kind of a document by its name, unless the session says otherwise. -/
def kindOf (name : Text) : FileKind := s.options.fileKind?.getD (.ofPath name)

/-- The session with the source of a document among its files. -/
def withSource (name content : Text) : Session :=
  { s with files := (s.files.addRelative name name content .none).1 }

def documentOf (name content : Text) (imports : List SourceFile) : CodeDocument :=
  { CodeDocument.ofSource (.named s.files.size name content) imports with fileKind := s.kindOf name }

/-- Add the source of a document to the files and ask for the imports. -/
def loading (name content : Text) : Session × Except SessionError (DiagnosticBag × CodeDocument) :=
  let asked := (s.withSource name content).askImports name (.ofLimit s.options.maxDiagnostics) []
    (Project.importPaths name (s.kindOf name))
  (asked.1, asked.2.map fun found => (found.1, s.documentOf name content found.2))

/-- A document has been read, with its imports, but not been compiled. -/
structure Loaded (doc : CodeDocument) (source : SourceFile) : Prop where
  sound : s.Sound
  fresh : doc = { CodeDocument.ofSource source doc.imports with fileKind := doc.fileKind }
  read : ∀ f ∈ source :: doc.imports, s.files.Read f.path f
  distinct : ((source :: doc.imports).map SourceFile.path).Nodup

/-- Files that were read under clean names have these as their paths. -/
theorem paths_of_read {fileSet : FileSet} {names : List Text} {files : List SourceFile}
    (cleaned : ∀ name ∈ names, Path.clean name = name)
    (read : List.Forall₂ fileSet.Read names files) :
    files.map SourceFile.path = names ∧ ∀ f ∈ files, fileSet.Read f.path f := by
  induction read with
  | nil => exact ⟨rfl, fun f none => absurd none List.not_mem_nil⟩
  | @cons name file names files first rest ih =>
    have both := List.forall_mem_cons.mp cleaned
    obtain ⟨content, named⟩ := first.named
    have path : file.path = name := by
      rw [named]
      exact both.1
    have others := ih both.2
    refine ⟨congr (congrArg List.cons path) others.1, List.forall_mem_cons.mpr ⟨?_, others.2⟩⟩
    rw [path]
    exact first

theorem Sound.loading {s : Session} (sound : s.Sound) {name : Text}
    (cleaned : Path.clean name = name) (content : Text) :
    Asked s (s.loading name content).1
      ∧ ∀ bag doc, (s.loading name content).2 = .ok (bag, doc) →
        (s.loading name content).1.Loaded doc (.named s.files.size name content)
          ∧ doc.fileKind = s.kindOf name
          ∧ ∃ warnings, bag = (DiagnosticBag.ofLimit s.options.maxDiagnostics).addAll warnings
            ∧ ∀ d ∈ warnings, d.spans = [] := by
  have within := FileSet.within_addRelative s.files name content
  have held := FileSet.includes_addRelative s.files name content
  have added : Asked s (s.withSource name content) :=
    ⟨rfl, within, fun _ member => member, fun sound => sound.withFiles within, id⟩
  have spec := askImports_spec (s.withSource name content) name
    (.ofLimit s.options.maxDiagnostics) [] (Project.importPaths name (s.kindOf name))
  rw [Session.loading]
  dsimp only
  generalize (s.withSource name content).askImports name _ [] _ = result at spec ⊢
  have sound' := spec.1.sound (added.sound sound)
  refine ⟨added.trans spec.1, fun bag doc done => ?_⟩
  obtain ⟨⟨all, files⟩, found, same⟩ := ok_of_map done
  cases same
  obtain ⟨⟨present, more, among, split, each⟩, warned⟩ := spec.2 all files found
  rw [List.nil_append] at split
  subst split
  have asked : ∀ p ∈ present, p ∈ Project.importPaths name (s.kindOf name) :=
    fun p member => among.subset member
  have paths := paths_of_read (fun p member => Project.clean_of_mem_importPaths (asked p member))
    (each.imp fun p file member => sound'.imports p file member)
  refine ⟨?_, rfl, warned⟩
  -- Imports have the names they were asked for under, and none of these is the name of the source.
  exact {
    sound := sound'
    fresh := rfl
    read := by
      refine List.forall_mem_cons.mpr ⟨⟨spec.1.within _ held, content, ?_⟩, paths.2⟩
      change _ = SourceFile.named s.files.size (Path.clean name) content
      rw [cleaned]
    distinct := by
      rw [List.map_cons]
      change (Path.clean name :: files.map SourceFile.path).Nodup
      rw [paths.1, cleaned]
      refine List.nodup_cons.mpr ⟨fun member => ?_, among.nodup (Project.importPaths_nodup _ _)⟩
      exact Project.ne_of_mem_importPaths (asked name member) rfl }

namespace Loaded

variable {s} {doc : CodeDocument} {source : SourceFile} (loaded : s.Loaded doc source)

include loaded

theorem given : doc.source? = some source := by
  rw [loaded.fresh]
  rfl

theorem digests : ∀ f ∈ source :: doc.imports, f.digest = .ofBytes f.content := by
  intro f member
  obtain ⟨content, named⟩ := (loaded.read f member).named
  rw [named]
  rfl

theorem relative : source.relative = Path.rooted source.path := by
  obtain ⟨content, named⟩ := (loaded.read source List.mem_cons_self).named
  exact congrArg SourceFile.relative named

end Loaded

/-! ## What the engine provides -/

/-- What the phases work on when a document is compiled. -/
def workpiece (doc : CodeDocument) : Workpiece := ⟨doc, s.files, s.providedImport?⟩

/-- The import documents that the engine provides for a document. -/
def providedFor (doc : CodeDocument) : List SourceFile :=
  ((s.workpiece doc).provide s.engine.features doc.fileKind).1

/-- The session with these import documents among its files. -/
def providing (doc : CodeDocument) : Session :=
  let w := ((s.workpiece doc).provide s.engine.features doc.fileKind).2
  { s with files := w.files, providedImport? := w.providedImport? }

/-- Views get the same import document all the time, and other documents get none. -/
theorem Sound.providing {s : Session} (sound : s.Sound) (doc : CodeDocument) :
    (s.providing doc).Sound
      ∧ s.files.Within (s.providing doc).files
      ∧ (∀ f ∈ s.providedFor doc, (s.providing doc).files.Includes f
        ∧ f = .ofContent f.id Dialect.viewImportsPath Dialect.viewImports .inMemory)
      ∧ (s.providedFor doc).length = if doc.fileKind == .legacy then 1 else 0 := by
  have features := sound.isProject.provided
  have known := sound.provided
  rw [Session.providing, providedFor, Workpiece.provide, features, if_pos rfl, Option.bind_some,
    Assembly.viewImport]
  cases doc.fileKind == .legacy with
  | false => exact ⟨sound, .refl _, fun f none => absurd none List.not_mem_nil, rfl⟩
  | true =>
    dsimp only [workpiece, if_true]
    cases earlier : s.providedImport? with
    | some file =>
      refine ⟨?_, .refl _, List.forall_mem_singleton.mpr (known file earlier), rfl⟩
      change Sound { s with providedImport? := some file }
      rw [← earlier]
      exact sound
    | none =>
      let new : SourceFile :=
        .ofContent s.files.size Dialect.viewImportsPath Dialect.viewImports .inMemory
      have within := FileSet.within_push s.files new
      have held : FileSet.Includes ⟨s.files.files.push new⟩ new := FileSet.includes_push rfl
      have old := sound.withFiles within
      refine ⟨?_, within, List.forall_mem_singleton.mpr ⟨held, rfl⟩, rfl⟩
      exact {
        engine := old.engine
        helpers := old.helpers
        imports := old.imports
        provided := fun file known => by
          cases Option.some.inj known
          exact ⟨held, rfl⟩ }

namespace Loaded

variable {s} {doc : CodeDocument} {source : SourceFile} (loaded : s.Loaded doc source)

include loaded

theorem includes_files :
    ∀ f ∈ source :: (s.providedFor doc ++ doc.imports), (s.providing doc).files.Includes f := by
  have provided := loaded.sound.providing doc
  have read := List.forall_mem_cons.mp loaded.read
  refine List.forall_mem_cons.mpr ⟨provided.2.1 _ read.1.held, List.forall_mem_append.mpr
    ⟨fun f member => (provided.2.2.1 f member).1, fun f member => ?_⟩⟩
  exact provided.2.1 _ (read.2 f member).held

/-- No file of a document occurs twice in it, for a provided import has no place in the
project and what was read has one. -/
theorem nodup_files : (source :: (s.providedFor doc ++ doc.imports)).Nodup := by
  have provided := loaded.sound.providing doc
  have distinct := List.nodup_cons.mp loaded.distinct.of_map
  have single : (s.providedFor doc).Nodup := by
    have length := provided.2.2.2
    rcases present : s.providedFor doc with _ | ⟨f, _ | ⟨g, rest⟩⟩
    · exact List.nodup_nil
    · exact List.nodup_singleton f
    · rw [present] at length
      split at length <;> cases length
  have apart : ∀ f ∈ s.providedFor doc, ∀ g ∈ source :: doc.imports, f ≠ g := by
    rintro f inside g read rfl
    obtain ⟨content, named⟩ := (loaded.read f read).named
    refine SourceFile.relative_named_ne_nil f.id f.path content ?_
    rw [← named, (provided.2.2.1 f inside).2]
    rfl
  refine List.nodup_cons.mpr ⟨fun member => ?_, List.nodup_append.mpr ⟨single, distinct.2,
    fun f inside g imported => apart f inside g (List.mem_cons_of_mem _ imported)⟩⟩
  rcases List.mem_append.mp member with inside | imported
  · exact apart source inside source List.mem_cons_self rfl
  · exact distinct.1 imported

/-- The files of a document have different numbers. -/
theorem nodup_ids : ((source :: (s.providedFor doc ++ doc.imports)).map SourceFile.id).Nodup :=
  loaded.nodup_files.map_on fun _ first _ second same =>
    FileSet.eq_of_id_eq (loaded.includes_files _ first) (loaded.includes_files _ second) same

end Loaded

/-! ## Renumbered documents -/

/-- Different numbers can be exchanged for others.  By induction on the first list: one more
exchange puts the first number right, and touches none of the others. -/
theorem exists_renumbering {xs ys : List Nat} (distinct : xs.Nodup) (distinct' : ys.Nodup)
    (same : xs.length = ys.length) : ∃ number : Equiv.Perm Nat, xs.map number = ys := by
  induction xs generalizing ys with
  | nil => exact ⟨.refl Nat, (List.length_eq_zero_iff.mp same.symm).symm⟩
  | cons x xs ih =>
    obtain ⟨y, ys, rfl⟩ := List.exists_cons_of_length_eq_add_one same.symm
    rw [List.nodup_cons] at distinct distinct'
    obtain ⟨number, others⟩ := ih distinct.2 distinct'.2 (Nat.succ.inj same)
    refine ⟨number.trans (Equiv.swap (number x) y), ?_⟩
    rw [List.map_cons, Equiv.trans_apply, Equiv.swap_apply_left, ← others]
    refine congrArg (y :: ·) (List.map_congr_left fun z member => ?_)
    refine Equiv.swap_apply_of_ne_of_ne ?_ ?_
    · rintro moved
      exact distinct.1 (number.injective moved ▸ member)
    · rintro rfl
      exact distinct'.1 (others ▸ List.mem_map_of_mem member)

theorem forall₂_renumbered {number : Nat → Nat} {fs gs : List SourceFile}
    (ids : (fs.map SourceFile.id).map number = gs.map SourceFile.id)
    (contents : gs.map SourceFile.content = fs.map SourceFile.content) :
    List.Forall₂ (SourceFile.Renumbered number) fs gs := by
  induction fs generalizing gs with
  | nil =>
    rw [List.map_eq_nil_iff.mp contents]
    exact .nil
  | cons f fs ih =>
    obtain ⟨g, gs, rfl, content, contents⟩ := List.map_eq_cons_iff.mp contents
    have both := List.cons.inj ids
    exact .cons ⟨both.1.symm, content⟩ (ih both.2 contents)

namespace Loaded

variable {s} {s' : Session} {doc doc' : CodeDocument} {source source' : SourceFile}

/-- Documents of the same kind get the same from the engine, under other numbers. -/
theorem anonymous_providedFor (loaded : s.Loaded doc source) (loaded' : s'.Loaded doc' source')
    (fileKind : doc'.fileKind = doc.fileKind) :
    (s'.providedFor doc').map SourceFile.anonymous =
      (s.providedFor doc).map SourceFile.anonymous := by
  have each : ∀ {t : Session} {d : CodeDocument}, t.Sound → (t.providedFor d).map
      SourceFile.anonymous = List.replicate (if d.fileKind == .legacy then 1 else 0)
        (.ofContent 0 Dialect.viewImportsPath Dialect.viewImports .inMemory) := by
    intro t d sound
    have provided := sound.providing d
    rw [← provided.2.2.2]
    refine List.eq_replicate_iff.mpr ⟨List.length_map _, List.forall_mem_map.mpr fun f member => ?_⟩
    rw [(provided.2.2.1 f member).2]
    rfl
  rw [each loaded.sound, each loaded'.sound, fileKind]

theorem parserOptions_eq (loaded : s.Loaded doc source) :
    Workpiece.parserOptions s.engine doc =
      s.engine.configuration.parserOptions s.engine.features.directives.entries doc := by
  have own : doc.parserOptions? = none := by rw [loaded.fresh]; rfl
  rw [Workpiece.parserOptions, own, loaded.sound.isProject.parserOptions]
  rfl

theorem digest_eq (loaded : s.Loaded doc source) :
    doc.digest = (Digest.ofBytes source.content).combine
      ((doc.imports.map SourceFile.content).map Digest.ofBytes) := by
  have digests := List.forall_mem_cons.mp loaded.digests
  rw [CodeDocument.digest, loaded.given, List.map_map, List.map_congr_left digests.2]
  exact congrArg (fun d => Digest.combine d _) digests.1

/-- Documents with the same path and kind that were read from the same contents, by engines that do
the same, differ in the numbers of their files only. -/
theorem renumbered (loaded : s.Loaded doc source) (loaded' : s'.Loaded doc' source')
    (engine : s'.engine = s.engine) (fileKind : doc'.fileKind = doc.fileKind)
    (path : source'.path = source.path)
    (contents : (source' :: doc'.imports).map SourceFile.content =
      (source :: doc.imports).map SourceFile.content) :
    ∃ number : Equiv.Perm Nat, Workpiece.Renumbered number s.engine doc doc' source source'
      (s.providedFor doc) (s'.providedFor doc') := by
  have each := List.cons.inj contents
  have all : (source' :: (s'.providedFor doc' ++ doc'.imports)).map SourceFile.content =
      (source :: (s.providedFor doc ++ doc.imports)).map SourceFile.content := by
    rw [List.map_cons, List.map_cons, List.map_append, List.map_append, each.1, each.2,
      SourceFile.map_content_of_anonymous (loaded.anonymous_providedFor loaded' fileKind)]
  have lengths := congrArg List.length all
  rw [List.length_map, List.length_map] at lengths
  obtain ⟨number, ids⟩ := exists_renumbering loaded.nodup_ids loaded'.nodup_ids
    (by rw [List.length_map, List.length_map, lengths])
  have files := List.forall₂_cons.mp (forall₂_renumbered ids all)
  refine ⟨number, ?_⟩
  exact {
    given := loaded.given
    given' := loaded'.given
    fileKind
    helpers := by rw [loaded.fresh, loaded'.fresh]; rfl
    digest := by rw [loaded.digest_eq, loaded'.digest_eq, each.1, each.2]
    parser := by
      have own := loaded'.parserOptions_eq
      rw [engine] at own
      rw [own, loaded.parserOptions_eq, Configuration.parserOptions, Configuration.parserOptions,
        fileKind]
    code := by rw [Workpiece.codeOptions, Workpiece.codeOptions, loaded.fresh, loaded'.fresh]; rfl
    path
    relative := by rw [loaded.relative, loaded'.relative, path]
    source := files.1
    imports := files.2 }

end Loaded

end Session

end TemplateCompiler
