import TemplateCompiler.Proofs.RecordIdentity
import TemplateCompiler.Proofs.SessionCalls

/-!
# Sessions that share records

A document that was compiled without any finding leaves a record behind, and a later compilation
with the same key takes its output from the record.  The sessions of a `Workshop` share one cache of
records.  What stands in the cache is stated as `Recorded`: some session loaded some document with
that key, and writes that output for it without findings.  The key determines the document up to the
numbers of files, so a kept output is what compiling would give, and a caller does not see whether
there is a cache (`Workshop.outcome_without_records`).
-/

namespace TemplateCompiler

open Digest

/-! ## Bags -/

namespace DiagnosticBag

theorem length_le_addAll (b : DiagnosticBag) (ds : List Diagnostic) :
    b.items.length ≤ (b.addAll ds).items.length := by
  induction ds generalizing b with
  | nil => exact Nat.le_refl _
  | cons e ds ih =>
    refine Nat.le_trans ?_ (ih (b.add e).1)
    rw [add]
    split
    · exact Nat.le_refl _
    · rw [List.length_append]
      exact Nat.le_add_right _ _

/-- A bag that stays empty was given nothing: the limit leaves room for one. -/
theorem eq_nil_of_addAll {b : DiagnosticBag} {ds : List Diagnostic}
    (empty : (b.addAll ds).items = []) : ds = [] := by
  cases ds with
  | nil => rfl
  | cons d ds =>
    have before := length_le_addAll (b.add d).1 ds
    change (((b.add d).1).addAll ds).items = [] at empty
    rw [empty, List.length_nil, Nat.le_zero, List.length_eq_zero_iff, add] at before
    split at before
    · next full =>
      rw [isFull, before, Bool.and_eq_true, decide_eq_true_eq, decide_eq_true_eq,
        List.length_nil] at full
      omega
    · exact absurd before (List.append_ne_nil_of_right_ne_nil _ (List.cons_ne_nil d []))

end DiagnosticBag

namespace Session

/-! ## What a record stands for -/

/-- What stands under a key is the packed record of a document with that key, which has the output
of the record and no findings.  `known` are the texts that were hashed. -/
structure Recorded (known : Text → Prop) (key : Digest) (content : Text) (s : Session)
    (doc : CodeDocument) (source : SourceFile) (r : CacheRecord) : Prop where
  loaded : s.Loaded doc source
  key : s.recordKey doc = key
  hashed : ∀ t ∈ s.hashedFor doc, known t
  honored : (Workpiece.parserOptions s.engine doc).conflict? = none
  silent : (s.written doc source).diagnostics = []
  output : r.output = (s.written doc source).text
  packed : content = r.pack
  readBack : CacheRecord.unpack? r.pack = some r

/-- Everything in a cache is such a record, so that reading one under the key of a document gives
what compiling the document would give. -/
def Trusted (known : Text → Prop) (c : RecordCache) : Prop :=
  ∀ e ∈ c.contents.entries, ∃ s doc source r, Recorded known e.1 e.2 s doc source r

variable {known : Text → Prop} {s : Session} {doc : CodeDocument} {source : SourceFile}

theorem Trusted.write {c : RecordCache} (trusted : Trusted known c) {key : Digest}
    {r : CacheRecord} (current : r.schema = CacheRecord.currentSchema)
    (recorded : Recorded known key r.pack s doc source r) : Trusted known (c.write key r) := by
  have packed : { r with schema := CacheRecord.currentSchema } = r := by rw [← current]
  rw [RecordCache.write, packed]
  intro e member
  rcases List.mem_cons.mp member with rfl | old
  · exact ⟨s, doc, source, r, recorded⟩
  · exact trusted e (List.mem_filter.mp old).1

/-- A kept output comes from a record under the key. -/
theorem recorded_of_keptOutput {c : RecordCache} (records : s.records? = some c)
    (trusted : Trusted known c) {key : Digest} {output : Text}
    (kept : s.keptOutput? key doc = some output) :
    ∃ s' doc' source' r content, Recorded known key content s' doc' source' r
      ∧ r.output = output := by
  rw [keptOutput?, records, Option.map_some, RecordCache.read] at kept
  cases stored : c.contents.get? key with
  | none =>
    rw [stored] at kept
    cases kept
  | some content =>
    obtain ⟨⟨other, content'⟩, found, same⟩ := Option.map_eq_some_iff.mp stored
    cases same
    have named := List.find?_some found
    change (other.bytes == key.bytes) = true at named
    cases Digest.ext_bytes (eq_of_beq named)
    obtain ⟨s', doc', source', r, recorded⟩ := trusted _ (List.mem_of_find?_eq_some found)
    refine ⟨s', doc', source', r, _, recorded, ?_⟩
    rw [stored, recorded.packed] at kept
    dsimp only at kept
    rw [recorded.readBack] at kept
    dsimp only at kept
    cases current : r.schema == CacheRecord.currentSchema with
    | false =>
      rw [current] at kept
      cases kept
    | true =>
      rw [current] at kept
      change (if _ then some r.output else none) = some output at kept
      split at kept
      · exact Option.some.inj kept
      · cases kept

/-- A kept output is what compiling would give, and there would be no findings besides those about
the imports.  The document that the record was made for has the same key, so it differs from this
one in the numbers of files only. -/
theorem Loaded.verdict_of_kept (safe : Collisionless known) (loaded : s.Loaded doc source)
    (hashed : ∀ t ∈ s.hashedFor doc, known t) {c : RecordCache} (records : s.records? = some c)
    (trusted : Trusted known c) {output : Text}
    (kept : s.keptOutput? (s.recordKey doc) doc = some output) (name : Text) {bag : DiagnosticBag}
    (unlocated : ∀ d ∈ bag.items, d.spans = []) :
    s.verdict name bag doc source = .ok (output, bag.reported) := by
  obtain ⟨s', doc', source', r, content, recorded, same⟩ :=
    recorded_of_keptOutput records trusted kept
  obtain ⟨engine, number, inputs⟩ := recorded.loaded.renumbered_of_key safe loaded recorded.hashed
    hashed recorded.key.symm
  have written := written_renumbered number.injective engine inputs
  have honored : (Workpiece.parserOptions s.engine doc).conflict? = none := by
    rw [engine, inputs.parser]
    exact recorded.honored
  have ordered : bag.sort = bag := by
    rw [DiagnosticBag.sort, Diagnostic.sorted_of_unlocated unlocated]
  rw [verdict, honored]
  dsimp only
  rw [written.1, written.2, recorded.silent, ← recorded.output, same]
  change Except.ok (output, bag.sort.reported) = _
  rw [ordered]

/-- A document that has been loaded comes out the same with and without records. -/
theorem Loaded.outcome_compileLoaded (safe : Collisionless known) (loaded : s.Loaded doc source)
    (hashed : ∀ t ∈ s.hashedFor doc, known t) (writable : s.Writable)
    (trusted : ∀ c ∈ s.records?, Trusted known c) (r : CompileResult)
    (unlocated : ∀ d ∈ r.bag.items, d.spans = []) (parent : Nat) :
    outcome (s.compileLoaded r doc parent).2 = s.verdict r.path r.bag doc source := by
  rw [compileLoaded]
  cases kept : s.keptOutput? (s.recordKey doc) doc with
  | none => exact loaded.outcome_runDocument writable r _ _ parent
  | some output =>
    cases records : s.records? with
    | none =>
      rw [keptOutput?, records] at kept
      cases kept
    | some c =>
      rw [loaded.verdict_of_kept safe hashed records (trusted c records) kept r.path unlocated]
      rfl

/-! ## One call -/

variable (s)

/-- The texts that a call hashes for the key of a record. -/
def hashing (path : Text) : List Text :=
  match s.prepare (Path.clean path) with
  | (_, .inl _) => []
  | (next, .inr p) => next.hashedFor p.document

/-- The record of a document that comes out without findings. -/
def recording (path : Text) : List CacheRecord :=
  match s.prepare (Path.clean path) with
  | (_, .inl _) => []
  | (next, .inr p) =>
    match next.verdict (Path.clean path) p.bag p.document p.source with
    | .ok (output, []) => [next.recordOf p.document (Path.clean path) output]
    | _ => []

variable {s}

theorem hashing_of_prepared {path : Text} {p : Prepared}
    (prepared : (s.prepare (Path.clean path)).2 = .inr p) :
    s.hashing path = (s.prepare (Path.clean path)).1.hashedFor p.document := by
  rw [hashing]
  generalize s.prepare (Path.clean path) = result at prepared ⊢
  rcases result with ⟨next, early | p'⟩
  · cases prepared
  · cases prepared
    rfl

theorem hashing_equipped (tracer : Trace.Tracer) (records? : Option RecordCache) (path : Text) :
    (s.equipped tracer records?).hashing path = s.hashing path := by
  rw [hashing, hashing, prepare_equipped]
  rcases s.prepare (Path.clean path) with ⟨next, early | p⟩ <;> rfl

/-- A call does not look at records, as far as the caller can see. -/
theorem Sound.outcome_compileFile (safe : Collisionless known) (sound : s.Sound) {path : Text}
    (hashed : ∀ t ∈ s.hashing path, known t) (writable : s.Writable)
    (trusted : ∀ c ∈ s.records?, Trusted known c) (parent : Nat) :
    outcome (s.compileFile path parent).2 = s.judgement path := by
  refine outcome_compileFile_of (fun p prepared tracer parent => ?_) parent
  obtain ⟨loaded, unlocated⟩ := (sound.prepare (Path.clean_clean path)).2 p prepared
  rw [hashing_of_prepared prepared] at hashed
  exact (loaded.equipped tracer s.records?).outcome_compileLoaded safe hashed writable trusted _
    unlocated parent

theorem Loaded.trusted_compileLoaded (loaded : s.Loaded doc source)
    (hashed : ∀ t ∈ s.hashedFor doc, known t) (writable : s.Writable)
    (trusted : ∀ c ∈ s.records?, Trusted known c) (r : CompileResult) (parent : Nat)
    (readBack : ∀ output, s.verdict r.path r.bag doc source = .ok (output, []) →
      CacheRecord.unpack? (s.recordOf doc r.path output).pack =
        some (s.recordOf doc r.path output)) :
    ∀ c ∈ (s.compileLoaded r doc parent).1.records?, Trusted known c := by
  rw [compileLoaded]
  cases s.keptOutput? (s.recordKey doc) doc with
  | some output => exact trusted
  | none =>
    dsimp only
    cases options : (Workpiece.parserOptions s.engine doc).conflict? with
    | some conflict =>
      obtain ⟨tracer, events, refused⟩ :=
        loaded.runDocument_refused options r (s.recordKey doc) (loadTimer doc) parent
      rw [refused]
      exact trusted
    | none =>
      obtain ⟨tracer, events, result, ran, -⟩ :=
        loaded.runDocument_honored writable options r (s.recordKey doc) (loadTimer doc) parent
      rw [ran]
      intro c left
      obtain ⟨before, records, written⟩ := Option.map_eq_some_iff.mp left
      dsimp only at written
      split at written
      · next empty =>
        rw [List.isEmpty_iff] at empty
        -- No finding was cut off by the limit of the bag: it has room for one at least.
        have unsorted : (r.bag.addAll (s.written doc source).diagnostics).items = [] := by
          have length := congrArg List.length empty
          rw [DiagnosticBag.sort, Diagnostic.sorted, List.length_mergeSort] at length
          exact List.length_eq_zero_iff.mp length
        have verdict : s.verdict r.path r.bag doc source = .ok ((s.written doc source).text, []) := by
          rw [Session.verdict, options, DiagnosticBag.reported, empty]
          rfl
        rw [← written]
        exact (trusted before records).write rfl {
          loaded
          key := rfl
          hashed
          honored := options
          silent := DiagnosticBag.eq_nil_of_addAll unsorted
          output := rfl
          packed := rfl
          readBack := readBack _ verdict }
      · rw [← written]
        exact trusted before records

/-- A call leaves nothing but such records in the cache. -/
theorem Sound.trusted_compileFile (sound : s.Sound) {path : Text}
    (hashed : ∀ t ∈ s.hashing path, known t) (writable : s.Writable)
    (trusted : ∀ c ∈ s.records?, Trusted known c)
    (readBack : ∀ r ∈ s.recording path, CacheRecord.unpack? r.pack = some r) (parent : Nat) :
    ∀ c ∈ (s.compileFile path parent).1.records?, Trusted known c := by
  rw [compileFile_eq]
  dsimp only
  generalize s.tracer.begin .document (Path.clean path) parent = begun
  have prepared := sound.prepare (Path.clean_clean path)
  change ∀ c ∈ ((s.equipped begun.1 s.records?).compileName (Path.clean path) begun.2.id).1.records?,
    Trusted known c
  rw [compileName, prepare_equipped]
  rw [hashing] at hashed
  rw [recording] at readBack
  generalize s.prepare (Path.clean path) = result at prepared hashed readBack ⊢
  rcases result with ⟨next, early | p⟩
  · exact trusted
  · refine ((prepared.2 p rfl).1.equipped begun.1 s.records?).trusted_compileLoaded hashed writable
      trusted _ _ fun output verdict => ?_
    change next.verdict (Path.clean path) p.bag p.document p.source = _ at verdict
    dsimp only at readBack
    rw [verdict] at readBack
    exact readBack _ (List.mem_singleton.mpr rfl)

end Session

deriving instance DecidableEq for CacheRecord

/-! ## Histories -/

/-- Sessions that share a cache of records, as runs of the program do one after another when they
are given the same directory. -/
structure Workshop where
  records : RecordCache := {}
  sessions : List Session := []

namespace Workshop

/-- What happens in a workshop: a session is opened, or one of them compiles a document of a tree of
files, which may have changed since. -/
inductive Event where
  | opens (options : SessionOptions) (tree : FileSource) (tracer : Trace.Tracer)
  | compiles (index : Nat) (tree : FileSource) (path : Text) (parent : Nat)

/-- A session of the workshop that is about to compile a document. -/
def caller (w : Workshop) (s : Session) (tree : FileSource) : Session :=
  { s with source := tree, records? := some w.records }

/-- One event.  A session that cannot be opened, or is not there, leaves no trace. -/
def step (w : Workshop) : Event → Workshop
  | .opens options tree tracer =>
    match Session.start options tree none tracer with
    | .error _ => w
    | .ok s => { w with sessions := w.sessions ++ [s] }
  | .compiles index tree path parent =>
    match w.sessions[index]? with
    | none => w
    | some s =>
      let after := ((w.caller s tree).compileFile path parent).1
      { records := after.records?.getD w.records, sessions := w.sessions.set index after }

def run (w : Workshop) (events : List Event) : Workshop := events.foldl step w

/-- The texts that are hashed for the key of a record in an event. -/
def hashedBy (w : Workshop) : Event → List Text
  | .opens .. => []
  | .compiles index tree path _ =>
    (w.sessions[index]?.map fun s => (w.caller s tree).hashing path).getD []

def hashed (w : Workshop) : List Event → List Text
  | [] => []
  | event :: events => w.hashedBy event ++ (w.step event).hashed events

/-- The record of a document that comes out of an event without findings. -/
def recordedBy (w : Workshop) : Event → List CacheRecord
  | .opens .. => []
  | .compiles index tree path _ =>
    (w.sessions[index]?.map fun s => (w.caller s tree).recording path).getD []

/-- The records of the documents that come out without findings. -/
def recorded (w : Workshop) : List Event → List CacheRecord
  | [] => []
  | event :: events => w.recordedBy event ++ (w.step event).recorded events

/-- What holds in a workshop at all times: its sessions are sound, records can be written, and each
record is one that a sound session has left. -/
structure Sound (known : Text → Prop) (w : Workshop) : Prop where
  sessions : ∀ s ∈ w.sessions, s.Sound
  opened : w.records.closed? = none
  trusted : Session.Trusted known w.records

variable {known : Text → Prop} {w : Workshop}

theorem Sound.caller (sound : w.Sound known) {s : Session} (member : s ∈ w.sessions)
    (tree : FileSource) : (w.caller s tree).Sound ∧ (w.caller s tree).Writable
      ∧ ∀ c ∈ (w.caller s tree).records?, Session.Trusted known c := by
  have own := sound.sessions s member
  exact ⟨⟨own.engine, own.helpers, own.imports, own.provided⟩,
    fun c same => Option.some.inj same ▸ sound.opened,
    fun c same => Option.some.inj same ▸ sound.trusted⟩

/-- An event leaves the workshop as it should be. -/
theorem Sound.step (sound : w.Sound known) {event : Event} (hashed : ∀ t ∈ w.hashedBy event, known t)
    (readBack : ∀ r ∈ w.recordedBy event, CacheRecord.unpack? r.pack = some r) :
    (w.step event).Sound known := by
  cases event with
  | opens options tree tracer =>
    rw [Workshop.step]
    cases started : Session.start options tree none tracer with
    | error e => exact sound
    | ok s =>
      refine ⟨List.forall_mem_append.mpr ⟨sound.sessions, ?_⟩, sound.opened, sound.trusted⟩
      exact List.forall_mem_singleton.mpr (Session.sound_of_start started)
  | compiles index tree path parent =>
    rw [Workshop.step]
    rw [hashedBy] at hashed
    rw [recordedBy] at readBack
    cases found : w.sessions[index]? with
    | none => exact sound
    | some s =>
      rw [found] at hashed readBack
      obtain ⟨called, writable, trusted⟩ := sound.caller (List.mem_of_getElem? found) tree
      have served := called.served_compileFile writable path parent
      have left := called.trusted_compileFile hashed writable trusted readBack parent
      dsimp only
      generalize ((w.caller s tree).compileFile path parent).1 = after at served left ⊢
      refine ⟨fun t member => ?_, ?_, ?_⟩
      · rcases List.mem_or_eq_of_mem_set member with old | rfl
        · exact sound.sessions t old
        · exact served.sound
      · cases records : after.records? with
        | none => exact sound.opened
        | some c => exact served.writable c records
      · cases records : after.records? with
        | none => exact sound.trusted
        | some c => exact left c records

/-- So do all events of a history. -/
theorem Sound.run (sound : w.Sound known) {events : List Event}
    (hashed : ∀ t ∈ w.hashed events, known t)
    (readBack : ∀ r ∈ w.recorded events, CacheRecord.unpack? r.pack = some r) :
    (w.run events).Sound known := by
  induction events generalizing w with
  | nil => exact sound
  | cons event events ih =>
    rw [Workshop.hashed, List.forall_mem_append] at hashed
    rw [Workshop.recorded, List.forall_mem_append] at readBack
    exact ih (sound.step hashed.1 readBack.1) hashed.2 readBack.2

theorem sound_empty (known : Text → Prop) : Sound known {} :=
  ⟨fun _ none => absurd none List.not_mem_nil, rfl, fun _ none => absurd none List.not_mem_nil⟩

theorem hashed_append (events more : List Event) :
    w.hashed (events ++ more) = w.hashed events ++ (w.run events).hashed more := by
  induction events generalizing w with
  | nil => rfl
  | cons event events ih => rw [List.cons_append, hashed, hashed, ih, List.append_assoc]; rfl

/-- Whatever happened in a workshop before, a call of one of its sessions comes out as it does
without records.  The texts that were hashed must not collide, and the records that were left must be
read back as they were. -/
theorem outcome_without_records {events : List Event} {index : Nat} {s : Session}
    (present : (run {} events).sessions[index]? = some s) (tree : FileSource) (path : Text)
    (parent : Nat)
    (safe : Collisionless (· ∈ hashed {} (events ++ [.compiles index tree path parent])))
    (readBack : ∀ r ∈ recorded {} events, CacheRecord.unpack? r.pack = some r) :
    Session.outcome (((run {} events).caller s tree).compileFile path parent).2 =
      Session.outcome ({ s with source := tree, records? := none }.compileFile path parent).2 := by
  have sound : (run {} events).Sound
      (· ∈ hashed {} (events ++ [.compiles index tree path parent])) := by
    refine (sound_empty _).run (fun t member => ?_) readBack
    rw [hashed_append]
    exact List.mem_append_left _ member
  have caller := sound.caller (List.mem_of_getElem? present) tree
  have hashing : ∀ t ∈ ((run {} events).caller s tree).hashing path,
      t ∈ hashed {} (events ++ [.compiles index tree path parent]) := by
    intro t member
    rw [hashed_append, hashed, hashedBy, present]
    exact List.mem_append_right _ (List.mem_append_left _ member)
  have cached := caller.1.outcome_compileFile safe hashing caller.2.1 caller.2.2 parent
  have plain := (caller.1.equipped s.tracer none).outcome_compileFile safe
    (by rw [Session.hashing_equipped]; exact hashing) nofun nofun parent
  rw [Session.judgement_equipped] at plain
  exact cached.trans plain.symm

theorem hashing_caller (w w' : Workshop) (s : Session) (tree : FileSource) (path : Text) :
    (w.caller s tree).hashing path = (w'.caller s tree).hashing path :=
  (Session.hashing_equipped (s := { s with source := tree }) s.tracer (some w.records) path).trans
    (Session.hashing_equipped s.tracer (some w'.records) path).symm

/-- A project with one view. -/
def greetings : FileSource := FileTree.source ⟨[("a.quill", "hi")]⟩

/-- Two sessions are opened, and the first one compiles the view. -/
def greeted : List Event :=
  [.opens {} greetings .none, .opens {} greetings .none, .compiles 0 greetings "a.quill" 0]

/-- The second session has the output from the record of the first one. -/
theorem outcome_without_records_greetings :
    (recorded {} greeted).length = 1 ∧ ∃ s, (run {} greeted).sessions[1]? = some s ∧
      Session.outcome (((run {} greeted).caller s greetings).compileFile "a.quill" 0).2 =
        Session.outcome
          ({ s with source := greetings, records? := none }.compileFile "a.quill" 0).2 := by
  have opened : ((run {} greeted).sessions[1]?).isSome = true := by decide +kernel
  obtain ⟨s, present⟩ := Option.isSome_iff_exists.mp opened
  have again : hashed {} (greeted ++ [.compiles 1 greetings "a.quill" 0]) =
      hashed {} greeted ++ hashed {} greeted := by
    cases started : Session.start {} greetings none .none with
    | error e => simp [greeted, run, step, started] at opened
    | ok s =>
      simp only [greeted, List.cons_append, List.nil_append, hashed, hashedBy, step, started,
        List.length_cons, List.length_nil, Nat.zero_add, Nat.reduceAdd, Nat.zero_lt_succ,
        getElem?_pos, List.getElem_cons_zero, Option.map_some, Option.getD_some,
        List.set_cons_zero, Nat.lt_add_one, List.getElem_cons_succ, List.append_nil,
        List.append_cancel_left_eq]
      exact hashing_caller _ _ s greetings "a.quill"
  have safe : Collisionless (· ∈ hashed {} (greeted ++ [.compiles 1 greetings "a.quill" 0])) := by
    refine collisionless_of_nodup (hashed {} greeted) (fun t member => ?_) (by decide +kernel)
      (by decide +kernel)
    rw [again] at member
    exact (List.mem_append.mp member).elim id id
  exact ⟨by decide +kernel, s, present,
    outcome_without_records present greetings "a.quill" 0 safe (by decide +kernel)⟩

end Workshop

end TemplateCompiler
