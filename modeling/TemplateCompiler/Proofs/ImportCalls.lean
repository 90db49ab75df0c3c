import Mathlib.Data.List.Induction
import TemplateCompiler.Proofs.Interleaving
import TemplateCompiler.Proofs.SessionFiles

/-!
# Callers that share import documents

Documents that are compiled at the same time ask one session for their imports.  A caller that finds
nothing known about an import joins those who want the same one: the first of them leads, reads the
file and makes it known, and the others wait for what comes of it.  Looking and joining are two
steps.  A caller that looked before the import became known, and joins after the leader has left,
leads once more.

These late turns are all that goes wrong (`Session.imports_read_once`): an import for which no turn
comes late is read once at most, and all its callers get the same file or the same error; one for
which a turn comes late is read twice, and its callers get different files.
-/

namespace TemplateCompiler

/-- Where a caller of one import document stands.  Callers take turns; those who find the import
unknown want to read it, and of these only one at a time is the leader who does. -/
inductive ImportCall where
  /-- Before looking whether the import is known. -/
  | asking (name : Text)
  /-- It was not known. -/
  | missed (name : Text)
  /-- Leads those who want the import, and has not read it. -/
  | reading (name : Text)
  /-- Leads, and has read the import. -/
  | storing (name : Text) (entry : ImportEntry)
  /-- Leads, and has made known what came of it. -/
  | leaving (name : Text) (entry : ImportEntry)
  /-- Waits for the caller of a number. -/
  | waiting (name : Text) (leader : Nat)
  /-- Has an answer, which is its own if it has led. -/
  | answered (name : Text) (entry : ImportEntry) (isOwn : Bool)

namespace ImportCall

def name : ImportCall → Text
  | asking name | missed name | reading name | storing name _ | leaving name _ | waiting name _
  | answered name _ _ => name

def isLeader (name : Text) : ImportCall → Bool
  | reading other | storing other _ | leaving other _ => other == name
  | asking _ | missed _ | waiting _ _ | answered _ _ _ => false

/-- Whether a caller leads, or has led, those who want an import. -/
def hasLed (name : Text) : ImportCall → Bool
  | reading other | storing other _ | leaving other _ | answered other _ true => other == name
  | asking _ | missed _ | waiting _ _ | answered _ _ false => false

/-- The file that a caller has read, with the name of the import. -/
def file? : ImportCall → Option (Text × SourceFile)
  | storing name (.present file) | leaving name (.present file)
  | answered name (.present file) true => some (name, file)
  | _ => none

/-- How many turns of its own a caller takes until it has its answer, or waits for another one. -/
def turnsLeft : ImportCall → Nat
  | asking _ => 5
  | missed _ => 4
  | reading _ => 3
  | storing _ _ => 2
  | leaving _ _ => 1
  | waiting _ _ | answered _ _ _ => 0

def isAnswered : ImportCall → Bool
  | answered _ _ _ => true
  | _ => false

end ImportCall

/-- A session, and the callers of its import documents, each at some point of its call.  A turn of
one of them may change the session and where this caller stands, and nothing else. -/
abbrev ImportCalls := Concurrent Session ImportCall

/-- The number of the caller that leads those who want an import. -/
def ImportCalls.leader? (d : ImportCalls) (name : Text) : Option Nat :=
  d.calls.findIdx? (ImportCall.isLeader name)

namespace Session

/-- Make known what came of reading an import. -/
def remember (s : Session) (name : Text) (entry : ImportEntry) : Session :=
  { s with imports := s.imports.filter (fun e => !(e.1 == name)) ++ [(name, entry)] }

/-- The next step of a caller.  Between finding an import unknown and wanting to read it, others may
have read and stored it: the second look is missing, so that the caller then reads it again. -/
def importStep (d : ImportCalls) : ImportCall → Session × ImportCall
  | .asking name =>
    match d.shared.knownImport? name with
    | some entry => (d.shared, .answered name entry false)
    | none => (d.shared, .missed name)
  | .missed name =>
    match d.leader? name with
    | some leader => (d.shared, .waiting name leader)
    | none => (d.shared, .reading name)
  | .reading name =>
    let (files, entry) := d.shared.readImport name
    ({ d.shared with files }, .storing name entry)
  | .storing name entry => (d.shared.remember name entry, .leaving name entry)
  | .leaving name entry => (d.shared, .answered name entry true)
  | .waiting name leader =>
    match d.calls[leader]? with
    | some (.answered _ entry _) => (d.shared, .answered name entry false)
    | _ => (d.shared, .waiting name leader)
  | .answered name entry isOwn => (d.shared, .answered name entry isOwn)

def asking (s : Session) (names : List Text) : ImportCalls := ⟨s, names.map .asking⟩

/-! ## What is known about imports -/

theorem knownImport?_eq_none_iff (s : Session) (name : Text) :
    s.knownImport? name = none ↔ ∀ e ∈ s.imports, e.1 ≠ name := by
  rw [knownImport?, Option.map_eq_none_iff, List.find?_eq_none]
  exact forall₂_congr fun e _ => by rw [beq_iff_eq]

theorem remember_of_unknown {s : Session} {name : Text} (unknown : s.knownImport? name = none)
    (entry : ImportEntry) :
    s.remember name entry = { s with imports := s.imports ++ [(name, entry)] } := by
  have all : s.imports.filter (fun e => !(e.1 == name)) = s.imports := by
    refine List.filter_eq_self.mpr fun e member => ?_
    have apart := (s.knownImport?_eq_none_iff name).mp unknown e member
    rw [beq_eq_false_iff_ne.mpr apart]
    rfl
  rw [remember, all]

theorem knownImport?_remember_self (s : Session) (name : Text) (entry : ImportEntry) :
    (s.remember name entry).knownImport? name = some entry := by
  have others : (s.imports.filter fun e => !(e.1 == name)).find? (fun e => e.1 == name) = none := by
    refine List.find?_eq_none.mpr fun e member => ?_
    have unlike := (List.mem_filter.mp member).2
    simpa using unlike
  rw [remember, knownImport?, List.find?_append, others, List.find?_singleton, beq_self_eq_true]
  rfl

theorem knownImport?_remember_of_ne (s : Session) {name other : Text} (apart : other ≠ name)
    (entry : ImportEntry) : (s.remember name entry).knownImport? other = s.knownImport? other := by
  have unlike : (name == other) = false := beq_eq_false_iff_ne.mpr apart.symm
  rw [remember, knownImport?, List.find?_append, List.find?_singleton, unlike,
    if_neg Bool.false_ne_true, Option.or_none, List.find?_filter, knownImport?]
  congr 2
  funext e
  by_cases same : e.1 = other
  · simp [same, apart]
  · simp [same]

/-- A caller that nobody interrupts does what `askImport` does. -/
theorem run_importStep_alone (s : Session) (name : Text) :
    ∃ isOwn, (s.asking [name]).run importStep [0, 0, 0, 0, 0]
      = ⟨(s.askImport name).1, [.answered name (s.askImport name).2 isOwn]⟩ := by
  cases known : s.knownImport? name with
  | some entry =>
    refine ⟨false, ?_⟩
    simp [asking, Concurrent.run, Concurrent.turn, importStep, askImport, known]
  | none =>
    refine ⟨true, ?_⟩
    have stored := remember_of_unknown
      (s := { s with files := (s.readImport name).1 }) known (s.readImport name).2
    simp [asking, Concurrent.run, Concurrent.turn, importStep, askImport, known,
      ImportCalls.leader?, ImportCall.isLeader, stored]

/-! ## What a turn can do -/

theorem name_importStep (d : ImportCalls) (c : ImportCall) : (importStep d c).2.name = c.name := by
  fun_cases importStep d c <;> rfl

theorem turnsLeft_importStep (d : ImportCalls) (c : ImportCall) :
    (importStep d c).2.turnsLeft ≤ c.turnsLeft - 1 := by
  fun_cases importStep d c <;> simp [ImportCall.turnsLeft]

/-- A step leads once more, or leaves open who leads and has led. -/
theorem hasLed_importStep (d : ImportCalls) (c : ImportCall) (name : Text) :
    (importStep d c).2.hasLed name = c.hasLed name
      ∨ c = .missed name ∧ d.leader? name = none ∧ (importStep d c).2 = .reading name := by
  fun_cases importStep d c with
  | case4 other free =>
    by_cases same : other = name
    · subst same
      exact .inr ⟨rfl, free, rfl⟩
    · exact .inl (beq_eq_false_iff_ne.mpr same)
  | _ => exact .inl rfl

theorem getElem?_of_leader? {d : ImportCalls} {name : Text} {leader : Nat}
    (found : d.leader? name = some leader) :
    ∃ c, d.calls[leader]? = some c ∧ c.isLeader name = true := by
  rcases List.findIdx?_eq_some_iff_getElem.mp found with ⟨inside, leads, -⟩
  exact ⟨_, List.getElem?_eq_getElem inside, leads⟩

/-- Who leads has turns to take before there is an answer. -/
theorem name_of_isLeader {c : ImportCall} {name : Text} (leads : c.isLeader name = true) :
    c.name = name ∧ c.isAnswered = false ∧ c.turnsLeft ≠ 0 := by
  cases c with
  | reading | storing | leaving => exact ⟨eq_of_beq leads, rfl, Nat.succ_ne_zero _⟩
  | asking | missed | waiting | answered => cases leads

theorem hasLed_of_isLeader {c : ImportCall} {name : Text} (leads : c.isLeader name = true) :
    c.hasLed name = true := by
  cases c with
  | reading | storing | leaving => exact leads
  | asking | missed | waiting | answered => cases leads

/-- Who has led and leads no more has an answer of its own. -/
theorem answered_of_hasLed {c : ImportCall} {name : Text} (led : c.hasLed name = true) :
    c.isLeader name = true ∨ ∃ entry, c = .answered name entry true := by
  cases c with
  | reading | storing | leaving => exact .inl led
  | asking | missed | waiting => cases led
  | answered other entry isOwn =>
    cases isOwn with
    | false => cases led
    | true =>
      cases eq_of_beq led
      exact .inr ⟨entry, rfl⟩

/-! ## What holds at all times -/

section Invariant

variable (s : Session)

/-- What can come of reading an import that is not known. -/
def Outcome (name : Text) (entry : ImportEntry) : Prop :=
  s.knownImport? name = none ∧ ∃ id, entry = entryOf id name (s.source.read name)

/-- A caller has made known what came of reading an import. -/
def HasStored (name : Text) (entry : ImportEntry) (c : ImportCall) : Prop :=
  c = .leaving name entry ∨ c = .answered name entry true

/-- What is known was known from the first, or one of the callers has made it known. -/
def Settled (d : ImportCalls) (name : Text) (entry : ImportEntry) : Prop :=
  s.knownImport? name = some entry
    ∨ s.knownImport? name = none ∧ ∃ c ∈ d.calls, HasStored name entry c

/-- Where a caller can stand, given what the session knows.  Who waits has somebody to wait for, and
who has an answer has one that reading the import gives. -/
def Fits (d : ImportCalls) : ImportCall → Prop
  | .asking _ => True
  | .missed name | .reading name => s.knownImport? name = none
  | .storing name entry => s.Outcome name entry
  | .leaving name entry | .answered name entry true =>
    s.Outcome name entry ∧ d.shared.knownImport? name ≠ none
  | .waiting name leader => ∃ c, d.calls[leader]? = some c ∧ c.hasLed name = true
  | .answered name entry false => s.Settled d name entry

/-- What stays when callers go on: known imports stay known, and who has stored an import or led
others has done so for good. -/
structure Continues (d next : ImportCalls) : Prop where
  known : ∀ name, d.shared.knownImport? name ≠ none → next.shared.knownImport? name ≠ none
  stored : ∀ name entry, (∃ c ∈ d.calls, HasStored name entry c) →
    ∃ c ∈ next.calls, HasStored name entry c
  led : ∀ (i : Nat) name, (∃ c, d.calls[i]? = some c ∧ c.hasLed name = true) →
    ∃ c, next.calls[i]? = some c ∧ c.hasLed name = true

theorem known_importStep {d : ImportCalls} {name : Text} (known : d.shared.knownImport? name ≠ none)
    (c : ImportCall) : (importStep d c).1.knownImport? name ≠ none := by
  fun_cases importStep d c with
  | case6 other entry =>
    by_cases same : name = other
    · subst same
      rw [knownImport?_remember_self]
      exact Option.some_ne_none _
    · rw [knownImport?_remember_of_ne _ same]
      exact known
  | _ => exact known

theorem hasLed_of_stored {name : Text} {entry : ImportEntry} {c : ImportCall}
    (stored : HasStored name entry c) : c.hasLed name = true := by
  rcases stored with rfl | rfl
  · exact beq_self_eq_true name
  · exact beq_self_eq_true name

theorem stored_importStep (d : ImportCalls) {c : ImportCall} {name : Text} {entry : ImportEntry}
    (stored : HasStored name entry c) : HasStored name entry (importStep d c).2 := by
  rcases stored with rfl | rfl
  · exact .inr rfl
  · exact .inr rfl

theorem led_importStep (d : ImportCalls) {c : ImportCall} {name : Text}
    (led : c.hasLed name = true) : (importStep d c).2.hasLed name = true := by
  rcases hasLed_importStep d c name with same | ⟨rfl, -, -⟩
  · rw [same, led]
  · cases led

theorem continues_turn (d : ImportCalls) (i : Nat) : Continues d (d.turn importStep i) where
  known name known :=
    d.shared_turn (P := fun t => t.knownImport? name ≠ none) i known
      fun c _ _ => known_importStep known c
  stored name entry := by
    rintro ⟨c, member, stored⟩
    rcases List.getElem?_of_mem member with ⟨j, here⟩
    refine ⟨_, List.mem_of_getElem? (Concurrent.getElem?_turn importStep here i), ?_⟩
    split
    · exact stored_importStep d stored
    · exact stored
  led j name := by
    rintro ⟨c, here, led⟩
    refine ⟨_, Concurrent.getElem?_turn importStep here i, ?_⟩
    split
    · exact led_importStep d led
    · exact led

variable {s} {d next : ImportCalls}

theorem Settled.mono {name : Text} {entry : ImportEntry} (settled : s.Settled d name entry)
    (goes : Continues d next) : s.Settled next name entry :=
  settled.imp id fun ⟨unknown, stored⟩ => ⟨unknown, goes.stored name entry stored⟩

theorem Fits.mono {c : ImportCall} (fits : s.Fits d c) (goes : Continues d next) :
    s.Fits next c := by
  cases c with
  | asking | missed | reading | storing => exact fits
  | leaving name entry => exact ⟨fits.1, goes.known name fits.2⟩
  | waiting name leader => exact goes.led leader name fits
  | answered name entry isOwn =>
    cases isOwn with
    | true => exact ⟨fits.1, goes.known name fits.2⟩
    | false => exact Settled.mono fits goes

/-- What holds of callers and session at all times, for the session they began with. -/
structure Consistent (s : Session) (d : ImportCalls) : Prop where
  frame : d.shared = { s with files := d.shared.files, imports := d.shared.imports }
  initial : ∀ name entry, s.knownImport? name = some entry → d.shared.knownImport? name = some entry
  settled : ∀ name entry, d.shared.knownImport? name = some entry → s.Settled d name entry
  fits : ∀ c ∈ d.calls, s.Fits d c

theorem Consistent.unknown (holds : Consistent s d) {name : Text}
    (unknown : d.shared.knownImport? name = none) : s.knownImport? name = none := by
  cases first : s.knownImport? name with
  | none => rfl
  | some entry =>
    rw [holds.initial name entry first] at unknown
    cases unknown

theorem consistent_asking (s : Session) (names : List Text) : Consistent s (s.asking names) where
  frame := rfl
  initial _ _ known := known
  settled _ _ known := .inl known
  fits c member := by
    rcases List.mem_map.mp member with ⟨name, -, rfl⟩
    trivial

/-- The caller whose turn it is can stand where the turn leaves it. -/
theorem Consistent.fits_importStep (holds : Consistent s d) {c : ImportCall} (member : c ∈ d.calls)
    (goes : Continues d next) (shared : next.shared = (importStep d c).1) :
    s.Fits next (importStep d c).2 := by
  have fits := holds.fits c member
  revert shared
  fun_cases importStep d c with
  | case1 name entry known => exact fun _ => (holds.settled name entry known).mono goes
  | case2 name unknown => exact fun _ => holds.unknown unknown
  | case3 name leader found =>
    intro _
    rcases getElem?_of_leader? found with ⟨lead, here, leads⟩
    exact goes.led leader name ⟨lead, here, hasLed_of_isLeader leads⟩
  | case4 name free => exact fun _ => fits
  | case5 name files entry read =>
    intro _
    rcases readImport_eq d.shared name with ⟨files', came, -⟩
    rw [read] at came
    cases came
    refine ⟨fits, d.shared.files.size, ?_⟩
    rw [holds.frame]
  | case6 name entry =>
    intro shared
    refine ⟨fits, ?_⟩
    rw [shared, knownImport?_remember_self]
    exact Option.some_ne_none _
  | case7 name entry => exact fun _ => ⟨fits.1, goes.known name fits.2⟩
  | case8 name leader other entry isOwn there =>
    intro _
    rcases fits with ⟨lead, here, led⟩
    rw [there] at here
    cases here
    rcases answered_of_hasLed led with leads | ⟨entry', same⟩
    · cases leads
    · cases same
      have own := holds.fits _ (List.mem_of_getElem? there)
      exact Settled.mono (.inr ⟨own.1.1, _, List.mem_of_getElem? there, .inr rfl⟩) goes
  | case9 name leader => exact fun _ => fits.mono goes
  | case10 name entry isOwn => exact fun _ => fits.mono goes

theorem frame_importStep (d : ImportCalls) (c : ImportCall) :
    (importStep d c).1 = { d.shared with
      files := (importStep d c).1.files, imports := (importStep d c).1.imports } := by
  fun_cases importStep d c <;> rfl

/-- What was known from the first is never stored anew. -/
theorem Consistent.initial_importStep (holds : Consistent s d) {c : ImportCall}
    (member : c ∈ d.calls) {name : Text} {entry : ImportEntry}
    (first : s.knownImport? name = some entry) :
    (importStep d c).1.knownImport? name = some entry := by
  have known := holds.initial name entry first
  have fits := holds.fits c member
  fun_cases importStep d c with
  | case6 other came =>
    have apart : name ≠ other := by
      rintro rfl
      rw [fits.1] at first
      cases first
    rw [knownImport?_remember_of_ne _ apart]
    exact known
  | _ => exact known

/-- What a step makes known is what its caller has read. -/
theorem knownImport?_importStep {c : ImportCall} {name : Text} {entry : ImportEntry}
    (known : (importStep d c).1.knownImport? name = some entry) :
    d.shared.knownImport? name = some entry
      ∨ c = .storing name entry ∧ (importStep d c).2 = .leaving name entry := by
  revert known
  fun_cases importStep d c with
  | case6 other came =>
    intro known
    by_cases same : name = other
    · subst same
      rw [knownImport?_remember_self] at known
      cases known
      exact .inr ⟨rfl, rfl⟩
    · rw [knownImport?_remember_of_ne _ same] at known
      exact .inl known
  | _ => exact .inl

theorem Consistent.turn (holds : Consistent s d) (i : Nat) :
    Consistent s (d.turn importStep i) where
  frame := by
    refine d.shared_turn (P := fun t => t = { s with files := t.files, imports := t.imports }) i
      holds.frame fun c _ _ => ?_
    rw [frame_importStep, holds.frame]
  initial name entry first :=
    d.shared_turn (P := fun t => t.knownImport? name = some entry) i
      (holds.initial name entry first) fun c member _ => holds.initial_importStep member first
  settled name entry := by
    have goes := continues_turn d i
    have kept known := (holds.settled name entry known).mono goes
    refine d.shared_turn (P := fun t => t.knownImport? name = some entry → _) i kept
      fun c member moved known => ?_
    rcases knownImport?_importStep known with old | ⟨rfl, next⟩
    · exact kept old
    · rw [next] at moved
      exact .inr ⟨(holds.fits _ member).1, _, moved, .inl rfl⟩
  fits := by
    have goes := continues_turn d i
    exact d.turn_forall (P := s.Fits) i
      (fun c member shared => holds.fits_importStep member goes shared)
      fun c member => (holds.fits c member).mono goes

theorem consistent_run (s : Session) (names : List Text) (schedule : List Nat) :
    Consistent s ((s.asking names).run importStep schedule) :=
  Concurrent.run_keeps (fun _ i holds => holds.turn i) (consistent_asking s names) schedule

end Invariant

/-! ## Who leads, and how often -/

section Leading

variable {s : Session} {d : ImportCalls} {name : Text}

theorem leader?_eq_none_iff : d.leader? name = none ↔ ∀ c ∈ d.calls, c.isLeader name = false := by
  rw [ImportCalls.leader?, List.findIdx?_eq_none_iff]

/-- The number of those who lead, or have led, goes up by one where a caller that missed begins to
lead. -/
theorem countP_hasLed_of_free {i : Nat} (missed : d.calls[i]? = some (.missed name))
    (free : d.leader? name = none) :
    (d.turn importStep i).calls.countP (ImportCall.hasLed name) =
      d.calls.countP (ImportCall.hasLed name) + 1 := by
  have counted := Concurrent.countP_turn importStep (ImportCall.hasLed name) missed
  have leads : (importStep d (.missed name)).2 = .reading name := by
    rw [importStep, free]
  rw [leads] at counted
  simpa [ImportCall.hasLed] using counted

/-- Otherwise it stays the same. -/
theorem countP_hasLed_turn (d : ImportCalls) (i : Nat) (name : Text) :
    (d.turn importStep i).calls.countP (ImportCall.hasLed name) =
        d.calls.countP (ImportCall.hasLed name)
      ∨ d.calls[i]? = some (.missed name) ∧ d.leader? name = none := by
  cases here : d.calls[i]? with
  | none =>
    left
    rw [Concurrent.turn, here]
  | some c =>
    rcases hasLed_importStep d c name with same | ⟨rfl, free, leads⟩
    · have counted := Concurrent.countP_turn importStep (ImportCall.hasLed name) here
      rw [same] at counted
      exact .inl (Nat.add_right_cancel counted)
    · exact .inr ⟨rfl, free⟩

/-- A caller that missed begins to lead, although the import is known by now. -/
def LateTurn (d : ImportCalls) (i : Nat) (name : Text) : Prop :=
  d.calls[i]? = some (.missed name) ∧ d.leader? name = none ∧ d.shared.knownImport? name ≠ none

/-- Some turn of a schedule comes late for an import. -/
def HasLateTurn (s : Session) (names : List Text) (schedule : List Nat) (name : Text) : Prop :=
  ∃ earlier i later, schedule = earlier ++ i :: later
    ∧ LateTurn ((s.asking names).run importStep earlier) i name

/-- Nobody leads a second time unless late.  Who has led before has made the import known. -/
theorem led_once (names : List Text) {schedule : List Nat}
    (punctual : ¬ HasLateTurn s names schedule name) :
    ((s.asking names).run importStep schedule).calls.countP (ImportCall.hasLed name) ≤ 1 := by
  induction schedule using List.reverseRecOn with
  | nil =>
    have none : ((s.asking names).calls.countP (ImportCall.hasLed name)) = 0 := by
      rw [List.countP_eq_zero]
      intro c member
      rcases List.mem_map.mp member with ⟨other, -, rfl⟩
      exact Bool.false_ne_true
    exact none.symm ▸ Nat.zero_le 1
  | append_singleton schedule i ih =>
    have before := ih fun ⟨earlier, j, later, split, late⟩ =>
      punctual ⟨earlier, j, later ++ [i], by rw [split, List.append_assoc, List.cons_append], late⟩
    rw [Concurrent.run_snoc]
    have holds := consistent_run s names schedule
    generalize atTurn : (s.asking names).run importStep schedule = d at before holds ⊢
    rcases countP_hasLed_turn d i name with same | ⟨missed, free⟩
    · rw [same]
      exact before
    · have unled : d.calls.countP (ImportCall.hasLed name) = 0 := by
        rw [List.countP_eq_zero]
        intro c member led
        rcases answered_of_hasLed led with leads | ⟨entry, rfl⟩
        · rw [leader?_eq_none_iff.mp free c member] at leads
          cases leads
        · refine punctual ⟨schedule, i, [], rfl, ?_⟩
          rw [atTurn]
          exact ⟨missed, free, (holds.fits _ member).2⟩
      have counted := countP_hasLed_of_free missed free
      rw [unled] at counted
      exact Nat.le_of_eq counted

theorem countP_hasLed_run (d : ImportCalls) (schedule : List Nat) (name : Text) :
    d.calls.countP (ImportCall.hasLed name) ≤
      (d.run importStep schedule).calls.countP (ImportCall.hasLed name) := by
  refine Concurrent.run_keeps (P := fun e : ImportCalls => d.calls.countP (ImportCall.hasLed name) ≤
    e.calls.countP (ImportCall.hasLed name)) (fun e i holds => ?_) (Nat.le_refl _) schedule
  rcases countP_hasLed_turn e i name with same | ⟨missed, free⟩
  · rw [same]
    exact holds
  · rw [countP_hasLed_of_free missed free]
    exact Nat.le_succ_of_le holds

/-- Who leads late is not the first to lead.  The import was not known at the start, so that another
caller has led before and made it known. -/
theorem led_twice {names : List Text} {schedule : List Nat}
    (late : HasLateTurn s names schedule name) :
    2 ≤ ((s.asking names).run importStep schedule).calls.countP (ImportCall.hasLed name) := by
  rcases late with ⟨earlier, i, later, rfl, missed, free, known⟩
  have holds := consistent_run s names earlier
  rw [Concurrent.run_append]
  refine Nat.le_trans ?_ (countP_hasLed_run (Concurrent.turn importStep _ i) later name)
  generalize (s.asking names).run importStep earlier = d at missed free known holds ⊢
  rw [countP_hasLed_of_free missed free]
  have unknown : s.knownImport? name = none := holds.fits _ (List.mem_of_getElem? missed)
  rcases Option.ne_none_iff_exists'.mp known with ⟨entry, found⟩
  rcases holds.settled name entry found with first | ⟨-, c, member, stored⟩
  · rw [unknown] at first
    cases first
  · exact Nat.succ_le_succ (List.countP_pos_iff.mpr ⟨c, member, hasLed_of_stored stored⟩)

end Leading

/-! ## The files that are read -/

section Received

variable {s : Session} {d : ImportCalls} {name : Text}

/-- The files that were read, in sequence and with the names they were read under.  They are
numbered one after another, and each was read by one of the callers. -/
structure Received (s : Session) (d : ImportCalls) (received : List (Text × SourceFile)) :
    Prop where
  files : d.shared.files.files.toList = s.files.files.toList ++ received.map Prod.snd
  ids : received.map (fun r => r.2.id) = List.range' s.files.size received.length
  readers : received.Perm (d.calls.filterMap ImportCall.file?)

theorem received_asking (s : Session) (names : List Text) : Received s (s.asking names) [] where
  files := (List.append_nil _).symm
  ids := rfl
  readers := by
    have none : (s.asking names).calls.filterMap ImportCall.file? = [] := by
      refine List.filterMap_eq_nil_iff.mpr fun c member => ?_
      rcases List.mem_map.mp member with ⟨other, -, rfl⟩
      rfl
    rw [none]

theorem readImport_cases (s : Session) (name : Text) :
    ((s.readImport name).1 = s.files ∧ ∀ file, (s.readImport name).2 ≠ .present file)
      ∨ ∃ file : SourceFile, s.readImport name = (⟨s.files.files.push file⟩, .present file)
        ∧ file.id = s.files.size := by
  rw [readImport]
  cases s.source.read name with
  | error failure =>
    refine .inl ⟨rfl, fun file => ?_⟩
    dsimp only
    cases failure.isMissing <;> exact fun same => by cases same
  | ok content =>
    have held : (s.files.addRelative name name content .none).1.get?
        (s.files.addRelative name name content .none).2 = some (.named s.files.size name content) :=
      FileSet.includes_addRelative s.files name content
    dsimp only
    rw [held]
    exact .inr ⟨.named s.files.size name content, rfl, rfl⟩

/-- A step reads no file, or one that comes last. -/
theorem files_importStep (d : ImportCalls) (c : ImportCall) :
    ((importStep d c).1.files = d.shared.files ∧ (importStep d c).2.file? = c.file?)
      ∨ ∃ file : SourceFile, (importStep d c).1.files = ⟨d.shared.files.files.push file⟩
        ∧ file.id = d.shared.files.size
        ∧ c.file? = none ∧ (importStep d c).2.file? = some (c.name, file) := by
  fun_cases importStep d c with
  | case5 name files entry read =>
    rcases readImport_cases d.shared name with ⟨same, absent⟩ | ⟨file, came, next⟩
    · rw [read] at same absent
      refine .inl ⟨same, ?_⟩
      cases entry with
      | present file => exact absurd rfl (absent file)
      | missing | broken => rfl
    · rw [read] at came
      cases came
      exact .inr ⟨file, rfl, next, rfl, rfl⟩
  | case6 name entry => cases entry <;> exact .inl ⟨rfl, rfl⟩
  | case7 name entry => cases entry <;> exact .inl ⟨rfl, rfl⟩
  | case1 name entry => cases entry <;> exact .inl ⟨rfl, rfl⟩
  | case8 name leader other entry => cases entry <;> exact .inl ⟨rfl, rfl⟩
  | _ => exact .inl ⟨rfl, rfl⟩

theorem Received.turn {received : List (Text × SourceFile)} (holds : Received s d received)
    (i : Nat) :
    ∃ received', Received s (d.turn importStep i) received' := by
  rcases d.turn_cases importStep i with still | ⟨before, c, after, split, turned⟩
  · rw [still]
    exact ⟨received, holds⟩
  · have readers := holds.readers
    rw [turned]
    rw [split, List.filterMap_append, List.filterMap_cons] at readers
    rcases files_importStep d c with ⟨same, file⟩ | ⟨file, pushed, next, none, read⟩
    · refine ⟨received, by rw [← holds.files, same], holds.ids, ?_⟩
      rw [List.filterMap_append, List.filterMap_cons, file]
      exact readers
    · rw [none] at readers
      have count : d.shared.files.size = s.files.size + received.length := by
        have lengths := congrArg List.length holds.files
        rw [List.length_append, List.length_map] at lengths
        exact lengths
      refine ⟨received ++ [(c.name, file)], ?_, ?_, ?_⟩
      · dsimp only
        rw [pushed, Array.toList_push, holds.files, List.map_append, List.append_assoc]
        rfl
      · rw [List.map_append, holds.ids, List.length_append, List.length_singleton,
          List.range'_concat, List.map_singleton, next, count, Nat.one_mul]
      · rw [List.filterMap_append, List.filterMap_cons, read]
        exact (List.perm_append_singleton _ _).trans ((readers.cons _).trans List.perm_middle.symm)

theorem received_run (s : Session) (names : List Text) (schedule : List Nat) :
    ∃ received, Received s ((s.asking names).run importStep schedule) received :=
  Concurrent.run_keeps (P := fun d => ∃ received, Received s d received)
    (fun _ i ⟨_, holds⟩ => holds.turn i) ⟨[], received_asking s names⟩ schedule

/-- A caller that has read a file has led. -/
theorem hasLed_of_file? {c : ImportCall} (read : c.file?.map Prod.fst = some name) :
    c.hasLed name = true := by
  revert read
  fun_cases ImportCall.file? c with
  | case1 | case2 | case3 =>
    intro read
    cases read
    exact beq_self_eq_true _
  | case4 =>
    intro read
    cases read

theorem Received.count_eq {received : List (Text × SourceFile)} (holds : Received s d received)
    (name : Text) :
    (received.map Prod.fst).count name =
      d.calls.countP fun c => c.file?.map Prod.fst == some name := by
  rw [(holds.readers.map Prod.fst).count_eq, List.map_filterMap, List.count_filterMap]

theorem Received.count_le {received : List (Text × SourceFile)} (holds : Received s d received)
    (name : Text) :
    (received.map Prod.fst).count name ≤ d.calls.countP (ImportCall.hasLed name) := by
  rw [holds.count_eq]
  exact List.countP_mono_left fun c _ read => hasLed_of_file? (eq_of_beq read)

/-- Files with different places in the sequence are different. -/
theorem Received.two {received : List (Text × SourceFile)} (holds : Received s d received)
    (twice : 2 ≤ (received.map Prod.fst).count name) :
    ∃ file file' : SourceFile, file.id ≠ file'.id ∧ (name, file) ∈ received
      ∧ (name, file') ∈ received := by
  have own : (received.map Prod.fst).count name =
      (received.filter fun r => r.1 == name).length := by
    rw [List.count, List.countP_map, List.countP_eq_length_filter]
    rfl
  have apart : (received.map fun r => r.2.id).Nodup := by
    rw [holds.ids]
    exact List.nodup_range'
  have apart : ((received.filter fun r => r.1 == name).map fun r => r.2.id).Nodup :=
    (List.filter_sublist.map _).nodup apart
  rw [own] at twice
  generalize among : received.filter (fun r => r.1 == name) = own at twice apart
  have members : ∀ r ∈ own, r ∈ received ∧ r.1 = name := by
    intro r member
    rw [← among] at member
    exact (List.mem_filter.mp member).imp_right eq_of_beq
  match own, twice, apart, members with
  | ⟨first, file⟩ :: ⟨second, file'⟩ :: _, _, apart, members =>
    rcases members ⟨first, file⟩ List.mem_cons_self with ⟨here, rfl⟩
    rcases members ⟨second, file'⟩ (List.mem_cons_of_mem _ List.mem_cons_self) with ⟨there, rfl⟩
    refine ⟨file, file', fun same => (List.nodup_cons.mp apart).1 ?_, here, there⟩
    exact List.mem_cons.mpr (.inl same)

end Received

/-! ## The answers -/

section Answers

variable {s : Session} {d : ImportCalls} {name : Text}

theorem Consistent.settled_of_answered (holds : Consistent s d) {entry : ImportEntry} {isOwn : Bool}
    (member : .answered name entry isOwn ∈ d.calls) : s.Settled d name entry := by
  have fits := holds.fits _ member
  cases isOwn with
  | false => exact fits
  | true => exact .inr ⟨fits.1.1, _, member, .inr rfl⟩

theorem Consistent.outcome_of_stored (holds : Consistent s d) {entry : ImportEntry} {c : ImportCall}
    (member : c ∈ d.calls) (stored : HasStored name entry c) : s.Outcome name entry := by
  have fits := holds.fits _ member
  rcases stored with rfl | rfl
  · exact fits.1
  · exact fits.1

theorem eq_of_countP_le_one {α : Type} {p : α → Bool} {l : List α} (once : l.countP p ≤ 1) {a b : α}
    (first : a ∈ l.filter p) (second : b ∈ l.filter p) : a = b := by
  rw [List.countP_eq_length_filter] at once
  match l.filter p, once, first, second with
  | [_], _, first, second => rw [List.mem_singleton.mp first, List.mem_singleton.mp second]

theorem Consistent.outcome_of_file? (holds : Consistent s d) {c : ImportCall} (member : c ∈ d.calls)
    {file : SourceFile} (read : c.file? = some (name, file)) : s.Outcome name (.present file) := by
  have fits := holds.fits c member
  revert read
  fun_cases ImportCall.file? c with
  | case1 =>
    rintro ⟨⟩
    exact fits
  | case2 | case3 =>
    rintro ⟨⟩
    exact fits.1
  | case4 =>
    intro read
    cases read

/-- Where one caller has led at most, there is one answer at most. -/
theorem answers_agree (once : d.calls.countP (ImportCall.hasLed name) ≤ 1)
    {entry entry' : ImportEntry} (settled : s.Settled d name entry)
    (settled' : s.Settled d name entry') : entry = entry' := by
  rcases settled with first | ⟨unknown, c, member, stored⟩
  · rcases settled' with first' | ⟨unknown, -⟩
    · rw [first] at first'
      exact Option.some.inj first'
    · rw [first] at unknown
      cases unknown
  · rcases settled' with first | ⟨-, c', member', stored'⟩
    · rw [first] at unknown
      cases unknown
    · have same : c = c' := eq_of_countP_le_one once
        (List.mem_filter.mpr ⟨member, hasLed_of_stored stored⟩)
        (List.mem_filter.mpr ⟨member', hasLed_of_stored stored'⟩)
      subst same
      rcases stored with rfl | rfl
      · rcases stored' with same | same <;> cases same
        rfl
      · rcases stored' with same | same <;> cases same
        rfl

/-- Where all callers for an import have their answers, and it can be read, each of those who have
led has read it. -/
theorem Consistent.read_of_hasLed (holds : Consistent s d) {content : Text}
    (readable : s.source.read name = .ok content)
    (done : ∀ c ∈ d.calls, c.name = name → c.isAnswered = true) {c : ImportCall}
    (member : c ∈ d.calls) (led : c.hasLed name = true) : c.file?.map Prod.fst = some name := by
  rcases answered_of_hasLed led with leads | ⟨entry, rfl⟩
  · rcases name_of_isLeader leads with ⟨named, unanswered, -⟩
    rw [done c member named] at unanswered
    cases unanswered
  · rcases holds.fits _ member with ⟨⟨-, id, rfl⟩, -⟩
    rw [readable]
    rfl

/-- So many files were read as callers have led. -/
theorem Received.count_of_done {received : List (Text × SourceFile)} (holds : Received s d received)
    (consistent : Consistent s d) {content : Text} (readable : s.source.read name = .ok content)
    (done : ∀ c ∈ d.calls, c.name = name → c.isAnswered = true) :
    (received.map Prod.fst).count name = d.calls.countP (ImportCall.hasLed name) := by
  refine Nat.le_antisymm (holds.count_le name) ?_
  rw [holds.count_eq]
  exact List.countP_mono_left fun c member led =>
    beq_iff_eq.mpr (consistent.read_of_hasLed readable done member led)

/-- A file that was read is the answer of who has read it. -/
theorem Received.answered {received : List (Text × SourceFile)} (holds : Received s d received)
    (done : ∀ c ∈ d.calls, c.name = name → c.isAnswered = true) {file : SourceFile}
    (read : (name, file) ∈ received) : .answered name (.present file) true ∈ d.calls := by
  rcases List.mem_filterMap.mp (holds.readers.mem_iff.mp read) with ⟨c, member, file⟩
  rcases answered_of_hasLed (hasLed_of_file? (congrArg (Option.map Prod.fst) file)) with
    leads | ⟨entry, rfl⟩
  · rcases name_of_isLeader leads with ⟨named, unanswered, -⟩
    rw [done c member named] at unanswered
    cases unanswered
  · cases entry with
    | present other =>
      cases file
      exact member
    | missing | broken => cases file

/-! ## Progress -/

/-- Where every caller has its answer or waits, those for whom others wait have theirs. -/
theorem Consistent.isAnswered_importStep (holds : Consistent s d)
    (quiet : ∀ c ∈ d.calls, c.turnsLeft = 0) {c : ImportCall} (member : c ∈ d.calls) :
    (importStep d c).2.isAnswered = true := by
  have fits := holds.fits c member
  have still := quiet c member
  cases c with
  | asking | missed | reading | storing | leaving => cases still
  | answered => rfl
  | waiting name leader =>
    rcases fits with ⟨lead, here, led⟩
    have ended := quiet lead (List.mem_of_getElem? here)
    rcases answered_of_hasLed led with leads | ⟨entry, rfl⟩
    · exact absurd ended (name_of_isLeader leads).2.2
    · rw [importStep, here]
      rfl

theorem quiet_turn (quiet : ∀ c ∈ d.calls, c.turnsLeft = 0) (i : Nat) :
    ∀ c ∈ (d.turn importStep i).calls, c.turnsLeft = 0 := by
  refine d.turn_forall (P := fun _ c => c.turnsLeft = 0) i (fun c member _ => ?_) quiet
  have fewer := turnsLeft_importStep d c
  rw [quiet c member] at fewer
  exact Nat.le_zero.mp fewer

/-- An answer is final. -/
theorem getElem?_run_of_answered {i : Nat} {c : ImportCall} (here : d.calls[i]? = some c)
    (answered : c.isAnswered = true) (schedule : List Nat) :
    (d.run importStep schedule).calls[i]? = some c := by
  refine Concurrent.run_keeps (P := fun e : ImportCalls => e.calls[i]? = some c)
    (fun e j there => Concurrent.getElem?_turn_of_resting ?_ there j) here schedule
  cases c with
  | answered => rfl
  | asking | missed | reading | storing | leaving | waiting => cases answered

theorem Consistent.isAnswered_run (holds : Consistent s d) (quiet : ∀ c ∈ d.calls, c.turnsLeft = 0)
    {i : Nat} {c : ImportCall} (here : d.calls[i]? = some c) {schedule : List Nat}
    (turn : i ∈ schedule) :
    ∃ c', (d.run importStep schedule).calls[i]? = some c' ∧ c'.isAnswered = true := by
  induction schedule generalizing d c with
  | nil => cases turn
  | cons j schedule ih =>
    have there := Concurrent.getElem?_turn importStep here j
    by_cases own : j = i
    · have answered := holds.isAnswered_importStep quiet (List.mem_of_getElem? here)
      rw [if_pos own] at there
      exact ⟨_, getElem?_run_of_answered there answered schedule, answered⟩
    · exact ih (holds.turn j) (quiet_turn quiet j) there
        ((List.mem_cons.mp turn).resolve_left fun same => own same.symm)

theorem length_calls_run (s : Session) (names : List Text) (schedule : List Nat) :
    ((s.asking names).run importStep schedule).calls.length = names.length := by
  have same : (((s.asking names).run importStep schedule).calls.map fun _ => ()) =
      (s.asking names).calls.map fun _ => () :=
    Concurrent.map_calls_run (fun _ _ => rfl) (s.asking names) schedule
  simpa [asking] using congrArg List.length same

/-- After five turns of every caller, one more turn gives each its answer. -/
theorem all_answered (s : Session) (names : List Text) (schedule later : List Nat)
    (turns : ∀ i < names.length, 5 ≤ schedule.count i) (each : ∀ i < names.length, i ∈ later) :
    ∀ c ∈ ((s.asking names).run importStep (schedule ++ later)).calls, c.isAnswered = true := by
  have quiet : ∀ c ∈ ((s.asking names).run importStep schedule).calls, c.turnsLeft = 0 := by
    intro c member
    rcases List.getElem?_of_mem member with ⟨i, here⟩
    have inside : i < names.length := by
      rw [← length_calls_run s names schedule]
      exact (List.getElem?_eq_some_iff.mp here).1
    have first : (s.asking names).calls[i]? = some (.asking names[i]) := by
      simp [asking, inside]
    rcases Concurrent.left_run turnsLeft_importStep schedule first with ⟨c', there, bound⟩
    rw [here] at there
    cases there
    have enough := turns i inside
    change c.turnsLeft ≤ 5 - schedule.count i at bound
    omega
  intro c member
  rcases List.getElem?_of_mem member with ⟨i, here⟩
  have inside : i < names.length := by
    rw [← length_calls_run s names (schedule ++ later)]
    exact (List.getElem?_eq_some_iff.mp here).1
  rw [Concurrent.run_append] at here
  have before : i < ((s.asking names).run importStep schedule).calls.length := by
    rw [length_calls_run]
    exact inside
  obtain ⟨c', there, answered⟩ := (consistent_run s names schedule).isAnswered_run quiet
    (List.getElem?_eq_getElem before) (each i inside)
  rw [here] at there
  cases there
  exact answered

end Answers

/-- Callers of import documents, interleaved in any way, and the files that they add to the session.
After six turns all have their answers.  An answer is what was known of the import from the first,
or what comes of reading it.  Unless a turn comes late for an import, it is read once at most, and
all answers are the same; where a turn comes late for an import that can be read, it is read twice,
and two callers get different files. -/
theorem imports_read_once (s : Session) (names : List Text) (schedule : List Nat) :
    let d := (s.asking names).run importStep schedule
    d.calls.map ImportCall.name = names
      ∧ (∀ later, (∀ i < names.length, 5 ≤ schedule.count i) → (∀ i < names.length, i ∈ later) →
          ∀ c ∈ (d.run importStep later).calls, c.isAnswered = true)
      ∧ ∃ received : List (Text × SourceFile),
          d.shared.files.files.toList = s.files.files.toList ++ received.map Prod.snd
          ∧ (∀ name file, (name, file) ∈ received → s.Outcome name (.present file))
          ∧ ∀ name,
              (∀ entry isOwn, .answered name entry isOwn ∈ d.calls →
                s.knownImport? name = some entry ∨ s.Outcome name entry)
              ∧ (¬ s.HasLateTurn names schedule name →
                  (received.map Prod.fst).count name ≤ 1
                  ∧ ∀ entry isOwn entry' isOwn', .answered name entry isOwn ∈ d.calls →
                      .answered name entry' isOwn' ∈ d.calls → entry = entry')
              ∧ (s.HasLateTurn names schedule name →
                  (∀ c ∈ d.calls, c.name = name → c.isAnswered = true) →
                  ∀ content, s.source.read name = .ok content →
                    2 ≤ (received.map Prod.fst).count name
                    ∧ ∃ file file', file ≠ file'
                      ∧ .answered name (.present file) true ∈ d.calls
                      ∧ .answered name (.present file') true ∈ d.calls) := by
  intro d
  have holds : Consistent s d := consistent_run s names schedule
  obtain ⟨received, arrived⟩ : ∃ received, Received s d received := received_run s names schedule
  refine ⟨?_, fun later turns each => ?_, received, arrived.files, ?_, fun name => ⟨?_, ?_, ?_⟩⟩
  · rw [Concurrent.map_calls_run name_importStep, asking, List.map_map]
    exact List.map_id names
  · rw [← Concurrent.run_append]
    exact all_answered s _ _ _ turns each
  · intro name file member
    rcases List.mem_filterMap.mp (arrived.readers.mem_iff.mp member) with ⟨c, here, read⟩
    exact holds.outcome_of_file? here read
  · intro entry isOwn member
    rcases holds.settled_of_answered member with first | ⟨-, c, here, stored⟩
    · exact .inl first
    · exact .inr (holds.outcome_of_stored here stored)
  · intro punctual
    have once := led_once names punctual
    refine ⟨Nat.le_trans (arrived.count_le name) once, ?_⟩
    intro entry isOwn entry' isOwn' member member'
    exact answers_agree once (holds.settled_of_answered member)
      (holds.settled_of_answered member')
  · intro late done content readable
    have twice : 2 ≤ (received.map Prod.fst).count name := by
      rw [arrived.count_of_done holds readable done]
      exact led_twice late
    rcases arrived.two twice with ⟨file, file', apart, read, read'⟩
    exact ⟨twice, file, file', fun same => apart (congrArg SourceFile.id same),
      arrived.answered done read, arrived.answered done read'⟩

/-- Two callers miss; the second joins after the first has left. -/
theorem hasLateTurn_two {s : Session} {name : Text} (unknown : s.knownImport? name = none)
    (later : List Nat) : s.HasLateTurn [name, name] ([0, 1, 0, 0, 0, 0] ++ 1 :: later) name := by
  have reached : (s.asking [name, name]).run importStep [0, 1, 0, 0, 0, 0] =
      ⟨{ s with files := (s.readImport name).1 }.remember name (s.readImport name).2,
        [.answered name (s.readImport name).2 true, .missed name]⟩ := by
    simp [asking, Concurrent.run, Concurrent.turn, importStep, unknown, ImportCalls.leader?,
      ImportCall.isLeader, List.findIdx?_cons]
  refine ⟨[0, 1, 0, 0, 0, 0], 1, later, rfl, ?_⟩
  rw [reached]
  refine ⟨rfl, rfl, ?_⟩
  rw [knownImport?_remember_self]
  exact Option.some_ne_none _

/-- A project with an import document. -/
def sharedImport : FileSource := FileTree.source ⟨[("_ViewImports.quill", "@using A")]⟩

/-- Two callers of one import, with a late turn: it is read twice, and they get different files. -/
theorem imports_read_once_late :
    ∃ s, start {} sharedImport none .none = .ok s
      ∧ ∃ file file', file ≠ file'
        ∧ let d := (s.asking ["_ViewImports.quill", "_ViewImports.quill"]).run importStep
            [0, 1, 0, 0, 0, 0, 1, 1, 1, 1, 0, 1]
          .answered "_ViewImports.quill" (.present file) true ∈ d.calls
          ∧ .answered "_ViewImports.quill" (.present file') true ∈ d.calls := by
  have starts : (start {} sharedImport none .none).isOk = true := by decide +kernel
  cases opened : start {} sharedImport none .none with
  | error e =>
    rw [opened] at starts
    cases starts
  | ok s =>
    obtain ⟨source, unknown⟩ : s.source = sharedImport
        ∧ s.knownImport? "_ViewImports.quill" = none := by
      rw [start] at opened
      rcases ok_of_bind opened with ⟨helpers, -, opened⟩
      rcases ok_of_bind opened with ⟨c, -, opened⟩
      rcases ok_of_bind opened with ⟨engine, -, opened⟩
      cases opened
      exact ⟨rfl, rfl⟩
    have readable : s.source.read "_ViewImports.quill" = .ok "@using A" := by
      rw [source]
      rfl
    have done := all_answered s ["_ViewImports.quill", "_ViewImports.quill"]
      [0, 1, 0, 0, 0, 0, 1, 1, 1, 1] [0, 1] (by decide) (by decide)
    have late := hasLateTurn_two unknown [1, 1, 1, 0, 1]
    obtain ⟨-, -, received, -, -, each⟩ := imports_read_once s
      ["_ViewImports.quill", "_ViewImports.quill"] [0, 1, 0, 0, 0, 0, 1, 1, 1, 1, 0, 1]
    rcases each "_ViewImports.quill" with ⟨-, -, twice⟩
    obtain ⟨-, file, file', apart, answers⟩ :=
      twice late (fun c member _ => done c member) _ readable
    exact ⟨s, rfl, file, file', apart, answers⟩

end Session
end TemplateCompiler
