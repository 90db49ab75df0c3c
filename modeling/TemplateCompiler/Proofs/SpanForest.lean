import Mathlib.Data.List.Nodup
import Mathlib.Data.List.Range
import TemplateCompiler.Proofs.RecordedEvents

/-!
# Spans as trees

Spans that are begun and ended one inside the other form trees, and a tracer that follows the trees
emits their events (`Trace.Tracer.record_eq`).  Which spans a level includes decides how they are
numbered.  The events are bracketed at every level, and those of a lower level are found among the
others by leaving out what it does not include and giving the rest new numbers
(`Trace.Spans.events_filter`).
-/

namespace TemplateCompiler

namespace Trace

/-- What is recorded of a span apart from its events: a tree of these is what a run does, before it
is known which tracer watches it. -/
structure SpanNote where
  scope : Scope
  name : Text
  /-- The number that is given for the span around this one, where it is not taken from there. -/
  outer? : Option Nat := none
  detail : Text := []
  extra : List (Text × Text) := []

/-- Spans one after another, each with the spans inside of it. -/
inductive Spans where
  | none
  | span (note : SpanNote) (inside behind : Spans)

def SpanNote.first (note : SpanNote) (id around : Nat) : Event :=
  { kind := .begins, scope := note.scope, span := id, parent := note.outer?.getD around
    name := note.name }

def SpanNote.last (note : SpanNote) (id around : Nat) : Event :=
  { kind := .ends, scope := note.scope, span := id, parent := note.outer?.getD around
    name := note.name, detail := note.detail, extra := note.extra }

namespace Spans

/-- The number of spans that a level includes, each of which is numbered when it begins. -/
def count (level : Level) : Spans → Nat
  | none => 0
  | span note inside behind =>
    (if level.includes note.scope then 1 else 0) + inside.count level + behind.count level

/-- The events of spans at a level, inside of a span with the number `around` (zero if there is
none), where the numbers up to `given` are taken. -/
def events (level : Level) (given around : Nat) : Spans → List Event
  | none => []
  | span note inside behind =>
    if level.includes note.scope then
      note.first (given + 1) around :: inside.events level (given + 1) (given + 1)
        ++ note.last (given + 1) around
        :: behind.events level (given + 1 + inside.count level) around
    else inside.events level given 0 ++ behind.events level (given + inside.count level) around

def append : Spans → Spans → Spans
  | none, others => others
  | span note inside behind, others => span note inside (behind.append others)

end Spans

/-! ## Tracers that follow spans -/

namespace Tracer

/-- Record spans inside of a span with the given number. -/
def record (t : Tracer) (around : Nat) : Spans → Tracer
  | .none => t
  | .span note inside behind =>
    let (t, opened) := t.begin note.scope note.name (note.outer?.getD around)
    (((t.record opened.id inside).finish { opened with extra := note.extra } note.detail).record
      around behind)

/-- Emit events, and give out the numbers up to a given one. -/
def advance (t : Tracer) (given : Nat) (es : List Event) : Tracer :=
  { es.foldl emit t with spans := given }

theorem emitToStream_withSpans (t : Tracer) (n : Nat) (e : Event) :
    { t with spans := n }.emitToStream e = { t.emitToStream e with spans := n } := by
  rcases t with ⟨level, stream?, ring?, sequence, spans⟩
  rw [emitToStream, emitToStream]
  cases stream? with
  | none => rfl
  | some s =>
    dsimp only
    split <;> rfl

theorem emitToRing_withSpans (t : Tracer) (n : Nat) (e : Event) :
    { t with spans := n }.emitToRing e = { t.emitToRing e with spans := n } := by
  rcases t with ⟨level, stream?, ring?, sequence, spans⟩
  rw [emitToRing, emitToRing]
  cases ring? with
  | none => rfl
  | some r =>
    dsimp only
    split <;> rfl

theorem emit_withSpans (t : Tracer) (n : Nat) (e : Event) :
    { t with spans := n }.emit e = { t.emit e with spans := n } := by
  rw [emit, emitToStream_withSpans, emitToRing_withSpans, emit]

theorem level_emitToStream (t : Tracer) (e : Event) : (t.emitToStream e).level = t.level := by
  rw [emitToStream]
  split
  · split <;> rfl
  · rfl

theorem level_emitToRing (t : Tracer) (e : Event) : (t.emitToRing e).level = t.level := by
  rw [emitToRing]
  split
  · split <;> rfl
  · rfl

theorem level_emit (t : Tracer) (e : Event) : (t.emit e).level = t.level :=
  (level_emitToRing _ e).trans (level_emitToStream t e)

theorem foldl_emit_withSpans (t : Tracer) (n : Nat) (es : List Event) :
    es.foldl emit { t with spans := n } = { es.foldl emit t with spans := n } := by
  induction es generalizing t with
  | nil => rfl
  | cons e es ih => rw [List.foldl_cons, List.foldl_cons, emit_withSpans, ih]

theorem advance_advance (t : Tracer) (n m : Nat) (es fs : List Event) :
    (t.advance n es).advance m fs = t.advance m (es ++ fs) := by
  rw [advance, advance, advance, foldl_emit_withSpans, List.foldl_append]

theorem level_advance (t : Tracer) (n : Nat) (es : List Event) :
    (t.advance n es).level = t.level := by
  change (es.foldl emit t).level = t.level
  induction es generalizing t with
  | nil => rfl
  | cons e es ih => rw [List.foldl_cons, ih, level_emit]

theorem advance_singleton (t : Tracer) (n : Nat) (e : Event) :
    t.advance n [e] = { t with spans := n }.emit e := (emit_withSpans t n e).symm

/-- A span that the level includes gets the next number. -/
theorem begin_of_included {t : Tracer} {note : SpanNote} (included : t.level.includes note.scope)
    (around : Nat) :
    t.begin note.scope note.name (note.outer?.getD around) =
      (t.advance (t.spans + 1) [note.first (t.spans + 1) around],
        { id := t.spans + 1, parent := note.outer?.getD around, scope := note.scope
          name := note.name }) := by
  rw [begin, if_pos included, advance_singleton]
  rfl

/-- A span that the level leaves out is not recorded. -/
theorem begin_of_excluded {t : Tracer} {scope : Scope} (excluded : t.level.includes scope = false)
    (name : Text) (parent : Nat) : t.begin scope name parent = (t, {}) := by
  rw [begin, excluded]
  rfl

/-- A tracer that follows spans emits their events.  What lies in a span that is left out has the
number zero around it. -/
theorem record_eq (spans : Spans) : ∀ (t : Tracer) (around : Nat),
    t.record around spans =
      t.advance (t.spans + spans.count t.level) (spans.events t.level t.spans around) := by
  induction spans with
  | none => exact fun t _ => rfl
  | span note inside behind inner rest =>
    intro t around
    rw [record, Spans.count, Spans.events]
    cases included : t.level.includes note.scope with
    | false =>
      rw [begin_of_excluded included, if_neg Bool.false_ne_true, if_neg Bool.false_ne_true]
      change (t.record 0 inside).record around behind = _
      rw [inner, rest, level_advance, advance_advance, Nat.zero_add, ← Nat.add_assoc]
      rfl
    | true =>
      rw [begin_of_included included, if_pos rfl, if_pos rfl]
      dsimp only
      rw [inner, level_advance]
      have ends : ∀ t' : Tracer, t'.finish { id := t.spans + 1, parent := note.outer?.getD around
                                             scope := note.scope, name := note.name
                                             extra := note.extra } note.detail =
          t'.advance t'.spans [note.last (t.spans + 1) around] := fun t' =>
        (advance_singleton t' _ _).symm
      rw [ends, rest, level_advance, level_advance, level_advance, advance_advance, advance_advance,
        advance_advance]
      have taken : t.spans + 1 + inside.count t.level + behind.count t.level =
          t.spans + (1 + inside.count t.level + behind.count t.level) := by omega
      change t.advance (t.spans + 1 + inside.count t.level + behind.count t.level)
        ([note.first (t.spans + 1) around] ++ (inside.events t.level (t.spans + 1) (t.spans + 1) ++
          ([note.last (t.spans + 1) around] ++ behind.events t.level
            (t.spans + 1 + inside.count t.level) around))) = _
      rw [taken]
      rfl

theorem record_append (spans others : Spans) : ∀ (t : Tracer) (around : Nat),
    t.record around (spans.append others) = (t.record around spans).record around others := by
  induction spans with
  | none => exact fun t around => rfl
  | span note inside behind _ rest => exact fun t around => rest _ around

end Tracer

/-! ## Bracketed events -/

def begun (es : List Event) : List Nat := (es.filter fun e => e.kind == .begins).map Event.span

def ended (es : List Event) : List Nat := (es.filter fun e => e.kind == .ends).map Event.span

/-- Every span ends after it begins, and after what begins in it has ended. -/
inductive Bracketed : List Event → Prop where
  | nil : Bracketed []
  | pair {first last : Event} {inside behind : List Event} (begins : first.kind = .begins)
      (ends : last.kind = .ends) (same : last.span = first.span) (inner : Bracketed inside)
      (rest : Bracketed behind) : Bracketed (first :: inside ++ last :: behind)

/-- One span with a scope and a parent.  What lies in it satisfies a condition on its number. -/
inductive Frame (scope : Scope) (outer : Nat) (inner : Nat → List Event → Prop) :
    List Event → Prop where
  | mk {first last : Event} {inside : List Event} (begins : first.kind = .begins)
      (ends : last.kind = .ends) (same : last.span = first.span)
      (scopes : first.scope = scope ∧ last.scope = scope)
      (parents : first.parent = outer ∧ last.parent = outer) (within : inner first.span inside) :
      Frame scope outer inner (first :: inside ++ [last])

/-- Spans with a scope and a parent, one behind another. -/
inductive Frames (scope : Scope) (outer : Nat) (inner : Nat → List Event → Prop) :
    List Event → Prop where
  | nil : Frames scope outer inner []
  | cons {es behind : List Event} (first : Frame scope outer inner es)
      (rest : Frames scope outer inner behind) : Frames scope outer inner (es ++ behind)

section Frames

variable {scope : Scope} {outer : Nat} {inner : Nat → List Event → Prop} {es behind : List Event}

theorem Frame.bracketed_append (nested : ∀ id es, inner id es → Bracketed es)
    (frame : Frame scope outer inner es) (rest : Bracketed behind) : Bracketed (es ++ behind) := by
  rcases frame with ⟨begins, ends, same, _, _, within⟩
  rw [List.append_assoc]
  exact .pair begins ends same (nested _ _ within) rest

theorem Frames.bracketed (nested : ∀ id es, inner id es → Bracketed es)
    (frames : Frames scope outer inner es) : Bracketed es := by
  induction frames with
  | nil => exact .nil
  | cons first _ ih => exact first.bracketed_append nested ih

end Frames

/-- Passes lie in the span of their phase, and they name no parent. -/
def Passes : List Event → Prop := Frames .pass 0 fun _ es => es = []

/-- Phases lie in the span of their document, and they name it as their parent. -/
def Phases (document : Nat) : List Event → Prop := Frames .phase document fun _ => Passes

theorem Passes.bracketed {es : List Event} (passes : Passes es) : Bracketed es :=
  Frames.bracketed (fun _ es (empty : es = []) => empty ▸ .nil) passes

theorem Phases.bracketed {document : Nat} {es : List Event} (phases : Phases document es) :
    Bracketed es :=
  Frames.bracketed (fun _ _ passes => passes.bracketed) phases

/-- The spans that end are those that begin. -/
theorem Bracketed.perm {es : List Event} (bracketed : Bracketed es) :
    (ended es).Perm (begun es) := by
  induction bracketed with
  | nil => exact .nil
  | @pair first last inside behind begins ends same _ _ inner rest =>
    have ended_eq : ended (first :: inside ++ last :: behind) =
        ended inside ++ first.span :: ended behind := by
      simp [ended, begins, ends, same]
    have begun_eq : begun (first :: inside ++ last :: behind) =
        first.span :: (begun inside ++ begun behind) := by
      simp [begun, begins, ends]
    rw [ended_eq, begun_eq]
    exact List.perm_middle.trans (.cons _ (inner.append rest))

/-- If no two spans have the same number, each has one end. -/
theorem Bracketed.count_ended {es : List Event} (bracketed : Bracketed es)
    (distinct : (begun es).Nodup) {id : Nat} (member : id ∈ begun es) :
    (ended es).count id = 1 := by
  rw [bracketed.perm.count_eq, List.count_eq_one_of_mem distinct member]

namespace Spans

/-- Spans are numbered in the order in which they begin. -/
theorem begun_events (level : Level) (spans : Spans) : ∀ given around : Nat,
    begun (spans.events level given around) = List.range' (given + 1) (spans.count level) := by
  induction spans with
  | none => exact fun _ _ => rfl
  | span note inside behind inner rest =>
    intro given around
    have concat : ∀ es fs : List Event, begun (es ++ fs) = begun es ++ begun fs := fun es fs => by
      rw [begun, List.filter_append, List.map_append]
      rfl
    rw [events, count]
    split
    · next included =>
      have first : ∀ es, begun (note.first (given + 1) around :: es) = (given + 1) :: begun es :=
        fun _ => rfl
      have last : ∀ es, begun (note.last (given + 1) around :: es) = begun es := fun _ => rfl
      rw [List.cons_append, first, concat, last, inner, rest, Nat.add_right_comm (given + 1),
        List.range'_append_1, Nat.add_assoc 1, Nat.add_comm 1, List.range'_succ]
    · next excluded =>
      rw [concat, inner, rest, Nat.zero_add, Nat.add_right_comm, List.range'_append_1]

theorem nodup_begun_events (level : Level) (spans : Spans) (given around : Nat) :
    (begun (spans.events level given around)).Nodup := by
  rw [begun_events]
  exact List.nodup_range'

/-- A span has two events. -/
theorem length_events (level : Level) (spans : Spans) : ∀ given around : Nat,
    (spans.events level given around).length = 2 * spans.count level := by
  induction spans with
  | none => exact fun _ _ => rfl
  | span note inside behind inner rest =>
    intro given around
    rw [events, count]
    split
    · rw [List.length_append, List.length_cons, List.length_cons, inner, rest]
      omega
    · rw [List.length_append, inner, rest]
      omega

/-- A level leaves no events of spans that it does not include. -/
theorem includes_of_mem_events (level : Level) (spans : Spans) : ∀ {given around : Nat},
    ∀ e ∈ spans.events level given around, level.includes e.scope = true := by
  induction spans with
  | none => exact fun e none => absurd none List.not_mem_nil
  | span note inside behind inner rest =>
    intro given around e member
    rw [events] at member
    split at member
    · next included =>
      rcases List.mem_append.mp member with among | among
      · rcases List.mem_cons.mp among with rfl | among
        · exact included
        · exact inner e among
      · rcases List.mem_cons.mp among with rfl | among
        · exact included
        · exact rest e among
    · rcases List.mem_append.mp member with among | among
      · exact inner e among
      · exact rest e among

end Spans

/-! ## Lower levels -/

/-- The events whose scopes a level includes. -/
def Level.restrict (level : Level) (es : List Event) : List Event :=
  es.filter fun e => level.includes e.scope

section Restrict

variable {level : Level} {e : Event}

theorem Level.restrict_append (es fs : List Event) :
    level.restrict (es ++ fs) = level.restrict es ++ level.restrict fs := List.filter_append ..

theorem Level.restrict_cons_of_included (included : level.includes e.scope) (es : List Event) :
    level.restrict (e :: es) = e :: level.restrict es := List.filter_cons_of_pos included

theorem Level.restrict_cons_of_excluded (excluded : ¬ level.includes e.scope) (es : List Event) :
    level.restrict (e :: es) = level.restrict es := List.filter_cons_of_neg excluded

end Restrict

/-- An event with other numbers for its span and for the span around it.  The span around a document
was not recorded with it, so its number stays. -/
def Event.renumber (number : Nat → Nat) (e : Event) : Event :=
  { e with span := number e.span
           parent := if e.scope = .document then e.parent else number e.parent }

/-- Some events are others with new numbers for their spans.  Different spans get different numbers,
and none gets the number zero, which stands for no span. -/
def Renamed (es fs : List Event) : Prop :=
  ∃ number : Nat → Nat, number 0 = 0 ∧ ((0 :: begun es).map number).Nodup ∧
    fs = es.map (Event.renumber number)

/-- Only the parent of a document is given with its number: any other span has the one around it as
its parent, or none. -/
def SpanNote.Placed (note : SpanNote) : Prop :=
  if note.scope = .document then note.outer?.isSome = true else note.outer?.getD 0 = 0

/-- The parent of a span gets its new number, but that of a document stays. -/
theorem SpanNote.Placed.parent_renumber {note : SpanNote} {number : Nat → Nat}
    {around around' : Nat} (placed : note.Placed) (zero : number 0 = 0)
    (outside : number around = around') :
    (if note.scope = .document then note.outer?.getD around else number (note.outer?.getD around)) =
      note.outer?.getD around' := by
  rcases note with ⟨scope, name, outer?, detail, extra⟩
  unfold Placed at placed
  split at placed
  · next document =>
    rw [if_pos document]
    cases outer? with
    | none => cases placed
    | some _ => rfl
  · next other =>
    rw [if_neg other]
    cases outer? with
    | none => exact outside
    | some _ => cases placed; exact zero

namespace Spans

/-- The numbers of spans at a level, in the order in which they begin; zero for those that the level
leaves out. -/
def numbers (level : Level) (given : Nat) : Spans → List Nat
  | none => []
  | span note inside behind =>
    if level.includes note.scope then
      (given + 1) :: inside.numbers level (given + 1)
        ++ behind.numbers level (given + 1 + inside.count level)
    else 0 :: inside.numbers level given ++ behind.numbers level (given + inside.count level)

def Placed : Spans → Prop
  | none => True
  | span note inside behind => note.Placed ∧ inside.Placed ∧ behind.Placed

theorem length_numbers (level : Level) (spans : Spans) :
    ∀ given : Nat, (spans.numbers level given).length = spans.count .debug := by
  induction spans with
  | none => exact fun _ => rfl
  | span note inside behind inner rest =>
    intro given
    rw [numbers, count]
    split <;> simp [inner, rest, Level.includes] <;> omega

/-- The numbers that follow a given one are replaced by some others, one by one. -/
def Assigns (number : Nat → Nat) (given : Nat) (ns : List Nat) : Prop :=
  ∀ i n, ns[i]? = some n → number (given + 1 + i) = n

theorem Assigns.head {number : Nat → Nat} {given n : Nat} {ns : List Nat}
    (assigns : Assigns number given (n :: ns)) : number (given + 1) = n := assigns 0 n rfl

theorem Assigns.tail {number : Nat → Nat} {given n : Nat} {ns : List Nat}
    (assigns : Assigns number given (n :: ns)) : Assigns number (given + 1) ns := fun i m at_i => by
  rw [Nat.add_assoc _ 1, Nat.add_comm 1]
  exact assigns (i + 1) m at_i

theorem Assigns.left {number : Nat → Nat} {given : Nat} {ns ms : List Nat}
    (assigns : Assigns number given (ns ++ ms)) : Assigns number given ns := fun i n at_i =>
  assigns i n (by rw [List.getElem?_append_left (List.getElem?_eq_some_iff.mp at_i).1, at_i])

theorem Assigns.right {number : Nat → Nat} {given : Nat} {ns ms : List Nat}
    (assigns : Assigns number given (ns ++ ms)) : Assigns number (given + ns.length) ms :=
  fun i n at_i => by
    have shifted := assigns (ns.length + i) n (by
      rw [List.getElem?_append_right (Nat.le_add_right _ _), Nat.add_sub_cancel_left, at_i])
    rwa [← Nat.add_assoc, Nat.add_right_comm given 1] at shifted

/-- Any numbers can be assigned. -/
theorem exists_assigns (given : Nat) (ns : List Nat) :
    ∃ number : Nat → Nat, number 0 = 0 ∧ Assigns number given ns := by
  refine ⟨fun k => if k = 0 then 0 else (ns[k - (given + 1)]?).getD 0, rfl, fun i n at_i => ?_⟩
  dsimp only
  rw [if_neg (by omega), Nat.add_sub_cancel_left, at_i]
  rfl

/-- The events at a level are those that it includes, with other numbers.  What lies in a span that
is not numbered at the level has no parent there. -/
theorem events_filter (level : Level) {spans : Spans} : spans.Placed →
    ∀ {given given' around around' : Nat} {number : Nat → Nat}, number 0 = 0 →
      number around = around' →
      Assigns number given (spans.numbers level given') →
      spans.events level given' around' =
        (level.restrict (spans.events .debug given around)).map (Event.renumber number) := by
  induction spans with
  | none => exact fun _ => fun _ _ _ => rfl
  | span note inside behind inner rest =>
    rintro ⟨placed, within, within'⟩ given given' around around' number zero outside numbered
    have parent := placed.parent_renumber zero outside
    have included : Level.debug.includes note.scope = true := rfl
    rw [events, events, if_pos included]
    rw [numbers] at numbered
    split at numbered
    · next keeps =>
      have own := numbered.left.head
      have later := numbered.right
      rw [List.length_cons, length_numbers, Nat.add_comm _ 1, ← Nat.add_assoc] at later
      rw [inner within zero own numbered.left.tail,
        rest within' zero outside later]
      have begins : (note.first (given + 1) around).renumber number =
          note.first (given' + 1) around' := by
        rw [Event.renumber, SpanNote.first, own, parent]
        rfl
      have ends : (note.last (given + 1) around).renumber number =
          note.last (given' + 1) around' := by
        rw [Event.renumber, SpanNote.last, own, parent]
        rfl
      rw [if_pos keeps, Level.restrict_append, Level.restrict_cons_of_included keeps,
        Level.restrict_cons_of_included keeps, List.map_append, List.map_cons, List.map_cons,
        begins, ends]
    · next drops =>
      have own := numbered.left.head
      have later := numbered.right
      rw [List.length_cons, length_numbers, Nat.add_comm _ 1, ← Nat.add_assoc] at later
      rw [inner within zero own numbered.left.tail,
        rest within' zero outside later]
      rw [if_neg drops, Level.restrict_append, Level.restrict_cons_of_excluded drops,
        Level.restrict_cons_of_excluded drops, List.map_append]

/-- Spans that are renumbered begin where they did. -/
theorem begun_renumber (number : Nat → Nat) (es : List Event) :
    begun (es.map (Event.renumber number)) = (begun es).map number := by
  rw [begun, begun, List.filter_map, List.map_map, List.map_map]
  rfl

theorem Placed.renamed {spans : Spans} (placed : spans.Placed) (level : Level)
    (given given' : Nat) :
    Renamed (level.restrict (spans.events .debug given 0)) (spans.events level given' 0) := by
  rcases exists_assigns given (spans.numbers level given') with ⟨number, zero, assigns⟩
  have same := events_filter level placed zero zero assigns
  refine ⟨number, zero, ?_, same⟩
  rw [List.map_cons, zero, ← begun_renumber, ← same, begun_events]
  exact List.nodup_cons.mpr ⟨by simp, List.nodup_range'⟩

/-! ## Layers -/

/-- What is said of each of some spans and of the spans inside of it. -/
def Each (p : SpanNote → Spans → Prop) : Spans → Prop
  | none => True
  | span note inside behind => p note inside ∧ behind.Each p

/-- Spans of passes, which are given no span around them. -/
def ArePasses : Spans → Prop :=
  Each fun note inside => note.scope = .pass ∧ note.outer? = some 0 ∧ inside = none

/-- Spans of phases, each with the spans of its passes inside. -/
def ArePhases : Spans → Prop :=
  Each fun note inside => note.scope = .phase ∧ note.outer? = Option.none ∧ inside.ArePasses

theorem Each.append {p : SpanNote → Spans → Prop} {spans others : Spans} (first : spans.Each p)
    (second : others.Each p) : (spans.append others).Each p := by
  induction spans with
  | none => exact second
  | span note inside behind _ ih => exact ⟨first.1, ih first.2⟩

theorem Each.placed {p : SpanNote → Spans → Prop}
    (each : ∀ note inside, p note inside →
      note.scope ≠ .document ∧ note.outer?.getD 0 = 0 ∧ inside.Placed)
    {spans : Spans} (all : spans.Each p) : spans.Placed := by
  induction spans with
  | none => trivial
  | span note inside behind _ ih =>
    rcases each note inside all.1 with ⟨other, outer, placed⟩
    exact ⟨by rwa [SpanNote.Placed, if_neg other], placed, ih all.2⟩

theorem ArePasses.placed {spans : Spans} (passes : spans.ArePasses) : spans.Placed := by
  refine Each.placed (fun note inside pass => ?_) passes
  rcases pass with ⟨scope, outer, rfl⟩
  exact ⟨by rw [scope]; decide, by rw [outer]; rfl, trivial⟩

theorem ArePhases.placed {spans : Spans} (phases : spans.ArePhases) : spans.Placed := by
  refine Each.placed (fun note inside phase => ?_) phases
  rcases phase with ⟨scope, outer, passes⟩
  exact ⟨by rw [scope]; decide, by rw [outer]; rfl, passes.placed⟩

/-- Spans of one scope with one parent are framed by their events, at a level that includes all. -/
theorem Each.frames {p : SpanNote → Spans → Prop} {scope : Scope} {outer : Nat}
    {inner : Nat → List Event → Prop} {around : Nat}
    (each : ∀ note inside, p note inside → note.scope = scope ∧ note.outer?.getD around = outer ∧
      ∀ id, inner id (inside.events .debug id id))
    {spans : Spans} (all : spans.Each p) :
    ∀ given, Frames scope outer inner (spans.events .debug given around) := by
  induction spans with
  | none => exact fun _ => .nil
  | span note inside behind _ ih =>
    intro given
    rcases each note inside all.1 with ⟨scopes, parent, within⟩
    have framed : Frame scope outer inner (note.first (given + 1) around ::
        inside.events .debug (given + 1) (given + 1) ++ [note.last (given + 1) around]) :=
      .mk rfl rfl rfl ⟨scopes, scopes⟩ ⟨parent, parent⟩ (within _)
    have frames := Frames.cons framed (ih all.2 (given + 1 + inside.count .debug))
    rwa [List.append_assoc] at frames

theorem ArePasses.frames {spans : Spans} (passes : spans.ArePasses) (given around : Nat) :
    Passes (spans.events .debug given around) := by
  refine Each.frames (fun note inside pass => ?_) passes given
  rcases pass with ⟨scope, outer, rfl⟩
  exact ⟨scope, by rw [outer]; rfl, fun _ => rfl⟩

theorem ArePhases.frames {spans : Spans} (phases : spans.ArePhases) (given around : Nat) :
    Phases around (spans.events .debug given around) := by
  refine Each.frames (fun note inside phase => ?_) phases given
  rcases phase with ⟨scope, outer, passes⟩
  exact ⟨scope, by rw [outer]; rfl, fun id => passes.frames id id⟩

/-- The span of a document with those of its phases. -/
def ofDocument (name detail : Text) (parent : Nat) (phases : Spans) : Spans :=
  span { scope := .document, name, outer? := some parent, detail } phases none

variable {phases : Spans} (name detail : Text) (parent : Nat)

theorem ArePhases.placed_ofDocument (arePhases : phases.ArePhases) :
    (ofDocument name detail parent phases).Placed := ⟨rfl, arePhases.placed, trivial⟩

theorem ArePhases.frame_ofDocument (arePhases : phases.ArePhases) (given : Nat) :
    Frame .document parent Phases ((ofDocument name detail parent phases).events .debug given 0) :=
  .mk rfl rfl rfl ⟨rfl, rfl⟩ ⟨rfl, rfl⟩ (arePhases.frames (given + 1) (given + 1))

end Spans

/-! ## Rings that follow spans -/

/-- No tracer has numbered the events of spans yet. -/
theorem Spans.unnumbered_events (level : Level) (spans : Spans) : ∀ given around : Nat,
    (spans.events level given around).map Event.unnumbered = spans.events level given around := by
  induction spans with
  | none => exact fun _ _ => rfl
  | span note inside behind inner rest =>
    intro given around
    rw [Spans.events]
    split
    · rw [List.map_append, List.map_cons, List.map_cons, inner, rest]
      rfl
    · rw [List.map_append, inner, rest]

namespace Tracer

def ofRing (level : Level) (capacity : Int) (sequence given : Nat) : Tracer :=
  { level, ring? := some (.ofCapacity capacity level), sequence, spans := given }

/-- The events in the ring of a tracer, without their numbers. -/
def recorded (t : Tracer) : List Event := (t.ringEvents?.getD []).map Event.unnumbered

/-- A ring with room for the events of spans has them all. -/
theorem recorded_record {level : Level} {capacity : Int} {sequence given around : Nat}
    {spans : Spans} (room : (spans.events level given around).length ≤ Ring.size capacity) :
    ((ofRing level capacity sequence given).record around spans).recorded =
      spans.events level given around := by
  have empty : (ofRing level capacity sequence given).Stored level capacity [] := ⟨[], rfl, rfl⟩
  have admitted : ((spans.events level given around).filter fun e => e.admittedBy level) =
      spans.events level given around :=
    List.filter_eq_self.mpr fun e member =>
      Bool.or_eq_true_iff.mpr (.inl (spans.includes_of_mem_events level e member))
  have stores := empty.foldl_emit (spans.events level given around)
  rw [List.nil_append, admitted] at stores
  rcases stores.exists_events room with ⟨r, ring, same⟩
  rw [record_eq, recorded, ringEvents?]
  change ((((spans.events level given around).foldl emit _).ring?.map _).getD []).map _ = _
  rw [ring, Option.map_some, Option.getD_some, same, Spans.unnumbered_events]

end Tracer

end Trace

end TemplateCompiler
