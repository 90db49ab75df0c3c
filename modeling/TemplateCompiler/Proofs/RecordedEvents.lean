import Mathlib.Data.List.DropRight
import TemplateCompiler.Trace.Tracer

/-!
# Events that are recorded

A ring stores the newest events that were written to it, in order (`Trace.Ring.events_foldl_push`),
and a stream writes their document piece by piece (`Trace.Stream.text_foldl_push`).  So a stream and
a ring that are handed the same events agree: what the stream has written when it is closed is the
document of the events in the ring (`Trace.Tracer.stream_eq_dump`).
-/

namespace TemplateCompiler

namespace Trace

/-! ## Rings -/

namespace Ring

/-- The cells in front of the next one.  In a ring that is not full they have all of its events, and
otherwise the newest ones. -/
def front (r : Ring) : List Event := r.cells.toList.take r.head

/-- The cells behind the next one, which have the oldest events of a full ring but for the one that
the next event takes the place of. -/
def back (r : Ring) : List Event := r.cells.toList.drop (r.head + 1)

theorem length_front (r : Ring) : r.front.length = r.head := by
  rw [front, List.length_take, Array.length_toList, Nat.min_eq_left (Nat.le_of_lt r.inside)]

theorem length_back (r : Ring) : r.back.length = r.cells.size - (r.head + 1) := by
  rw [back, List.length_drop, Array.length_toList]

/-- The oldest event is in the next cell if the ring is full. -/
theorem exists_events_eq (r : Ring) :
    ∃ oldest, r.events = if r.full then oldest :: r.back ++ r.front else r.front := by
  have inside : r.head < r.cells.toList.length := r.inside
  refine ⟨r.cells.toList[r.head], ?_⟩
  rw [events, List.drop_eq_getElem_cons inside]
  rfl

theorem size_cells_push (r : Ring) (e : Event) : (r.push e).cells.size = r.cells.size :=
  Array.size_set r.inside

theorem length_events (r : Ring) :
    r.events.length = if r.full then r.cells.size else r.head := by
  have inside := r.inside
  obtain ⟨oldest, events⟩ := r.exists_events_eq
  rw [events]
  split
  · rw [List.length_append, List.length_cons, length_back, length_front]
    omega
  · exact r.length_front

/-- An event that is written is the newest one; if the ring is full, the oldest one is lost. -/
theorem events_push (r : Ring) (e : Event) :
    (r.push e).events = (if r.full then r.events.drop 1 else r.events) ++ [e] := by
  have cells : (r.push e).cells.toList = r.front ++ e :: r.back := by
    change (r.cells.set r.head e r.inside).toList = _
    rw [Array.toList_set, List.set_eq_take_append_cons_drop, if_pos (by simpa using r.inside)]
    rfl
  have head : (r.push e).head = (r.head + 1) % r.cells.size := rfl
  have full : (r.push e).full = (r.full || (r.head + 1) % r.cells.size == 0) := rfl
  have front := r.length_front
  have back := r.length_back
  have inside := r.inside
  obtain ⟨oldest, before⟩ := r.exists_events_eq
  rw [events, cells, head, full, before]
  by_cases last : r.head + 1 = r.cells.size
  · have none : r.back = [] := List.length_eq_zero_iff.mp (by omega)
    rw [last, Nat.mod_self, none]
    cases r.full <;> simp
  · rw [Nat.mod_eq_of_lt (by omega)]
    have apart : r.front ++ e :: r.back = (r.front ++ [e]) ++ r.back := by simp
    have whole : (r.front ++ [e]).length = r.head + 1 := by simp [front]
    rw [apart, List.drop_left' whole, List.take_left' whole]
    cases r.full <;> simp

theorem events_push_eq_rtake (r : Ring) (e : Event) :
    (r.push e).events = (r.events ++ [e]).rtake r.cells.size := by
  have length := r.length_events
  have inside := r.inside
  rw [events_push, List.rtake, List.length_append, List.length_singleton]
  split at length
  · next full =>
    rw [if_pos full, length, Nat.add_sub_cancel_left, List.drop_append_of_le_length (by omega)]
  · next room =>
    rw [if_neg room, length, Nat.sub_eq_zero_of_le (by omega), List.drop_zero]

/-- The last entries of a list are found among its last entries. -/
theorem rtake_rtake_concat {α : Type} (xs : List α) (x : α) (n : Nat) :
    (xs.rtake n ++ [x]).rtake n = (xs ++ [x]).rtake n := by
  cases n with
  | zero => simp
  | succ n =>
    rw [List.rtake_concat_succ, List.rtake_concat_succ]
    simp only [List.rtake_eq_reverse_take_reverse, List.reverse_reverse, List.take_take,
      Nat.min_eq_left (Nat.le_succ n)]

/-- A ring has the newest of the events that it had and that were written to it, as many as there
are cells. -/
theorem events_foldl_push (r : Ring) (es : List Event) :
    (es.foldl push r).cells.size = r.cells.size ∧
      (es.foldl push r).events = (r.events ++ es).rtake r.cells.size := by
  induction es using List.reverseRecOn with
  | nil =>
    have length := r.length_events
    have inside := r.inside
    refine ⟨rfl, ?_⟩
    rw [List.append_nil, List.rtake, Nat.sub_eq_zero_of_le (by grind), List.drop_zero]
    rfl
  | append_singleton es e ih =>
    rw [List.foldl_append]
    refine ⟨(size_cells_push _ e).trans ih.1, ?_⟩
    rw [List.foldl_cons, List.foldl_nil, events_push_eq_rtake, ih.1, ih.2, rtake_rtake_concat,
      List.append_assoc]

theorem level_foldl_push (stored : List Event) (r : Ring) :
    (stored.foldl push r).level = r.level := by
  induction stored generalizing r with
  | nil => rfl
  | cons e stored ih => exact ih (r.push e)

theorem events_ofCapacity (capacity : Int) (level : Level) :
    (ofCapacity capacity level).events = [] := rfl

theorem size_cells_ofCapacity (capacity : Int) (level : Level) :
    (ofCapacity capacity level).cells.size = size capacity := Array.size_replicate

/-- An empty ring has the newest of the events that are written to it. -/
theorem events_foldl_push_ofCapacity (capacity : Int) (level : Level) (es : List Event) :
    (es.foldl push (ofCapacity capacity level)).events = es.rtake (size capacity) := by
  rw [(events_foldl_push _ es).2, events_ofCapacity, List.nil_append, size_cells_ofCapacity]

end Ring

/-! ## Events without their numbers -/

/-- An event without the number that a tracer gave it. -/
def Event.unnumbered (e : Event) : Event := { e with sequence := 0 }

/-- Only the lines of JSON show the numbers of events. -/
theorem Event.write_unnumbered {f : Format} (numberless : f ≠ .jsonLines) (e : Event) :
    e.unnumbered.write f = e.write f := by
  cases f with
  | jsonLines => exact absurd rfl numberless
  | _ => rfl

/-- The document of some events is that of others which differ in their numbers. -/
theorem document_congr {f : Format} (numberless : f ≠ .jsonLines) {es fs : List Event}
    (same : es.map Event.unnumbered = fs.map Event.unnumbered) : document f es = document f fs := by
  have written : ∀ es : List Event,
      es.map (·.write f) = (es.map Event.unnumbered).map (·.write f) := fun es => by
      rw [List.map_map]
      exact List.map_congr_left fun e _ => (e.write_unnumbered numberless).symm
  rw [document, document, written es, written fs, same]

/-! ## Streams -/

namespace Stream

theorem text_push (s : Stream) (e : Event) :
    (s.push e).text =
      s.text ++ (if s.count = 0 then [] else separator s.format) ++ e.write s.format := by
  simp [push, text, Text.concat]

/-- What an open stream has written to which some events were handed. -/
structure Wrote (s : Stream) (level : Level) (f : Format) (es : List Event) : Prop where
  level : s.level = level
  format : s.format = f
  opened : s.isClosed = false
  count : s.count = es.length
  text : s.text = opening f ++ Text.join (separator f) (es.map fun e => e.write f)

theorem wrote_start {level : Level} {f : Format} (chosen : f ≠ .automatic) :
    (start level f).Wrote level f [] := by
  cases f with
  | automatic => exact absurd rfl chosen
  | _ => exact ⟨rfl, rfl, rfl, rfl, rfl⟩

theorem Wrote.push {s : Stream} {level : Level} {f : Format} {es : List Event}
    (wrote : s.Wrote level f es) (e : Event) : (s.push e).Wrote level f (es ++ [e]) where
  level := wrote.level
  format := wrote.format
  opened := wrote.opened
  count := by
    rw [List.length_append]
    exact congrArg (· + 1) wrote.count
  text := by
    rw [text_push, wrote.text, wrote.count, wrote.format, List.map_append, List.map_singleton,
      Text.join_concat, List.length_map]
    simp only [List.append_assoc]

/-- The last piece completes the document. -/
theorem Wrote.text_close {s : Stream} {level : Level} {f : Format} {es : List Event}
    (wrote : s.Wrote level f es) : s.close.text = document f es := by
  have opened := wrote.opened
  have completed : s.close.text = s.text ++ closing s.format := by
    simp [close, opened, Stream.text, Text.concat]
  rw [completed, wrote.text, wrote.format, document]

/-- Nothing is written to a stream that was closed. -/
theorem accepts_close (s : Stream) (e : Event) : s.close.accepts e = false := by
  have closed : s.close.isClosed = true := by
    rw [close]
    split
    · assumption
    · rfl
  rw [accepts, closed]
  rfl

end Stream

/-! ## Tracers -/

namespace Tracer

/-- A tracer with a stream and a ring, after some events. -/
def recorder (level : Level) (f : Format) (capacity : Int) (sequence : Nat) (es : List Event) :
    Tracer := es.foldl emit { ofMode .both level f capacity with sequence }

/-- What the stream of a tracer has written that was handed some events: all of them, with numbers
of its own. -/
def Streamed (t : Tracer) (level : Level) (f : Format) (es : List Event) : Prop :=
  ∃ s written, t.stream? = some s ∧ s.Wrote level f written ∧
    written.map Event.unnumbered = es.map Event.unnumbered

/-- What the ring of a tracer was given that was handed some events: all of them, with numbers of
its own. -/
def Stored (t : Tracer) (level : Level) (capacity : Int) (es : List Event) : Prop :=
  ∃ stored : List Event, t.ring? = some (stored.foldl Ring.push (.ofCapacity capacity level)) ∧
    stored.map Event.unnumbered = es.map Event.unnumbered

variable {t : Tracer} {level : Level} {f : Format} {capacity : Int} {es : List Event}

/-- An event that is handed to the stream does not reach the ring. -/
theorem ring?_emitToStream (t : Tracer) (e : Event) : (t.emitToStream e).ring? = t.ring? := by
  rw [emitToStream]
  split
  · split <;> rfl
  · rfl

/-- An event that is handed to the ring does not reach the stream. -/
theorem stream?_emit (t : Tracer) (e : Event) :
    (t.emit e).stream? = (t.emitToStream e).stream? := by
  rw [emit, emitToRing]
  split
  · split <;> rfl
  · rfl

/-- A stream that streams at all writes what its level admits. -/
theorem Streamed.emit (streamed : t.Streamed level f es) (streams : level ≠ .off ∧ level ≠ .error)
    (e : Event) : (t.emit e).Streamed level f (es ++ if e.admittedBy level then [e] else []) := by
  rcases streamed with ⟨s, written, stream, wrote, same⟩
  have accepts : s.accepts e = e.admittedBy level := by
    simp [Stream.accepts, wrote.opened, wrote.level, streams.1, streams.2]
  rw [Streamed, stream?_emit, emitToStream, stream]
  dsimp only
  rw [accepts]
  cases e.admittedBy level with
  | false => exact ⟨s, written, stream, wrote, by rwa [if_neg Bool.false_ne_true, List.append_nil]⟩
  | true =>
    refine ⟨_, written ++ [{ e with sequence := t.sequence + 1 }], rfl, wrote.push _, ?_⟩
    rw [if_pos rfl, List.map_append, List.map_append, same]
    rfl

/-- A ring stores what its level admits. -/
theorem Stored.emit (stores : t.Stored level capacity es) (e : Event) :
    (t.emit e).Stored level capacity (es ++ if e.admittedBy level then [e] else []) := by
  rcases stores with ⟨stored, ring, same⟩
  have unchanged := (t.ring?_emitToStream e).trans ring
  have kept : (stored.foldl Ring.push (.ofCapacity capacity level)).level = level :=
    Ring.level_foldl_push stored _
  rw [Stored, Tracer.emit, emitToRing, unchanged]
  dsimp only
  rw [kept]
  cases e.admittedBy level with
  | false => exact ⟨stored, unchanged, by rwa [if_neg Bool.false_ne_true, List.append_nil]⟩
  | true =>
    refine ⟨stored ++ [{ e with sequence := (t.emitToStream e).sequence + 1 }], ?_, ?_⟩
    · rw [List.foldl_append]
      rfl
    · rw [if_pos rfl, List.map_append, List.map_append, same]
      rfl

/-- What holds of every event that is handed to a tracer holds of many. -/
theorem foldl_emit_induction {motive : Tracer → List Event → Prop}
    (step : ∀ {t : Tracer} {es : List Event} (e : Event), motive t es →
      motive (t.emit e) (es ++ if e.admittedBy level then [e] else []))
    (later : List Event) : ∀ {t : Tracer} {es : List Event}, motive t es →
      motive (later.foldl Tracer.emit t) (es ++ later.filter fun e => e.admittedBy level) := by
  induction later with
  | nil =>
    intro t es first
    rwa [List.filter_nil, List.append_nil]
  | cons e later ih =>
    intro t es first
    have rest := ih (step e first)
    rw [List.append_assoc] at rest
    rw [List.foldl_cons, List.filter_cons]
    cases admitted : e.admittedBy level <;> simpa [admitted] using rest

theorem Streamed.foldl_emit (streamed : t.Streamed level f es)
    (streams : level ≠ .off ∧ level ≠ .error) (later : List Event) :
    (later.foldl Tracer.emit t).Streamed level f
      (es ++ later.filter fun e => e.admittedBy level) :=
  foldl_emit_induction (motive := fun t es => t.Streamed level f es)
    (fun e streamed => streamed.emit streams e) later streamed

theorem Stored.foldl_emit (stores : t.Stored level capacity es) (later : List Event) :
    (later.foldl Tracer.emit t).Stored level capacity
      (es ++ later.filter fun e => e.admittedBy level) :=
  foldl_emit_induction (motive := fun t es => t.Stored level capacity es)
    (fun e stores => stores.emit e) later stores

theorem map_rtake {α β : Type} (f : α → β) (n : Nat) (xs : List α) :
    (xs.rtake n).map f = (xs.map f).rtake n := by
  rw [List.rtake, List.rtake, List.map_drop, List.length_map]

/-- A ring has the newest of the events that were stored. -/
theorem Stored.exists_newest (stores : t.Stored level capacity es) :
    ∃ r, t.ring? = some r ∧
      r.events.map Event.unnumbered = (es.rtake (Ring.size capacity)).map Event.unnumbered := by
  rcases stores with ⟨stored, ring, same⟩
  refine ⟨_, ring, ?_⟩
  rw [Ring.events_foldl_push_ofCapacity, map_rtake, same, map_rtake]

/-- A ring with room for what was stored has it all. -/
theorem Stored.exists_events (stores : t.Stored level capacity es)
    (room : es.length ≤ Ring.size capacity) :
    ∃ r, t.ring? = some r ∧ r.events.map Event.unnumbered = es.map Event.unnumbered := by
  rcases stores.exists_newest with ⟨r, ring, same⟩
  rw [List.rtake, Nat.sub_eq_zero_of_le room, List.drop_zero] at same
  exact ⟨r, ring, same⟩

/-- A stream that was closed stays as it is. -/
theorem stream?_foldl_emit {s : Stream} (later : List Event) :
    ∀ {t : Tracer}, t.stream? = some s → (∀ e, s.accepts e = false) →
      (later.foldl Tracer.emit t).stream? = some s := by
  induction later with
  | nil => exact fun stream _ => stream
  | cons e later ih =>
    intro t stream refuses
    refine ih ?_ refuses
    rw [stream?_emit, emitToStream, stream]
    dsimp only
    rw [refuses, if_neg Bool.false_ne_true, stream]

/-- A stream and a ring that are handed the same events agree.  When the stream is closed, it has
written the document of the events in the ring, which are all that the level admits; and nothing is
written to it later. -/
theorem stream_eq_dump {level : Level} {f : Format} {capacity : Int} {es : List Event}
    (streams : level ≠ .off ∧ level ≠ .error) (written : f = .text ∨ f = .timeline)
    (room : es.length ≤ Ring.size capacity) (sequence : Nat) :
    ∃ s r, (recorder level f capacity sequence es).close.stream? = some s ∧
      (recorder level f capacity sequence es).close.ring? = some r ∧
      s.text = document f r.events ∧
      s.text = document f (es.filter fun e => e.admittedBy level) ∧
      ∀ later : List Event,
        (later.foldl emit (recorder level f capacity sequence es).close).stream? = some s := by
  have chosen : f ≠ .automatic := by rcases written with rfl | rfl <;> nofun
  have numberless : f ≠ .jsonLines := by rcases written with rfl | rfl <;> nofun
  have made : ofMode .both level f capacity =
      { level, stream? := some (.start level f), ring? := some (.ofCapacity capacity level) } := by
    simp [ofMode, streams.1, chosen]
  have streamed : (recorder level f capacity sequence []).Streamed level f [] := by
    rw [recorder, made]
    exact ⟨_, [], rfl, Stream.wrote_start chosen, rfl⟩
  have stores : (recorder level f capacity sequence []).Stored level capacity [] := by
    rw [recorder, made]
    exact ⟨[], rfl, rfl⟩
  rcases streamed.foldl_emit streams es with ⟨s, given, stream, wrote, same⟩
  have few := (List.length_filter_le (fun e => e.admittedBy level) es).trans room
  rcases (stores.foldl_emit es).exists_events few with ⟨r, ring, same'⟩
  have closed : (recorder level f capacity sequence es).close.stream? = some s.close :=
    congrArg (Option.map Stream.close) stream
  refine ⟨s.close, r, closed, ring, ?_, ?_, fun later => ?_⟩
  · rw [wrote.text_close]
    exact document_congr numberless (same.trans same'.symm)
  · rw [wrote.text_close]
    exact document_congr numberless same
  · exact stream?_foldl_emit later closed s.accepts_close

def phaseAndPass : List Event :=
  [{ kind := .begins, scope := .phase, span := 1, name := "Lowering" },
   { kind := .begins, scope := .pass, span := 2, parent := 1, name := "merge" }]

/-- The phase is written and stored, and the pass is not. -/
theorem stream_eq_dump_filtered :
    ∃ s r, (recorder .phase .timeline 2 7 phaseAndPass).close.stream? = some s ∧
      (recorder .phase .timeline 2 7 phaseAndPass).close.ring? = some r ∧
      s.text = document .timeline r.events ∧
      s.text = Text.ofString ("\x7b\"traceEvents\":[\n\x7b\"name\":\"Lowering\",\"cat\":\"phase\","
        ++ "\"ph\":\"B\",\"ts\":0,\"pid\":1,\"tid\":0\x7d\n]\x7d\n") := by
  obtain ⟨s, r, stream, ring, same, text, -⟩ :=
    @stream_eq_dump .phase .timeline 2 phaseAndPass (by decide) (.inr rfl) (by decide) 7
  refine ⟨s, r, stream, ring, same, text.trans ?_⟩
  decide +kernel

end Tracer

end Trace

end TemplateCompiler
