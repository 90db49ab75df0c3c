import Mathlib.Data.List.Forall2
import TemplateCompiler.Proofs.RecordedEvents

/-!
# The newest events

The events in a ring can be taken at any time, and as often as one likes, while others are still
emitted.  What is seen are always the newest events among those that the level of the ring admits,
in the order in which they were emitted, and as many as there are cells
(`Trace.Tracer.seen_newest`).  It does not matter how often the ring was written over, nor whether
the tracer hands the events to a stream as well.

A tracer numbers what it stores, so events are compared without their numbers; the numbers
themselves increase.
-/

namespace TemplateCompiler

namespace Trace

/-! ## Looking at a ring -/

/-- What is done with a tracer: events are handed to it, and now and then somebody takes a look at
the ring. -/
inductive Use where
  | emit (e : Event)
  /-- Take the events in the ring. -/
  | look

/-- The events that were emitted before each look, some of them before all uses. -/
def Use.emitted (es : List Event) : List Use → List (List Event)
  | [] => []
  | emit e :: uses => emitted (es ++ [e]) uses
  | look :: uses => es :: emitted es uses

namespace Tracer

/-- What is seen at each look. -/
def seen (t : Tracer) : List Use → List (Option (List Event))
  | [] => []
  | .emit e :: uses => (t.emit e).seen uses
  | .look :: uses => t.ringEvents? :: t.seen uses

def withRing (t : Tracer) (capacity : Int) (level : Level) : Tracer :=
  { t with ring? := some (.ofCapacity capacity level) }

variable {t : Tracer} {level : Level} {capacity : Int} {es : List Event}

/-! ## Numbers -/

/-- The events in the ring have increasing numbers, which were given out before. -/
def Numbered (t : Tracer) : Prop :=
  ∀ r ∈ t.ring?, r.events.Pairwise (fun a b => a.sequence < b.sequence) ∧
    ∀ e ∈ r.events, e.sequence ≤ t.sequence

theorem sequence_le_emitToStream (t : Tracer) (e : Event) :
    t.sequence ≤ (t.emitToStream e).sequence := by
  rw [emitToStream]
  split
  · split
    · exact Nat.le_succ _
    · exact Nat.le_refl _
  · exact Nat.le_refl _

theorem Numbered.emitToStream (numbered : t.Numbered) (e : Event) :
    (t.emitToStream e).Numbered := by
  intro r ring
  rw [ring?_emitToStream] at ring
  exact ⟨(numbered r ring).1, fun e' stored =>
    Nat.le_trans ((numbered r ring).2 e' stored) (t.sequence_le_emitToStream e)⟩

theorem Numbered.emitToRing (numbered : t.Numbered) (e : Event) : (t.emitToRing e).Numbered := by
  rw [Tracer.emitToRing]
  split
  · next r ring =>
    split
    · rintro _ ⟨⟩
      have before := numbered r ring
      have among : ((r.push { e with sequence := t.sequence + 1 }).events).Sublist
          (r.events ++ [{ e with sequence := t.sequence + 1 }]) := by
        rw [Ring.events_push_eq_rtake]
        exact List.drop_sublist _ _
      constructor
      · refine List.Pairwise.sublist among (List.pairwise_append.mpr
          ⟨before.1, List.pairwise_singleton _ _, fun a stored b new => ?_⟩)
        cases List.mem_singleton.mp new
        exact Nat.lt_succ_of_le (before.2 a stored)
      · intro a stored
        rcases List.mem_append.mp (among.subset stored) with old | new
        · exact Nat.le_succ_of_le (before.2 a old)
        · cases List.mem_singleton.mp new
          exact Nat.le_refl _
    · exact numbered
  · exact numbered

theorem Numbered.emit (numbered : t.Numbered) (e : Event) : (t.emit e).Numbered :=
  (numbered.emitToStream e).emitToRing e

/-! ## What is seen -/

/-- What a look shows after some events: those of them that the level admits, the newest ones if
there are more than cells, oldest first. -/
def Shows (level : Level) (capacity : Int) (answer : Option (List Event)) (es : List Event) :
    Prop :=
  ∃ events, answer = some events ∧
    events.map Event.unnumbered =
      ((es.filter fun e => e.admittedBy level).rtake (Ring.size capacity)).map Event.unnumbered ∧
    events.Pairwise fun a b => a.sequence < b.sequence

theorem Stored.shows (numbered : t.Numbered)
    (stores : t.Stored level capacity (es.filter fun e => e.admittedBy level)) :
    Shows level capacity t.ringEvents? es := by
  rcases stores.exists_newest with ⟨r, ring, newest⟩
  exact ⟨r.events, congrArg (Option.map Ring.events) ring, newest, (numbered r ring).1⟩

theorem Stored.seen (uses : List Use) : ∀ {t : Tracer} {es : List Event}, t.Numbered →
    t.Stored level capacity (es.filter fun e => e.admittedBy level) →
      List.Forall₂ (Shows level capacity) (t.seen uses) (Use.emitted es uses) := by
  induction uses with
  | nil => exact fun _ _ => .nil
  | cons use uses ih =>
    intro t es numbered stores
    cases use with
    | emit e =>
      refine ih (numbered.emit e) ?_
      rw [List.filter_append, List.filter_cons, List.filter_nil]
      exact stores.emit e
    | look => exact .cons (stores.shows numbered) (ih numbered stores)

/-- Whatever is done with a tracer since it has a ring: each look shows the newest events that were
emitted until then and that the level of the ring admits, oldest first and as many as there are
cells, with increasing numbers. -/
theorem seen_newest (t : Tracer) (capacity : Int) (level : Level) (uses : List Use) :
    List.Forall₂ (Shows level capacity) ((t.withRing capacity level).seen uses)
      (Use.emitted [] uses) := by
  refine Stored.seen uses ?_ ⟨[], rfl, rfl⟩
  rintro _ ⟨⟩
  rw [Ring.events_ofCapacity]
  exact ⟨.nil, fun e none => absurd none List.not_mem_nil⟩

end Tracer

end Trace

end TemplateCompiler
