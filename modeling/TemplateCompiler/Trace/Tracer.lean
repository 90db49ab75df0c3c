import TemplateCompiler.Trace.Format

/-!
# Tracers

A ring keeps the newest events in memory, a stream writes every event at once.  A tracer has one of
them or both, and numbers the events that they store.

A ring has a fixed number of cells.  Events are written into one cell after another, and again from
the first one on when the last one is written; then every further event is written over the oldest
one.
-/

namespace TemplateCompiler

namespace Trace

/-! ## Rings -/

/-- The newest events, as many as there are cells. -/
structure Ring where
  level : Level
  cells : Array Event
  /-- The cell that is written next. -/
  head : Nat := 0
  /-- Whether the last cell has been written. -/
  full : Bool := false
  inside : head < cells.size
  deriving DecidableEq, Repr

namespace Ring

/-- The capacity of a ring for which none is given. -/
def defaultCapacity : Nat := 4096

/-- What stands in a cell before an event is written to it. -/
def blank : Event := { kind := .unknown 0, scope := ⟨0⟩, name := [] }

/-- The number of cells for a capacity; one that is not positive means the default. -/
def size (capacity : Int) : Nat := if capacity ≤ 0 then defaultCapacity else capacity.toNat

theorem size_pos (capacity : Int) : 0 < size capacity := by
  rw [size]
  split
  · decide
  · omega

def ofCapacity (capacity : Int) (level : Level) : Ring :=
  { level, cells := .replicate (size capacity) blank
    inside := by rw [Array.size_replicate]; exact size_pos capacity }

/-- Write an event to the next cell, where it takes the place of the oldest one if the ring is full.
-/
def push (r : Ring) (e : Event) : Ring :=
  let head := (r.head + 1) % r.cells.size
  { level := r.level, cells := r.cells.set r.head e r.inside, head, full := r.full || head == 0
    inside := by
      rw [Array.size_set]
      exact Nat.mod_lt _ (Nat.zero_lt_of_lt r.inside) }

/-- The stored events, oldest first.  The next cell to be written has the oldest event of a full
ring. -/
def events (r : Ring) : List Event :=
  let cells := r.cells.toList
  if r.full then cells.drop r.head ++ cells.take r.head else cells.take r.head

end Ring

/-! ## Streams -/

/-- Events written as they come, in one of the formats, as long as the stream is not closed. -/
structure Stream where
  level : Level
  format : Format
  /-- What was written, latest piece first. -/
  pieces : List Text
  count : Nat := 0
  isClosed : Bool := false
  deriving DecidableEq, Repr

namespace Stream

/-- A stream to which nothing was emitted; without a format it writes text. -/
def start (level : Level) (format : Format) : Stream :=
  let format := if format == .automatic then .text else format
  { level, format, pieces := [opening format] }

/-- Whether an event is written.  The level that only feeds the ring writes nothing. -/
def accepts (s : Stream) (e : Event) : Bool :=
  !s.isClosed && s.level != .off && s.level != .error && e.admittedBy s.level

def push (s : Stream) (e : Event) : Stream :=
  let before := if s.count == 0 then [] else separator s.format
  { s with pieces := e.write s.format :: before :: s.pieces, count := s.count + 1 }

/-- End the document; later events are dropped.  Closing a stream again changes nothing. -/
def close (s : Stream) : Stream :=
  if s.isClosed then s
  else { s with isClosed := true, pieces := closing s.format :: s.pieces }

def text (s : Stream) : Text := Text.concat s.pieces.reverse

end Stream

/-! ## Tracers -/

/-- Where events are kept: in a ring of fixed size, in a stream, or in both. -/
inductive Mode where
  | stream
  | ring
  | both
  deriving DecidableEq, Repr, Inhabited

namespace Mode

def name : Mode → Text
  | stream => "stream"
  | ring => "ring"
  | both => "both"

/-- The mode of a name, without regard to case. -/
def read (name : Text) : Except SettingError Mode :=
  match [stream, ring, both].find? fun m => m.name == name.toLower with
  | some m => .ok m
  | none => .error ⟨"mode", name, "stream|ring|both"⟩

end Mode

/-- What records events, with the numbers it has given out. -/
structure Tracer where
  level : Level := .off
  stream? : Option Stream := none
  ring? : Option Ring := none
  sequence : Nat := 0
  spans : Nat := 0
  deriving Repr, Inhabited

/-- An open span.  A span that is not recorded has the number zero. -/
structure OpenSpan where
  id : Nat := 0
  parent : Nat := 0
  scope : Scope := .driver
  name : Text := []
  extra : List (Text × Text) := []
  deriving Repr, Inhabited

namespace Tracer

/-- The tracer that records nothing. -/
def none : Tracer := {}

def ofMode (mode : Mode) (level : Level) (format : Format) (capacity : Int) (path : Text := []) :
    Tracer :=
  if level == .off then none
  else
    let format := if format == .automatic then .ofPath path else format
    { level
      stream? := if mode == .ring then .none else some (.start level format)
      ring? := if mode == .stream then .none else some (.ofCapacity capacity level) }

def emitToStream (t : Tracer) (e : Event) : Tracer :=
  match t.stream? with
  | some s =>
    if s.accepts e then
      { t with stream? := some (s.push { e with sequence := t.sequence + 1 })
               sequence := t.sequence + 1 }
    else t
  | .none => t

def emitToRing (t : Tracer) (e : Event) : Tracer :=
  match t.ring? with
  | some r =>
    if e.admittedBy r.level then
      { t with ring? := some (r.push { e with sequence := t.sequence + 1 })
               sequence := t.sequence + 1 }
    else t
  | .none => t

/-- Record an event.  Whatever stores it gives it the next number. -/
def emit (t : Tracer) (e : Event) : Tracer := (t.emitToStream e).emitToRing e

def close (t : Tracer) : Tracer := { t with stream? := t.stream?.map Stream.close }

def ringEvents? (t : Tracer) : Option (List Event) := t.ring?.map Ring.events

/-- The document of the events in the ring. -/
def dump? (t : Tracer) (f : Format) : Option Text := t.ringEvents?.map (document f)

def point (t : Tracer) (scope : Scope) (name detail : Text) (parent : Nat) (time : Int := 0) :
    Tracer :=
  if t.level.includes scope then t.emit { time, kind := .point, scope, parent, name, detail } else t

/-- Begin a span.  One that the level does not include is not recorded and neither is its end. -/
def begin (t : Tracer) (scope : Scope) (name : Text) (parent : Nat) (time : Int := 0) :
    Tracer × OpenSpan :=
  if t.level.includes scope then
    let id := t.spans + 1
    ({ t with spans := id }.emit { time, kind := .begins, scope, span := id, parent, name },
      { id, parent, scope, name })
  else (t, {})

def finish (t : Tracer) (s : OpenSpan) (detail : Text) (time : Int := 0) : Tracer :=
  if s.id == 0 then t
  else t.emit { time, kind := .ends, scope := s.scope, span := s.id, parent := s.parent
                name := s.name, detail, extra := s.extra }

end Tracer

/-- Set a value that is recorded at the end of a span. -/
def OpenSpan.withExtra (s : OpenSpan) (key value : Text) : OpenSpan :=
  { s with extra := Event.setExtra key value s.extra }

end Trace

end TemplateCompiler
