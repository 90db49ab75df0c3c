import TemplateCompiler.Text.Case
import TemplateCompiler.Text.Quoted

/-!
# Events of a trace

A trace is a sequence of events.  An event begins or ends a span, marks a point in time or shows
that the program is alive; its scope says how fine-grained it is.  A level decides which scopes are
recorded.
-/

namespace TemplateCompiler

namespace Trace

/-- What an event says. -/
inductive EventKind where
  | begins
  | ends
  | point
  | heartbeat
  /-- A kind that is not defined. -/
  | unknown (ordinal : UInt8)
  deriving DecidableEq, Repr

namespace EventKind

def ofOrdinal (n : UInt8) : EventKind :=
  if n == 1 then begins else if n == 2 then ends else if n == 3 then point
  else if n == 4 then heartbeat else unknown n

def name : EventKind → Text
  | begins => "begin"
  | ends => "end"
  | point => "point"
  | heartbeat => "heartbeat"
  | unknown _ => "unknown"

end EventKind

/-- The granularity of an event; coarser scopes have smaller ordinals. -/
structure Scope where
  ordinal : UInt8
  deriving DecidableEq, Repr

namespace Scope

/-- A run over many documents. -/
def driver : Scope := ⟨1⟩

/-- One document from its source to its output. -/
def document : Scope := ⟨2⟩

def phase : Scope := ⟨3⟩

def pass : Scope := ⟨4⟩

def name (s : Scope) : Text :=
  if s == driver then "driver" else if s == document then "document"
  else if s == phase then "phase" else if s == pass then "pass" else "unknown"

end Scope

/-- How much is traced: a level includes the scopes down to a certain fineness. -/
inductive Level where
  | off
  /-- Phases are kept for a dump after a failure; nothing is streamed. -/
  | error
  | document
  | phase
  | debug
  /-- A level that is not defined: it includes no scope. -/
  | unknown (ordinal : UInt8)
  deriving DecidableEq, Repr, Inhabited

namespace Level

/-- The defined levels, least first. -/
def all : List Level := [off, error, document, phase, debug]

def name : Level → Text
  | off => "off"
  | error => "error"
  | document => "document"
  | phase => "phase"
  | debug => "debug"
  | unknown _ => "unknown"

def isEnabled (l : Level) : Bool := l != off

def includes (l : Level) (s : Scope) : Bool :=
  match l with
  | off | unknown _ => false
  | error | phase => s.ordinal ≤ Scope.phase.ordinal
  | document => s.ordinal ≤ Scope.document.ordinal
  | debug => true

end Level

/-- What a setting of a trace has to be, and what was given instead. -/
structure SettingError where
  setting : String
  given : Text
  expected : String
  deriving DecidableEq, Repr

def SettingError.message (e : SettingError) : Text :=
  "invalid trace " ++ Text.ofString e.setting ++ ": " ++ e.given.quoted ++ " (expected: "
    ++ e.expected ++ ")"

/-- The level of a name, without regard to case. -/
def Level.read (name : Text) : Except SettingError Level :=
  match Level.all.find? fun l => l.name == name.toLower with
  | some l => .ok l
  | none => .error ⟨"level", name, "off|error|document|phase|debug"⟩

/-- One record of a trace. -/
structure Event where
  /-- Microseconds since the start of 1970. -/
  time : Int := 0
  /-- The number that a tracer gave the event when it stored it. -/
  sequence : Nat := 0
  kind : EventKind
  scope : Scope
  span : Nat := 0
  /-- The span around it; zero for roots. -/
  parent : Nat := 0
  thread : Nat := 0
  name : Text
  detail : Text := []
  /-- Further values, sorted by key.  They belong to the event: what is set later on the span that
  the event was made of does not change them. -/
  extra : List (Text × Text) := []
  deriving DecidableEq, Repr

namespace Event

/-- Entries with a value set under a key; keys stay sorted and distinct. -/
def setExtra (key value : Text) : List (Text × Text) → List (Text × Text)
  | [] => [(key, value)]
  | e :: es =>
    match Text.compare key e.1 with
    | .lt => (key, value) :: e :: es
    | .eq => (key, value) :: es
    | .gt => e :: setExtra key value es

/-- Whether a level admits an event.  A sign of life is always admitted. -/
def admittedBy (e : Event) (l : Level) : Bool := l.includes e.scope || e.kind == .heartbeat

end Event

end Trace

end TemplateCompiler
