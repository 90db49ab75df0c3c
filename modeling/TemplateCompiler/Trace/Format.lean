import TemplateCompiler.Json.Writer
import TemplateCompiler.Trace.Event

/-!
# Written forms of a trace

Events are written as indented text, as one JSON object on each line, or as the document that
browsers show as a time line.
-/

namespace TemplateCompiler

namespace Trace

/-- How events are written. -/
inductive Format where
  /-- Chosen from the name of the output. -/
  | automatic
  | text
  | jsonLines
  | timeline
  deriving DecidableEq, Repr, Inhabited

namespace Format

/-- The format of a name, without regard to case. -/
def read (name : Text) : Except SettingError Format :=
  let lower := name.toLower
  if lower.isEmpty || lower == "auto" then .ok automatic
  else if lower == "text" then .ok text
  else if lower == "ndjson" then .ok jsonLines
  else if lower == "chrome" then .ok timeline
  else .error ⟨"format", name, "auto|text|ndjson|chrome"⟩

def ordinal : Format → Nat
  | automatic => 0
  | text => 1
  | jsonLines => 2
  | timeline => 3

/-- The format that the name of an output implies. -/
def ofPath (path : Text) : Format :=
  if path.endsWith ".ndjson" then jsonLines else if path.endsWith ".json" then timeline else text

end Format

/-! ## Moments -/

def microsecondsPerDay : Int := 86400000000

/-- The time of day of a moment, in microseconds. -/
def timeOfDay (time : Int) : Nat := (time.emod microsecondsPerDay).toNat

/-- The time of day of a moment, as hours, minutes, seconds and microseconds. -/
def clock (time : Int) : Text :=
  let t := timeOfDay time
  let seconds := t / 1000000
  Text.ofNatPadded 2 (seconds / 3600) ++ ":" ++ Text.ofNatPadded 2 (seconds / 60 % 60) ++ ":"
    ++ Text.ofNatPadded 2 (seconds % 60) ++ "." ++ Text.ofNatPadded 6 (t % 1000000)

/-- The year, month and day of a day counted from the start of 1970.  Years are counted from March,
so that the leap day is the last of its year, in eras of four hundred years. -/
def civilDate (day : Int) : Int × Nat × Nat :=
  let shifted := day + 719468
  let era := shifted.fdiv 146097
  let dayOfEra := (shifted - era * 146097).toNat
  let yearOfEra := (dayOfEra - dayOfEra / 1460 + dayOfEra / 36524 - dayOfEra / 146096) / 365
  let dayOfYear := dayOfEra - (365 * yearOfEra + yearOfEra / 4 - yearOfEra / 100)
  let marchMonth := (5 * dayOfYear + 2) / 153
  let dayOfMonth := dayOfYear - (153 * marchMonth + 2) / 5 + 1
  let month := if marchMonth < 10 then marchMonth + 3 else marchMonth - 9
  (era * 400 + yearOfEra + (if month ≤ 2 then 1 else 0), month, dayOfMonth)

/-- A year of at least four digits. -/
def yearText (year : Int) : Text :=
  match year with
  | .ofNat n => Text.ofNatPadded 4 n
  | .negSucc n => "-" ++ Text.ofNatPadded 4 (n + 1)

/-- A moment as a date and a time of day. -/
def moment (time : Int) : Text :=
  let (year, month, day) := civilDate (time.fdiv microsecondsPerDay)
  yearText year ++ "-" ++ Text.ofNatPadded 2 month ++ "-" ++ Text.ofNatPadded 2 day ++ "T"
    ++ clock time ++ "Z"

namespace Event

/-! ## Text -/

def mark : EventKind → Text
  | .begins => "→ "
  | .ends => "← "
  | .point => "• "
  | .heartbeat => "♡ "
  | .unknown _ => []

/-- Further values in braces. -/
def extraText (extra : List (Text × Text)) : Text :=
  if extra.isEmpty then []
  else " \x7b" ++ Text.join ", " (extra.map fun e => e.1 ++ "=" ++ e.2) ++ "\x7d"

/-- An event on a line that is indented by its scope. -/
def textLine (e : Event) : Text :=
  clock e.time ++ "  " ++ Text.replicate (2 * (e.scope.ordinal.toNat - 1)) ' '.toUInt8
    ++ mark e.kind ++ e.name ++ Text.when (!e.detail.isEmpty) (" (" ++ e.detail ++ ")")
    ++ extraText e.extra ++ "\n"

/-! ## JSON -/

/-- A member with a number, unless it is zero. -/
def positive (key : String) (n : Nat) : List (String × Json) :=
  if n == 0 then [] else [(key, .ofNat n)]

/-- A member with a text, unless it is empty. -/
def nonEmpty (key : String) (t : Text) : List (String × Json) :=
  if t.isEmpty then [] else [(key, .string t)]

/-- A member with texts by key, unless there are none. -/
def entries (key : String) (es : List (Text × Text)) : List (String × Json) :=
  if es.isEmpty then [] else [(key, .object (es.map fun e => (e.1, .string e.2)))]

/-- An event as one JSON object on a line. -/
def jsonLine (e : Event) : Text :=
  Json.compact (.record (
    ([("time", moment e.time), ("seq", .ofNat e.sequence), ("kind", e.kind.name),
      ("scope", e.scope.name)] : List (String × Json))
      ++ positive "span_id" e.span ++ positive "parent_id" e.parent ++ positive "gid" e.thread
      ++ [("name", .string e.name)] ++ nonEmpty "detail" e.detail ++ entries "extra" e.extra))
    ++ "\n"

/-- An event of a time line, without a separator. -/
def timelineEntry (e : Event) : Text :=
  let phase : Text × Text := match e.kind with
    | .begins => ("B", [])
    | .ends => ("E", [])
    | _ => ("i", "t")
  let arguments := if e.detail.isEmpty then e.extra else setExtra "detail" e.detail e.extra
  Json.compact (.record (
    ([("name", e.name), ("cat", e.scope.name), ("ph", phase.1), ("ts", .ofInt e.time),
      ("pid", .ofNat 1), ("tid", .ofNat e.thread)] : List (String × Json))
      ++ nonEmpty "s" phase.2 ++ entries "args" arguments))

def write (e : Event) : Format → Text
  | .jsonLines => e.jsonLine
  | .timeline => e.timelineEntry
  | _ => e.textLine

end Event

/-! ## Documents -/

/-- What stands before the first event. -/
def opening : Format → Text
  | .timeline => "\x7b\"traceEvents\":[\n"
  | _ => []

/-- What stands behind the last event. -/
def closing : Format → Text
  | .timeline => "\n]\x7d\n"
  | _ => []

/-- What stands between two events. -/
def separator : Format → Text
  | .timeline => ",\n"
  | _ => []

def document (f : Format) (events : List Event) : Text :=
  opening f ++ Text.join (separator f) (events.map fun e => e.write f) ++ closing f

end Trace

end TemplateCompiler
