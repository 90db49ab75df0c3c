import Mathlib.Logic.Relation
import TemplateCompiler.Proofs.LosslessParse

/-!
# What the parser can do at a byte

Every construct of the parser is a few moves on its stack of frames: a node without parts is added,
an element or a directive is added or opened, the innermost frame is closed, findings are reported,
or nothing that matters is changed.  `look_moves` says so of one look at a byte, and
`Moves.keep_run` derives what a whole run keeps from what a move keeps, so that no invariant has to
go through the constructs again.

What moves add depends on what is read at the byte.  A `Permits` says what start tags are expected
to be and what of places where directives are read, and `Permitted` that it is so of those at hand.
If it is so at every place of a file, then it is of all tags and directives of its tree: that is
`parse_obeys`.
-/

namespace TemplateCompiler

namespace Syntax

/-- Whether a node is neither an element nor a directive. -/
def Node.isPlain : Node → Bool
  | .element .. | .directive .. | .helper .. => false
  | _ => true

/-- Whether a directive is well-formed and says something about the whole file. -/
def DirectiveHead.isFileWide (head : DirectiveHead) : Bool :=
  head.descriptor.usage.isFileScoped && !head.isMalformed

theorem DirectiveHead.isFileWide_of_more {head : DirectiveHead} (inner : head.isFileWide = false)
    (found : List Diagnostic) :
    isFileWide { head with diagnostics := head.diagnostics ++ found } = false := by
  simp only [isFileWide, isMalformed, Diagnostic.anyError, List.any_append] at inner ⊢
  grind

/-! ## Directives as they are read -/

section Directives

variable (g : Grammar) (offset : Nat) (t : Text) (d : DirectiveDescriptor)

def readTokens : Reading.TokensReading :=
  g.tokens d d.slots (offset + (1 + d.keyword.length)) (t.drop (1 + d.keyword.length))

/-- How far into the text of a directive its tokens were read. -/
def readLength : Nat := 1 + d.keyword.length + (readTokens g offset t d).length

def readHead (nested : Bool) : DirectiveHead :=
  { descriptor := d, tokens := (readTokens g offset t d).tokens, nested
    diagnostics := Machine.misplaced d nested (g.span offset (offset + (1 + d.keyword.length)))
      ++ (readTokens g offset t d).diagnostics }

def readBody : Reading.DirectiveBody :=
  g.directiveBody d (offset + readLength g offset t d) (t.drop (readLength g offset t d))

/-- What becomes of a directive that is read at an offset from a text. -/
inductive DirectiveRead : Span → DirectiveHead → Prop
  /-- A token is missing or has the wrong shape. -/
  | stuck (nested : Bool) (incomplete : (readTokens g offset t d).isComplete = false) :
      DirectiveRead (g.span offset (offset + readLength g offset t d))
        (readHead g offset t d nested)
  | done (nested : Bool) {n : Nat} {code : Text} {found : List Diagnostic}
      (complete : (readTokens g offset t d).isComplete = true)
      (body : readBody g offset t d = .done n code found) :
      DirectiveRead (g.span offset (offset + (readLength g offset t d + n)))
        { readHead g offset t d nested with
          code, diagnostics := (readHead g offset t d nested).diagnostics ++ found }
  /-- A block was opened, and it is closed at some place with some findings. -/
  | block (nested : Bool) {gap : Nat} {span : Span} (found : List Diagnostic)
      (complete : (readTokens g offset t d).isComplete = true)
      (body : readBody g offset t d = .opens gap) (starts : span.start = offset) :
      DirectiveRead span
        { readHead g offset t d nested with
          diagnostics := (readHead g offset t d nested).diagnostics ++ found }

variable {g offset t d} {span : Span} {head : DirectiveHead}

theorem DirectiveRead.start (read : DirectiveRead g offset t d span head) :
    span.start = offset := by
  cases read with
  | stuck | done => rfl
  | block _ _ _ _ starts => exact starts

theorem DirectiveRead.descriptor (read : DirectiveRead g offset t d span head) :
    head.descriptor = d := by
  cases read <;> rfl

theorem DirectiveRead.tokens (read : DirectiveRead g offset t d span head) :
    head.tokens = (readTokens g offset t d).tokens := by
  cases read <;> rfl

end Directives

/-- What may be added: start tags, by whether they stand outside all frames, and directives, by the
place where they are read. -/
structure Permits where
  tag : (outside : Bool) → StartTag → Prop := fun _ _ => True
  directive : Grammar → (offset : Nat) → Text → DirectiveDescriptor → Prop :=
    fun _ _ _ _ => True

/-- A directive comes from a place where it may be read. -/
def Permits.Reads (p : Permits) (span : Span) (head : DirectiveHead) : Prop :=
  ∃ g offset t d, p.directive g offset t d ∧ DirectiveRead g offset t d span head

/-- However its block is closed, a directive comes from a place where it may be read. -/
def Permits.Opens (p : Permits) (start : Nat) (head : DirectiveHead) : Prop :=
  ∀ (span : Span) (found : List Diagnostic), span.start = start →
    p.Reads span { head with diagnostics := head.diagnostics ++ found }

namespace Machine

inductive Move (p : Permits) (m : Machine) : Machine → Prop
  | pass {next : Machine} (offset : next.offset = m.offset) (root : next.root = m.root)
      (frames : next.frames = m.frames) (found : next.found = m.found) : Move p m next
  /-- A literal brace in a block is counted. -/
  | brace {next : Machine} {start at' braces braces' : Nat} {head : DirectiveHead}
      {body : List Node} {rest : List Frame} (offset : next.offset = m.offset)
      (root : next.root = m.root) (found : next.found = m.found)
      (before : m.frames = .block start head at' braces body :: rest)
      (after : next.frames = .block start head at' braces' body :: rest) : Move p m next
  | report (found : List Diagnostic) : Move p m (m.report found)
  | plain {n : Node} (plain : n.isPlain = true) : Move p m (m.emit n)
  | element {tag : StartTag} (permitted : p.tag m.frames.isEmpty tag) :
      Move p m (m.emit (.element tag.span tag none []))
  | directive {span : Span} {head : DirectiveHead} (read : p.Reads span head)
      (placed : m.frames ≠ [] → head.isFileWide = false) :
      Move p m (m.emit (.directive span head []))
  | openElement {tag : StartTag} (permitted : p.tag m.frames.isEmpty tag) :
      Move p m { m with frames := .element tag [] :: m.frames }
  | openBlock {start brace : Nat} {head : DirectiveHead} (opens : p.Opens start head)
      (placed : m.frames ≠ [] → head.isFileWide = false) :
      Move p m { m with frames := .block start head brace 0 [] :: m.frames }
  | closeElement {tag : StartTag} {body : List Node} {rest : List Frame} (span : Span)
      (endTag? : Option Span) (top : m.frames = .element tag body :: rest) :
      Move p m ({ m with frames := rest }.emit (.element span tag endTag? body.reverse))
  | closeBlock {start brace braces : Nat} {head : DirectiveHead} {body : List Node}
      {rest : List Frame} (span : Span) (found : List Diagnostic)
      (top : m.frames = .block start head brace braces body :: rest)
      (starts : span.start = start) :
      Move p m ({ m with frames := rest }.emit
        (.directive span { head with diagnostics := head.diagnostics ++ found } body.reverse))

/-- Moves one after another. -/
abbrev Moves (p : Permits) : Machine → Machine → Prop := Relation.ReflTransGen (Move p)

variable {p : Permits} {g : Grammar} {m next : Machine}

theorem Move.offset (move : Move p m next) : next.offset = m.offset := by
  cases move with
  | pass offset => exact offset
  | brace offset => exact offset
  | report | openElement | openBlock => rfl
  | plain | element | directive | closeElement | closeBlock => simp

theorem Moves.offset (moves : Moves p m next) : next.offset = m.offset := by
  induction moves with
  | refl => rfl
  | tail _ move ih => rw [move.offset, ih]

@[simp]
theorem isEmpty_frames_flush (m : Machine) (file : Nat) :
    (m.flush file).frames.isEmpty = m.frames.isEmpty := by
  have same := length_frames_flush m file
  rw [Bool.eq_iff_iff, List.isEmpty_iff_length_eq_zero, List.isEmpty_iff_length_eq_zero, same]

/-! ## Parts of constructs -/

theorem Moves.take (moves : Moves p m next) (n : Nat) : Moves p m (next.take n) :=
  moves.tail (.pass rfl rfl rfl rfl)

theorem Moves.report (moves : Moves p m next) (found : List Diagnostic) :
    Moves p m (next.report found) := moves.tail (.report found)

theorem Moves.plain (moves : Moves p m next) {n : Node} (plain : n.isPlain = true) :
    Moves p m (next.emit n) := moves.tail (.plain plain)

theorem flush_moves (p : Permits) (m : Machine) (file : Nat) : Moves p m (m.flush file) := by
  unfold flush
  split
  · exact .refl
  · apply Moves.plain _ rfl
    apply Relation.ReflTransGen.single
    exact .pass rfl rfl rfl rfl

theorem literal_moves (p : Permits) (m : Machine) (b : UInt8) : Moves p m (m.literal b) := by
  apply Relation.ReflTransGen.single
  unfold literal
  cases top : m.frames with
  | nil => exact .pass rfl rfl top.symm rfl
  | cons f rest =>
    cases f with
    | element tag body => exact .pass rfl rfl top.symm rfl
    | block start head brace braces body => exact .brace rfl rfl rfl top rfl

theorem Moves.abandon (moves : Moves p m next) (stop : Nat) :
    Moves p m (next.abandon g stop) := by
  unfold Machine.abandon
  split
  · exact moves
  · next f rest top =>
    cases f with
    | element tag body => exact moves.tail (.closeElement _ none top)
    | block start head brace braces body => exact moves.tail (.closeBlock _ _ top rfl)

theorem Moves.abandonMany (stop n : Nat) :
    ∀ {next : Machine}, Moves p m next → Moves p m (next.abandonMany g stop n) := by
  induction n with
  | zero =>
    intro next moves
    exact moves
  | succ n ih =>
    intro next moves
    exact ih (moves.abandon stop)

theorem finish_moves (p : Permits) (m : Machine) (g : Grammar) : Moves p m (m.finish g) :=
  (flush_moves p m g.file).abandonMany _ _

/-! ## Constructs -/

theorem Moves.enclosed (moves : Moves p m next) {t : Text} {closing? : Option Nat}
    {node : Span → Text → Node} {unclosed : Diagnostic}
    (plain : ∀ span text, (node span text).isPlain = true) :
    Moves p m (next.enclosed g t closing? node unclosed) := by
  unfold Machine.enclosed
  split
  · exact (moves.plain (plain _ _)).take _
  · exact ((moves.report _).plain (plain _ _)).take _

theorem Moves.comment (moves : Moves p m next) (t : Text) : Moves p m (next.comment g t) := by
  unfold Machine.comment
  split
  · exact (moves.plain rfl).take _
  · exact ((moves.report _).plain rfl).take _

theorem Moves.markupComment (moves : Moves p m next) (t : Text) :
    Moves p m (next.markupComment g t) := by
  unfold Machine.markupComment
  split
  · exact (moves.plain rfl).take _
  · exact ((moves.report _).plain rfl).take _

theorem Moves.statement (moves : Moves p m next) (t : Text) (n : Nat) :
    Moves p m (next.statement g t n) := by
  unfold Machine.statement
  dsimp only
  split
  · exact (moves.plain rfl).take _
  · exact ((moves.report _).plain rfl).take _

theorem Moves.noteOccurrence (moves : Moves p m next) (d : DirectiveDescriptor) (keyword : Span) :
    Moves p m (next.noteOccurrence d keyword) := by
  unfold Machine.noteOccurrence
  split
  · exact moves
  split
  · exact moves.report _
  · exact moves.tail (.pass rfl rfl rfl rfl)

/-- Noting a directive changes nothing that is added to. -/
theorem noteOccurrence_keeps (m : Machine) (d : DirectiveDescriptor) (keyword : Span) :
    (m.noteOccurrence d keyword).root = m.root ∧ (m.noteOccurrence d keyword).frames = m.frames
      ∧ (m.noteOccurrence d keyword).pending = m.pending
      ∧ (m.noteOccurrence d keyword).offset = m.offset := by
  unfold noteOccurrence
  split
  · exact ⟨rfl, rfl, rfl, rfl⟩
  split
  · exact ⟨rfl, rfl, rfl, rfl⟩
  · exact ⟨rfl, rfl, rfl, rfl⟩

/-- A directive inside of a frame that belongs to the top level is malformed. -/
theorem isFileWide_of_misplaced {frames : List Frame} (inner : frames ≠ []) {head : DirectiveHead}
    {keyword : Span} {found : List Diagnostic}
    (same : head.diagnostics = misplaced head.descriptor (!frames.isEmpty) keyword ++ found) :
    head.isFileWide = false := by
  have nested : frames.isEmpty = false := by simpa using inner
  cases ofFile : head.descriptor.usage.isFileScoped with
  | false => simp [DirectiveHead.isFileWide, ofFile]
  | true =>
    have malformed : head.isMalformed = true := by
      unfold DirectiveHead.isMalformed misplaced at *
      rw [same, nested, ofFile]
      rfl
    simp [DirectiveHead.isFileWide, malformed]

theorem Moves.directive (moves : Moves p m next) {t : Text} {d : DirectiveDescriptor}
    (permitted : p.directive g next.offset t d) : Moves p m (next.directive g t d) := by
  have noted := moves.noteOccurrence d
    (g.span next.offset (next.offset + (1 + d.keyword.length)))
  have frames := (noteOccurrence_keeps next d
    (g.span next.offset (next.offset + (1 + d.keyword.length)))).2.1
  unfold Machine.directive
  dsimp only
  split
  · next incomplete =>
    have incomplete : (readTokens g next.offset t d).isComplete = false := by
      simpa [readTokens] using incomplete
    apply Moves.take
    refine noted.tail (.directive ⟨g, _, t, d, permitted, .stuck _ incomplete⟩ ?_)
    rw [frames]
    exact fun inner => isFileWide_of_misplaced inner rfl
  next complete =>
  have complete : (readTokens g next.offset t d).isComplete = true := by
    simpa [readTokens] using complete
  split
  · next n code found body =>
    apply Moves.take
    refine noted.tail (.directive ⟨g, _, t, d, permitted, .done _ complete body⟩ ?_)
    rw [frames]
    exact fun inner => isFileWide_of_misplaced inner (List.append_assoc ..)
  · next gap body =>
    apply Moves.take
    refine noted.tail (.openBlock ?_ ?_)
    · intro span found starts
      exact ⟨g, _, t, d, permitted, .block _ found complete body starts⟩
    · rw [frames]
      exact fun inner => isFileWide_of_misplaced inner rfl

theorem Moves.transition (moves : Moves p m next) {t : Text}
    (permitted : ∀ d, g.directive? t = some d → p.directive g next.offset t d) :
    Moves p m (next.transition g t) := by
  unfold Machine.transition
  dsimp only
  split
  · exact (moves.plain rfl).take _
  split
  · exact moves.comment t
  split
  · exact moves.enclosed fun _ _ => rfl
  split
  · exact moves.enclosed fun _ _ => rfl
  split
  · split
    · next d known => exact moves.directive (permitted d known)
    split
    · exact moves.statement t _
    · exact (moves.plain rfl).take _
  · exact ((moves.report _).plain rfl).take _

theorem Moves.endTag (moves : Moves p m next) (t : Text) : Moves p m (next.endTag g t) := by
  unfold Machine.endTag
  dsimp only
  split
  · next depth _ =>
    have abandoned := moves.abandonMany (g := g) next.offset depth
    split
    · next tag body rest top =>
      apply Moves.take
      exact abandoned.tail (.closeElement _ _ top)
    · exact abandoned.take _
  · exact ((moves.report _).plain rfl).take _

theorem Moves.startTag (moves : Moves p m next) {t : Text}
    (permitted : p.tag next.frames.isEmpty (g.toReading.startTag next.offset t).tag) :
    Moves p m (next.startTag g t) := by
  unfold Machine.startTag
  dsimp only
  split
  · apply Moves.take
    exact (moves.report _).tail (.openElement permitted)
  · apply Moves.take
    exact (moves.report _).tail (.element permitted)

theorem Moves.closeBlock (moves : Moves p m next) : Moves p m (next.closeBlock g) := by
  unfold Machine.closeBlock
  split
  · next start head brace braces body rest top =>
    apply Moves.take
    have closed := moves.tail (.closeBlock (g.span start (next.offset + 1)) [] top rfl)
    rwa [List.append_nil] at closed
  · exact moves

/-! ## Steps and runs -/

/-- Whether the machine ends its work at a text because only leading directives are read. -/
def endsLeading (g : Grammar) (m : Machine) (t : Text) : Bool :=
  g.leadingOnly && m.frames.isEmpty && !g.isLeading t

/-- What is read at a text may be added.  It is asked of the two constructs that permits are about,
and at the place at which the machine looks at the text. -/
structure Permitted (p : Permits) (g : Grammar) (m : Machine) (t : Text) : Prop where
  tag : endsLeading g m t = false → t.head? = some '<'.toUInt8 → Reading.startsTag t = true →
    p.tag m.frames.isEmpty (g.toReading.startTag m.offset t).tag
  directive : ∀ d, g.directive? t = some d → p.directive g m.offset t d

theorem permitted_any (g : Grammar) (m : Machine) (t : Text) : Permitted {} g m t where
  tag _ _ _ := trivial
  directive _ _ := trivial

theorem look_moves {b : UInt8} {rest : Text} (permitted : Permitted p g m (b :: rest)) :
    Moves p m (m.look g b rest) := by
  have flushed := flush_moves p m g.file
  have place : (m.flush g.file).offset = m.offset := flushed.offset
  unfold look
  dsimp only
  split
  · apply Relation.ReflTransGen.single
    exact .pass rfl rfl rfl rfl
  · next going =>
    split
    · exact flushed.closeBlock
    split
    · apply flushed.transition
      rw [place]
      exact permitted.directive
    split
    · next angle =>
      split
      · exact flushed.markupComment _
      split
      · exact flushed.endTag _
      split
      · next starts =>
        apply flushed.startTag
        rw [place, isEmpty_frames_flush]
        exact permitted.tag (Bool.eq_false_iff.mpr going)
          (congrArg some (LawfulBEq.eq_of_beq angle)) starts
      · exact literal_moves p m b
    · exact literal_moves p m b

theorem Moves.keep {P : Machine → Prop}
    (moves : Moves p m next) (kept : ∀ {m next : Machine}, P m → Move p m next → P next)
    (holds : P m) : P next := by
  induction moves with
  | refl => exact holds
  | tail _ move ih => exact kept ih move

/-- What every move keeps is kept by a run, if what is read on the way may be added. -/
theorem Moves.keep_run (content : Text) {P : Machine → Prop}
    (same : ∀ {m next : Machine}, P m → next.root = m.root → next.frames = m.frames →
      next.found = m.found → P next)
    (kept : ∀ {m next : Machine}, P m → Move p m next → P next)
    (permitted : ∀ {m : Machine} {b : UInt8} {rest : Text}, P m →
      content.drop m.offset = b :: rest → Permitted p g m (b :: rest)) (t : Text) :
    ∀ {m : Machine}, P m → content.drop m.offset = t → P (run g m t) := by
  induction t with
  | nil =>
    intro m holds _
    exact holds
  | cons b rest ih =>
    intro m holds ahead
    have behind : content.drop (m.offset + 1) = rest := by
      rw [← List.drop_drop, ahead, List.drop_one, List.tail_cons]
    unfold run
    split
    · exact ih (same holds rfl rfl rfl) behind
    · have moves := look_moves (permitted holds ahead)
      have looked : P (m.look g b rest) := moves.keep kept holds
      have advanced : P ((m.look g b rest).advance b) := same looked rfl rfl rfl
      dsimp only
      split
      · exact looked
      · apply ih advanced
        change content.drop ((m.look g b rest).offset + 1) = rest
        rw [moves.offset]
        exact behind

theorem run_offset_le (g : Grammar) (t : Text) :
    ∀ m : Machine, (run g m t).offset ≤ m.offset + t.length := by
  induction t with
  | nil =>
    intro m
    exact Nat.le_refl _
  | cons b rest ih =>
    intro m
    rw [List.length_cons]
    unfold run
    split
    · next skip _ =>
      have bound := ih ({ m with skip }.advance b)
      change _ ≤ m.offset + 1 + rest.length at bound
      omega
    · have place := (look_moves (permitted_any g m (b :: rest))).offset
      dsimp only
      split
      · omega
      · have bound := ih ((m.look g b rest).advance b)
        change _ ≤ (m.look g b rest).offset + 1 + rest.length at bound
        omega

end Machine

/-! ## Trees -/

/-- The start tag or the directive of a node may be added. -/
def Node.Obeys (p : Permits) : Node → Prop
  | .element _ tag _ _ => ∃ outside, p.tag outside tag
  | .directive span head _ => p.Reads span head
  | .helper .. => False
  | _ => True

/-- What was gathered in a frame may be added, and so may the construct that the frame stands for.
-/
def Frame.Obeys (p : Permits) : Frame → Prop
  | .element tag body => (∃ outside, p.tag outside tag) ∧ ∀ n ∈ body, n.Every (Node.Obeys p)
  | .block start head _ _ body => p.Opens start head ∧ ∀ n ∈ body, n.Every (Node.Obeys p)

namespace Machine

structure Obeys (p : Permits) (m : Machine) : Prop where
  root : ∀ n ∈ m.root, n.Every (Node.Obeys p)
  frames : ∀ f ∈ m.frames, f.Obeys p

variable {p : Permits} {g : Grammar} {m next : Machine}

theorem Obeys.of_eq (obeys : m.Obeys p) (root : next.root = m.root)
    (frames : next.frames = m.frames) : next.Obeys p := by
  constructor
  · rw [root]
    exact obeys.root
  · rw [frames]
    exact obeys.frames

theorem Obeys.pop {f : Frame} {rest : List Frame} (obeys : m.Obeys p)
    (top : m.frames = f :: rest) : f.Obeys p ∧ Obeys p { m with frames := rest } := by
  have all := obeys.frames
  rw [top] at all
  exact ⟨all f List.mem_cons_self, obeys.root, fun k member => all k (.tail f member)⟩

theorem Obeys.push {f : Frame} {rest : List Frame} (obeys : Obeys p { m with frames := rest })
    (frame : f.Obeys p) : Obeys p { m with frames := f :: rest } := by
  constructor
  · exact obeys.root
  · exact List.forall_mem_cons.mpr ⟨frame, obeys.frames⟩

theorem Obeys.emit {n : Node} (obeys : m.Obeys p) (every : n.Every (Node.Obeys p)) :
    (m.emit n).Obeys p := by
  unfold Machine.emit
  split
  · exact ⟨List.forall_mem_cons.mpr ⟨every, obeys.root⟩, obeys.frames⟩
  · next tag body rest top =>
    rcases obeys.pop top with ⟨⟨permitted, gathered⟩, others⟩
    exact others.push ⟨permitted, List.forall_mem_cons.mpr ⟨every, gathered⟩⟩
  · next start head brace braces body rest top =>
    rcases obeys.pop top with ⟨⟨permitted, gathered⟩, others⟩
    exact others.push ⟨permitted, List.forall_mem_cons.mpr ⟨every, gathered⟩⟩

theorem Obeys.move (obeys : m.Obeys p) (move : Move p m next) : next.Obeys p := by
  have bodiless {n : Node} (self : n.Obeys p) (none : n.body = []) : n.Every (Node.Obeys p) := by
    apply Node.Every.intro n self
    simp [none]
  cases move with
  | pass _ root frames => exact obeys.of_eq root frames
  | brace _ root _ before after =>
    rcases obeys.pop before with ⟨block, others⟩
    constructor
    · rw [root]
      exact obeys.root
    · rw [after]
      exact List.forall_mem_cons.mpr ⟨block, others.frames⟩
  | report => exact ⟨obeys.root, obeys.frames⟩
  | @plain n plain =>
    apply obeys.emit
    cases n with
    | element | directive | helper => cases plain
    | text | markupComment | transition | expression | codeBlock | comment =>
      exact bodiless trivial rfl
  | element permitted => exact obeys.emit (bodiless ⟨_, permitted⟩ rfl)
  | directive read => exact obeys.emit (bodiless read rfl)
  | openElement permitted => exact obeys.push ⟨⟨_, permitted⟩, by simp⟩
  | openBlock opens => exact obeys.push ⟨opens, by simp⟩
  | closeElement span endTag? top =>
    rcases obeys.pop top with ⟨⟨permitted, gathered⟩, others⟩
    apply others.emit
    exact .intro _ permitted fun n member => gathered n (List.mem_reverse.mp member)
  | closeBlock span found top starts =>
    rcases obeys.pop top with ⟨⟨opens, gathered⟩, others⟩
    apply others.emit
    exact .intro _ (opens span found starts) fun n member => gathered n (List.mem_reverse.mp member)

end Machine

/-- If what is read at every place of a file may be added, so may all tags and directives of its
tree. -/
theorem parse_obeys {p : Permits} (file : SourceFile) (options : ParserOptions)
    (permitted : ∀ {m : Machine} {b : UInt8} {rest : Text},
      file.content.drop m.offset = b :: rest →
        Machine.Permitted p (.ofOptions file.id options) m (b :: rest)) :
    ∀ n ∈ (parse file options).body, n.Every (Node.Obeys p) := by
  have start : Machine.Obeys p {} := by
    constructor
    · simp
    · simp
  have ran : Machine.Obeys p (Machine.run (.ofOptions file.id options) {} file.content) := by
    apply Machine.Moves.keep_run file.content (p := p) (P := Machine.Obeys p)
    · intro m next obeys root frames _
      exact obeys.of_eq root frames
    · exact Machine.Obeys.move
    · intro m b rest _ ahead
      exact permitted ahead
    · exact start
    · rfl
  have finished := (Machine.finish_moves p _ (.ofOptions file.id options)).keep
    Machine.Obeys.move ran
  intro n member
  exact finished.root n (List.mem_reverse.mp member)

end Syntax

end TemplateCompiler
