import TemplateCompiler.Proofs.DirectiveReports
import TemplateCompiler.Proofs.ParserMoves

/-!
# Duplicate directives

The parser keeps the first place of each directive that may occur only once, and reports a later one
when it meets its keyword, before it reads what follows it.  A directive may stand in an element or
in the block of another directive, whose node is added only when it is closed.  All the same the
findings are in the order of the tree: the directives that were met so far are those of the nodes
and frames of the machine in preorder, and a construct adds a directive at the end or none at all.

So the tree's findings about one keyword are those of the directives of the tree with that keyword,
but for the first one (`parse_repeats`).  No other finding is of this kind.
-/

namespace TemplateCompiler

namespace Syntax

/-! ## The directives of a tree with their places -/

namespace Node

mutual

/-- The directives of a tree in preorder, each with the span of its node. -/
def places : Node → List (Span × DirectiveHead)
  | directive span head body => (span, head) :: placesAll body
  | element _ _ _ body | helper _ _ body => placesAll body
  | _ => []

def placesAll : List Node → List (Span × DirectiveHead)
  | [] => []
  | n :: ns => places n ++ placesAll ns

end

mutual

theorem map_places : ∀ n : Node, n.places.map Prod.snd = n.directives
  | directive _ head body => congrArg (head :: ·) (map_placesAll body)
  | element _ _ _ body | helper _ _ body => map_placesAll body
  | text .. | markupComment .. | transition _ | expression .. | codeBlock .. | comment .. => rfl

theorem map_placesAll : ∀ ns : List Node, (placesAll ns).map Prod.snd = directivesAll ns
  | [] => rfl
  | n :: ns => by
    rw [placesAll, directivesAll, List.map_append, map_places n, map_placesAll ns]

end

theorem placesAll_append (ns more : List Node) :
    placesAll (ns ++ more) = placesAll ns ++ placesAll more := by
  induction ns with
  | nil => rfl
  | cons n ns ih => rw [List.cons_append, placesAll, placesAll, ih, List.append_assoc]

end Node

namespace Tree

/-- The directives of a tree in preorder, each with the span of its node. -/
def places (t : Tree) : List (Span × DirectiveHead) := Node.placesAll t.body

theorem map_places (t : Tree) : t.places.map Prod.snd = t.directives := Node.map_placesAll t.body

end Tree

/-- By the definition that is found first, the directive of a keyword may occur only once in a
document. -/
def OccursOnce (directives : List DirectiveDescriptor) (keyword : Text) : Prop :=
  ∃ d, directives.find? (fun e => e.keyword == keyword) = some d ∧ d.usage = .fileScopedOnce

/-- A directive by the offset of its at sign and its definition: what is known of it as soon as its
keyword is read. -/
abbrev Mark := Nat × DirectiveDescriptor

def markOf (place : Span × DirectiveHead) : Mark := (place.1.start, place.2.descriptor)

/-- The span of an at sign and the keyword behind it. -/
def keywordSpan (file : Nat) (mark : Mark) : Span :=
  ⟨file, mark.1, mark.1 + (1 + mark.2.keyword.length)⟩

/-- The finding that the directive of a keyword is a repetition. -/
def repetition (keyword : Text) (here first : Span) : Diagnostic :=
  (Diagnostic.error .duplicateDirective here
    ("the " ++ keyword.quoted ++ " directive may only occur once per document")).withNote
    first "first occurrence"

/-- The findings about directives of one keyword: one about each of them but the first. -/
def repetitions (file : Nat) (keyword : Text) : List Mark → List Diagnostic
  | [] => []
  | first :: later =>
    later.map fun mark => repetition keyword (keywordSpan file mark) (keywordSpan file first)

/-- Whether a finding is that the directive of a keyword is a repetition: it is of this kind, and
its span holds the keyword. -/
def isRepetition (content keyword : Text) (x : Diagnostic) : Bool :=
  x.code == .duplicateDirective && content.slice x.span.start x.span.stop == "@" ++ keyword

theorem repetitions_concat (file : Nat) (keyword : Text) (first mark : Mark) (later : List Mark) :
    repetitions file keyword (first :: later ++ [mark])
      = repetitions file keyword (first :: later)
        ++ [repetition keyword (keywordSpan file mark) (keywordSpan file first)] := by
  rw [List.cons_append, repetitions, List.map_append]
  rfl

theorem length_repetitions (file : Nat) (keyword : Text) (marks : List Mark) :
    (repetitions file keyword marks).length = marks.length - 1 := by
  cases marks with
  | nil => rfl
  | cons first later => exact List.length_map _

theorem isRepetition_repetition {content : Text} {mark : Mark}
    (written : content.slice mark.1 (mark.1 + (1 + mark.2.keyword.length))
      = "@" ++ mark.2.keyword)
    (file : Nat) (first : Span) (keyword : Text) :
    isRepetition content keyword (repetition mark.2.keyword (keywordSpan file mark) first)
      = (mark.2.keyword == keyword) := by
  change (content.slice mark.1 (mark.1 + (1 + mark.2.keyword.length)) == "@" ++ keyword) = _
  rw [written, Bool.eq_iff_iff, beq_iff_eq, beq_iff_eq]
  exact List.append_right_inj _

/-! ## Findings about start tags -/

namespace Reading

/-- The kinds of findings about one start tag. -/
def codesOfTag : List DiagnosticCode := [.unterminatedExpression, .unterminatedStartTag]

theorem unclosedExpression_about (r : Reading) (offset : Nat) :
    (r.unclosedExpression offset).code ∈ codesOfTag := List.mem_cons_self

theorem valueFrom_about (r : Reading) (t : Text) :
    ∀ (skip offset : Nat) (previous? : Option UInt8) (pending : Text),
      ∀ x ∈ (r.valueFrom skip offset previous? pending t).2, x.code ∈ codesOfTag := by
  induction t with
  | nil =>
    intro skip offset previous? pending x member
    rw [valueFrom] at member
    cases member
  | cons b t ih =>
    intro skip offset previous? pending
    cases skip with
    | succ skip => exact ih skip _ _ _
    | zero =>
      unfold valueFrom
      dsimp only
      split
      · exact ih 0 _ _ _
      split
      · exact ih 0 _ _ _
      split
      · exact ih 1 _ _ _
      split
      · split
        · exact ih _ _ _ _
        · exact List.forall_mem_cons.mpr ⟨r.unclosedExpression_about _, ih 0 _ _ _⟩
      split
      · exact ih _ _ _ _
      · exact ih 0 _ _ _

theorem attributeValue_about (r : Reading) (offset : Nat) (t : Text) :
    ∀ x ∈ (r.attributeValue offset t).2.2.2, x.code ∈ codesOfTag := by
  unfold attributeValue
  split
  · split
    · exact r.valueFrom_about _ _ _ _ _
    · exact r.valueFrom_about _ _ _ _ _
  · exact fun _ none => absurd none List.not_mem_nil

theorem attribute'_about (r : Reading) (offset : Nat) (t : Text) :
    ∀ x ∈ (r.attribute' offset t).diagnostics, x.code ∈ codesOfTag := by
  unfold attribute'
  dsimp only
  split
  · exact fun _ none => absurd none List.not_mem_nil
  split
  · exact fun _ none => absurd none List.not_mem_nil
  · exact r.attributeValue_about _ _

theorem attributeCode_about (r : Reading) (offset : Nat) (t : Text) :
    ∀ x ∈ (r.attributeCode offset t).diagnostics, x.code ∈ codesOfTag := by
  unfold attributeCode
  split
  · exact fun _ none => absurd none List.not_mem_nil
  split
  · exact List.forall_mem_cons.mpr
      ⟨r.unclosedExpression_about _, fun _ none => absurd none List.not_mem_nil⟩
  · exact fun _ none => absurd none List.not_mem_nil

theorem attributes_about (r : Reading) (rounds : Nat) :
    ∀ (offset : Nat) (t : Text), ∀ x ∈ (r.attributes rounds offset t).diagnostics,
      x.code ∈ codesOfTag := by
  refine r.attributes_walk (Q := fun _ _ read => ∀ x ∈ read.diagnostics, x.code ∈ codesOfTag)
    (fun _ => List.forall_mem_nil _) ?_ rounds
  intro offset t read behind reads ih
  refine List.forall_mem_append.mpr ⟨?_, ih⟩
  cases reads with
  | code => exact r.attributeCode_about _ _
  | written =>
    exact List.forall_mem_append.mpr ⟨r.attributeCode_about _ _, r.attribute'_about _ _⟩

/-- The findings about a start tag are that it, or an expression in it, is not closed. -/
theorem startTag_about (r : Reading) (offset : Nat) (t : Text) :
    ∀ x ∈ (r.startTag offset t).diagnostics, x.code ∈ codesOfTag := by
  intro x member
  unfold startTag at member
  rcases List.mem_append.mp member with early | late
  · exact r.attributes_about _ _ _ x early
  · obtain ⟨_, single⟩ := List.mem_ite_nil_left.mp late
    rw [List.mem_singleton.mp single]
    exact List.mem_cons_of_mem _ List.mem_cons_self

end Reading

/-! ## The directives that were met -/

/-- The directives of a frame that were met. -/
def Frame.marks : Frame → List Mark
  | .element _ body => (Node.placesAll body.reverse).map markOf
  | .block start head _ _ body =>
    (start, head.descriptor) :: (Node.placesAll body.reverse).map markOf

namespace Machine

/-- The directives that were met, in the order of the text. -/
def marks (m : Machine) : List Mark :=
  (Node.placesAll m.root.reverse).map markOf ++ m.frames.reverse.flatMap Frame.marks

variable {m next : Machine} {g : Grammar}

theorem marks_emit (m : Machine) (n : Node) :
    (m.emit n).marks = m.marks ++ n.places.map markOf := by
  have single : Node.placesAll [n] = n.places := List.append_nil _
  unfold emit
  split
  · next top => simp [marks, top, Node.placesAll_append, single]
  · next tag body rest top =>
    simp [marks, top, Frame.marks, Node.placesAll_append, single]
  · next start head brace braces body rest top =>
    simp [marks, top, Frame.marks, Node.placesAll_append, single]

theorem marks_push (m : Machine) (f : Frame) :
    { m with frames := f :: m.frames }.marks = m.marks ++ f.marks := by
  simp [marks]

/-- A frame that is closed leaves its directives in the node that it becomes. -/
theorem marks_close {f : Frame} {rest : List Frame} (top : m.frames = f :: rest) {n : Node}
    (same : n.places.map markOf = f.marks) :
    ({ m with frames := rest }.emit n).marks = m.marks := by
  rw [marks_emit, same]
  simp [marks, top]

@[simp]
theorem emit_seen (m : Machine) (n : Node) : (m.emit n).seen = m.seen := by
  unfold emit
  split <;> rfl

@[simp]
theorem emit_found (m : Machine) (n : Node) : (m.emit n).found = m.found := by
  unfold emit
  split <;> rfl

/-! ## Constructs without directives -/

/-- Nothing was met that is a directive: the first places are the same, and what was found is of
another kind than repetitions. -/
structure Quiet (m next : Machine) : Prop where
  offset : next.offset = m.offset
  marks : next.marks = m.marks
  seen : next.seen = m.seen
  found : ∃ more : List Diagnostic,
    next.found = more ++ m.found ∧ ∀ x ∈ more, x.code ≠ .duplicateDirective

theorem Quiet.of_eq (offset : next.offset = m.offset) (marks : next.marks = m.marks)
    (seen : next.seen = m.seen) (found : next.found = m.found) : Quiet m next :=
  ⟨offset, marks, seen, [], found, fun _ none => absurd none List.not_mem_nil⟩

theorem Quiet.refl (m : Machine) : Quiet m m := .of_eq rfl rfl rfl rfl

theorem Quiet.trans {last : Machine} (first : Quiet m next) (second : Quiet next last) :
    Quiet m last := by
  obtain ⟨early, before, others⟩ := first.found
  obtain ⟨late, after, others'⟩ := second.found
  refine ⟨second.offset.trans first.offset, second.marks.trans first.marks,
    second.seen.trans first.seen, late ++ early, ?_, ?_⟩
  · rw [after, before, List.append_assoc]
  · intro x member
    exact (List.mem_append.mp member).elim (others' x) (others x)

theorem Quiet.emit (quiet : Quiet m next) {n : Node} (none : n.places = []) :
    Quiet m (next.emit n) := by
  apply quiet.trans
  apply Quiet.of_eq
  · simp
  · simp [marks_emit, none]
  · simp
  · simp

theorem Quiet.take (quiet : Quiet m next) (n : Nat) : Quiet m (next.take n) :=
  quiet.trans (.of_eq rfl rfl rfl rfl)

theorem Quiet.report (quiet : Quiet m next) {found : List Diagnostic}
    (others : ∀ x ∈ found, x.code ≠ .duplicateDirective) : Quiet m (next.report found) := by
  refine quiet.trans ⟨rfl, rfl, rfl, found.reverse, rfl, ?_⟩
  intro x member
  exact others x (List.mem_reverse.mp member)

theorem Quiet.single (quiet : Quiet m next) {x : Diagnostic}
    (other : x.code ≠ .duplicateDirective) : Quiet m (next.report [x]) := by
  apply quiet.report
  intro y member
  rw [List.mem_singleton.mp member]
  exact other

theorem Quiet.error (quiet : Quiet m next) {code : DiagnosticCode}
    (other : code ≠ .duplicateDirective) {span : Span} {message : Text} :
    Quiet m (next.report [.error code span message]) := quiet.single other

theorem Quiet.close (quiet : Quiet m next) {f : Frame} {rest : List Frame}
    (top : next.frames = f :: rest) {n : Node} (same : n.places.map markOf = f.marks) :
    Quiet m ({ next with frames := rest }.emit n) := by
  apply quiet.trans
  apply Quiet.of_eq
  · simp
  · exact marks_close top same
  · simp
  · simp

theorem quiet_flush (m : Machine) (file : Nat) : Quiet m (m.flush file) := by
  unfold flush
  split
  · exact .refl m
  · apply Quiet.emit
    · exact .of_eq rfl rfl rfl rfl
    · rfl

theorem quiet_literal (m : Machine) (b : UInt8) : Quiet m (m.literal b) := by
  refine .of_eq rfl ?_ rfl rfl
  unfold literal marks
  cases m.frames with
  | nil => rfl
  | cons f rest => cases f <;> simp [Frame.marks]

theorem Quiet.abandon (quiet : Quiet m next) (stop : Nat) : Quiet m (next.abandon g stop) := by
  unfold Machine.abandon
  split
  · exact quiet
  · next f rest top =>
    apply quiet.close top
    cases f <;> rfl

theorem Quiet.abandonMany (stop n : Nat) :
    ∀ {next : Machine}, Quiet m next → Quiet m (next.abandonMany g stop n) := by
  induction n with
  | zero =>
    intro next quiet
    exact quiet
  | succ n ih =>
    intro next quiet
    exact ih (quiet.abandon stop)

theorem quiet_finish (m : Machine) (g : Grammar) : Quiet m (m.finish g) :=
  (quiet_flush m g.file).abandonMany _ _

theorem Quiet.enclosed (quiet : Quiet m next) {t : Text} {closing? : Option Nat}
    {node : Span → Text → Node} {unclosed : Diagnostic}
    (none : ∀ span text, (node span text).places = [])
    (other : unclosed.code ≠ .duplicateDirective) :
    Quiet m (next.enclosed g t closing? node unclosed) := by
  unfold Machine.enclosed
  split
  · exact (quiet.emit (none _ _)).take _
  · exact ((quiet.single other).emit (none _ _)).take _

theorem Quiet.comment (quiet : Quiet m next) (t : Text) : Quiet m (next.comment g t) := by
  unfold Machine.comment
  split
  · exact (quiet.emit rfl).take _
  · exact ((quiet.error (by decide)).emit rfl).take _

theorem Quiet.markupComment (quiet : Quiet m next) (t : Text) :
    Quiet m (next.markupComment g t) := by
  unfold Machine.markupComment
  split
  · exact (quiet.emit rfl).take _
  · exact ((quiet.error (by decide)).emit rfl).take _

theorem Quiet.statement (quiet : Quiet m next) (t : Text) (n : Nat) :
    Quiet m (next.statement g t n) := by
  unfold Machine.statement
  dsimp only
  split
  · exact (quiet.emit rfl).take _
  · exact ((quiet.error (by decide)).emit rfl).take _

theorem Quiet.endTag (quiet : Quiet m next) (t : Text) : Quiet m (next.endTag g t) := by
  unfold Machine.endTag
  dsimp only
  split
  · next depth _ =>
    have abandoned := quiet.abandonMany (g := g) next.offset depth
    split
    · next tag body rest top => exact (abandoned.close top rfl).take _
    · exact abandoned.take _
  · exact ((quiet.error (by decide)).emit rfl).take _

theorem Quiet.closeBlock (quiet : Quiet m next) : Quiet m (next.closeBlock g) := by
  unfold Machine.closeBlock
  split
  · next top => exact (quiet.close top rfl).take _
  · exact quiet

theorem Quiet.openElement (quiet : Quiet m next) (tag : StartTag) :
    Quiet m { next with frames := .element tag [] :: next.frames } := by
  apply quiet.trans
  refine .of_eq rfl ?_ rfl rfl
  exact (marks_push ..).trans (List.append_nil _)

theorem Quiet.startTag (quiet : Quiet m next) (t : Text) : Quiet m (next.startTag g t) := by
  have reported : Quiet m (next.report (g.toReading.startTag next.offset t).diagnostics) := by
    apply quiet.report
    intro x member same
    have known := g.toReading.startTag_about _ _ x member
    rw [same] at known
    revert known
    decide
  unfold Machine.startTag
  dsimp only
  split
  · exact (reported.openElement _).take _
  · exact (reported.emit rfl).take _

/-- The construct at an at sign is the directive that is registered there, or none is met. -/
theorem transition_cases (m : Machine) (g : Grammar) (t : Text) :
    Quiet m (m.transition g t)
      ∨ ∃ d, g.directive? t = some d ∧ m.transition g t = m.directive g t d := by
  unfold transition
  dsimp only
  split
  · exact .inl (((Quiet.refl m).emit rfl).take _)
  split
  · exact .inl ((Quiet.refl m).comment t)
  split
  · exact .inl ((Quiet.refl m).enclosed (fun _ _ => rfl) (by exact nofun))
  split
  · exact .inl ((Quiet.refl m).enclosed (fun _ _ => rfl) (by exact nofun))
  split
  · split
    · next d known => exact .inr ⟨d, known, rfl⟩
    split
    · exact .inl ((Quiet.refl m).statement t _)
    · exact .inl (((Quiet.refl m).emit rfl).take _)
  · exact .inl ((((Quiet.refl m).error (by decide)).emit rfl).take _)

/-- At a byte the directive that is registered there is read, or none is met. -/
theorem look_cases (m : Machine) (g : Grammar) (b : UInt8) (rest : Text) :
    Quiet m (m.look g b rest)
      ∨ ∃ d, b = '@'.toUInt8 ∧ g.directive? (b :: rest) = some d
        ∧ m.look g b rest = (m.flush g.file).directive g (b :: rest) d := by
  have flushed := quiet_flush m g.file
  unfold look
  dsimp only
  split
  · exact .inl (.of_eq rfl rfl rfl rfl)
  split
  · exact .inl flushed.closeBlock
  split
  · next sign =>
    rcases transition_cases (m.flush g.file) g (b :: rest) with quiet | ⟨d, known, same⟩
    · exact .inl (flushed.trans quiet)
    · rw [Bool.and_eq_true] at sign
      exact .inr ⟨d, LawfulBEq.eq_of_beq sign.1, known, same⟩
  split
  · split
    · exact .inl (flushed.markupComment _)
    split
    · exact .inl (flushed.endTag _)
    split
    · exact .inl (flushed.startTag _)
    · exact .inl (quiet_literal m b)
  · exact .inl (quiet_literal m b)

/-! ## Directives -/

/-- A directive was met: it is noted, and it comes after those that were met before. -/
structure Met (g : Grammar) (d : DirectiveDescriptor) (m next : Machine) : Prop where
  offset : next.offset = m.offset
  marks : next.marks = m.marks ++ [(m.offset, d)]
  seen : next.seen = (m.noteOccurrence d (keywordSpan g.file (m.offset, d))).seen
  found : next.found = (m.noteOccurrence d (keywordSpan g.file (m.offset, d))).found

theorem directive_met (m : Machine) (g : Grammar) (t : Text) (d : DirectiveDescriptor) :
    Met g d m (m.directive g t d) := by
  obtain ⟨root, frames, -, place⟩ := noteOccurrence_keeps m d (keywordSpan g.file (m.offset, d))
  have before : (m.noteOccurrence d (keywordSpan g.file (m.offset, d))).marks = m.marks := by
    unfold marks
    rw [root, frames]
  -- A directive whose block is not opened is added at once, wherever it ends.
  have whole : ∀ (length : Nat) (span : Span) (head : DirectiveHead), span.start = m.offset →
      head.descriptor = d →
        Met g d m (((m.noteOccurrence d (keywordSpan g.file (m.offset, d))).emit
          (.directive span head [])).take length) := by
    intro length span head starts same
    have mark : (Node.directive span head []).places.map markOf = [(m.offset, d)] := by
      rw [← starts, ← same]
      rfl
    refine ⟨(emit_offset ..).trans place, ?_, emit_seen .., emit_found ..⟩
    exact (marks_emit ..).trans (by rw [before, mark])
  unfold directive
  dsimp only
  split
  · exact whole _ _ _ rfl rfl
  split
  · exact whole _ _ _ rfl rfl
  · exact ⟨place, (marks_push ..).trans (congrArg (· ++ _) before), rfl, rfl⟩

/-! ## What is noted -/

section

variable {d : DirectiveDescriptor} {keyword : Span}

theorem noteOccurrence_free (free : d.usage ≠ .fileScopedOnce) :
    m.noteOccurrence d keyword = m := by
  unfold noteOccurrence
  rw [if_pos (bne_iff_ne.mpr free)]

theorem noteOccurrence_first (once : d.usage = .fileScopedOnce)
    (fresh : m.seen.find? (fun e => e.1 == d.keyword) = none) :
    m.noteOccurrence d keyword = { m with seen := (d.keyword, keyword) :: m.seen } := by
  unfold noteOccurrence
  rw [if_neg (by simp [once]), fresh]

theorem noteOccurrence_again (once : d.usage = .fileScopedOnce) {e : Text × Span}
    (kept : m.seen.find? (fun e => e.1 == d.keyword) = some e) :
    m.noteOccurrence d keyword = m.report [repetition d.keyword keyword e.2] := by
  unfold noteOccurrence
  rw [if_neg (by simp [once]), kept]
  rfl

end

/-- Of each directive that may occur only once the first place is kept and the later ones were
reported; nothing else was reported as a repetition. -/
structure Noted (g : Grammar) (content : Text) (m : Machine) : Prop where
  first : ∀ {keyword : Text}, OccursOnce g.directives keyword →
    m.seen.find? (fun e => e.1 == keyword)
      = (m.marks.filter (·.2.keyword == keyword)).head?.map
          fun mark => (keyword, keywordSpan g.file mark)
  later : ∀ {keyword : Text}, OccursOnce g.directives keyword →
    m.found.reverse.filter (isRepetition content keyword)
      = repetitions g.file keyword (m.marks.filter (·.2.keyword == keyword))
  others : ∀ x ∈ m.found, x.code = .duplicateDirective →
    ∃ keyword, OccursOnce g.directives keyword ∧ isRepetition content keyword x = true

variable {content : Text}

theorem Noted.quiet (noted : m.Noted g content) (quiet : Quiet m next) : next.Noted g content := by
  obtain ⟨more, found, others⟩ := quiet.found
  refine ⟨?_, ?_, ?_⟩
  · intro keyword once
    rw [quiet.seen, quiet.marks]
    exact noted.first once
  · intro keyword once
    have none : more.reverse.filter (isRepetition content keyword) = [] := by
      apply List.filter_eq_nil_iff.mpr
      intro x member repeated
      rw [isRepetition, Bool.and_eq_true, beq_iff_eq] at repeated
      exact others x (List.mem_reverse.mp member) repeated.1
    rw [found, List.reverse_append, List.filter_append, none, List.append_nil, quiet.marks]
    exact noted.later once
  · intro x member
    rw [found] at member
    intro same
    rcases List.mem_append.mp member with new | old
    · exact absurd same (others x new)
    · exact noted.others x old same

theorem Met.filter_self {d : DirectiveDescriptor} (met : Met g d m next) :
    next.marks.filter (·.2.keyword == d.keyword)
      = m.marks.filter (·.2.keyword == d.keyword) ++ [(m.offset, d)] := by
  simp [met.marks]

theorem Met.filter_of_ne {d : DirectiveDescriptor} (met : Met g d m next) {keyword : Text}
    (other : d.keyword ≠ keyword) :
    next.marks.filter (·.2.keyword == keyword) = m.marks.filter (·.2.keyword == keyword) := by
  simp [met.marks, other]

/-- A directive that may occur more than once is not noted. -/
theorem Noted.met_free (noted : m.Noted g content) {d : DirectiveDescriptor}
    (met : Met g d m next) (known : g.directives.find? (fun e => e.keyword == d.keyword) = some d)
    (free : d.usage ≠ .fileScopedOnce) : next.Noted g content := by
  have seen := met.seen
  have found := met.found
  rw [noteOccurrence_free free] at seen found
  have other : ∀ {keyword : Text}, OccursOnce g.directives keyword → d.keyword ≠ keyword := by
    rintro keyword ⟨e, first, once⟩ rfl
    rw [known] at first
    cases first
    exact free once
  refine ⟨?_, ?_, ?_⟩
  · intro keyword once
    rw [seen, met.filter_of_ne (other once)]
    exact noted.first once
  · intro keyword once
    rw [found, met.filter_of_ne (other once)]
    exact noted.later once
  · rw [found]
    exact noted.others

/-- The first directive of a keyword is kept, and nothing is reported. -/
theorem Noted.met_first (noted : m.Noted g content) {d : DirectiveDescriptor}
    (met : Met g d m next) (own : OccursOnce g.directives d.keyword)
    (once : d.usage = .fileScopedOnce)
    (before : m.marks.filter (·.2.keyword == d.keyword) = []) : next.Noted g content := by
  have fresh : m.seen.find? (fun e => e.1 == d.keyword) = none := by
    rw [noted.first own, before]
    rfl
  have seen := met.seen
  have found := met.found
  rw [noteOccurrence_first once fresh] at seen found
  refine ⟨?_, ?_, ?_⟩
  · intro keyword among
    rw [seen]
    by_cases same : d.keyword = keyword
    · subst same
      rw [met.filter_self, before]
      simp
    · rw [met.filter_of_ne same, ← noted.first among]
      simp [same]
  · intro keyword among
    rw [found]
    by_cases same : d.keyword = keyword
    · subst same
      rw [met.filter_self, before]
      have none := noted.later among
      rw [before] at none
      exact none
    · rw [met.filter_of_ne same]
      exact noted.later among
  · rw [found]
    exact noted.others

/-- A later directive of a keyword is reported with the place of the first one. -/
theorem Noted.met_again (noted : m.Noted g content) {d : DirectiveDescriptor}
    (met : Met g d m next) (own : OccursOnce g.directives d.keyword)
    (once : d.usage = .fileScopedOnce)
    (written : content.slice m.offset (m.offset + (1 + d.keyword.length)) = "@" ++ d.keyword)
    {first : Mark} {others : List Mark}
    (before : m.marks.filter (·.2.keyword == d.keyword) = first :: others) :
    next.Noted g content := by
  have kept : m.seen.find? (fun e => e.1 == d.keyword)
      = some (d.keyword, keywordSpan g.file first) := by
    rw [noted.first own, before]
    rfl
  have seen := met.seen
  have found := met.found
  rw [noteOccurrence_again once kept] at seen found
  have about := @isRepetition_repetition content (m.offset, d) written g.file
    (keywordSpan g.file first)
  refine ⟨?_, ?_, ?_⟩
  · intro keyword among
    have kept : m.seen.find? _ = _ := noted.first among
    rw [seen, report, kept]
    by_cases same : d.keyword = keyword
    · subst same
      rw [met.filter_self, before]
      rfl
    · rw [met.filter_of_ne same]
  · intro keyword among
    rw [found, report, List.reverse_append, List.reverse_reverse, List.filter_append,
      noted.later among, List.filter_cons, about, List.filter_nil]
    by_cases same : d.keyword = keyword
    · subst same
      rw [met.filter_self, before, repetitions_concat, beq_self_eq_true]
      rfl
    · rw [met.filter_of_ne same, beq_eq_false_iff_ne.mpr same]
      exact List.append_nil _
  · intro x member duplicate
    rw [found] at member
    rcases List.mem_cons.mp member with rfl | old
    · exact ⟨d.keyword, own, (about _).trans (beq_self_eq_true _)⟩
    · exact noted.others x old duplicate

theorem Noted.met (noted : m.Noted g content) {d : DirectiveDescriptor} (met : Met g d m next)
    (known : g.directives.find? (fun e => e.keyword == d.keyword) = some d)
    (written : content.slice m.offset (m.offset + (1 + d.keyword.length)) = "@" ++ d.keyword) :
    next.Noted g content := by
  by_cases once : d.usage = .fileScopedOnce
  · cases before : m.marks.filter (·.2.keyword == d.keyword) with
    | nil => exact noted.met_first met ⟨d, known, once⟩ once before
    | cons first others => exact noted.met_again met ⟨d, known, once⟩ once written before
  · exact noted.met_free met known once

/-! ## The whole file -/

theorem known_of_directive? {t : Text} {d : DirectiveDescriptor} (found : g.directive? t = some d) :
    g.directives.find? (fun e => e.keyword == d.keyword) = some d := by
  unfold Grammar.directive? at found
  dsimp only at found
  split at found
  · cases found
  · next isFound =>
    split at found
    · cases found
    · cases found
      have same := List.find?_some isFound
      rw [eq_of_beq same]
      exact isFound

theorem written_of_directive? {offset : Nat} {rest : Text} {d : DirectiveDescriptor}
    (ahead : content.drop offset = '@'.toUInt8 :: rest)
    (found : g.directive? ('@'.toUInt8 :: rest) = some d) :
    content.slice offset (offset + (1 + d.keyword.length)) = "@" ++ d.keyword := by
  obtain ⟨behind, same⟩ := keyword_of_directive? found
  rw [List.drop_one, List.tail_cons] at same
  rw [← Text.take_drop_eq_slice, ahead, same, Nat.add_comm 1, List.take_succ_cons, List.take_left]
  rfl

/-- A look at a byte meets at most one directive, and the text ahead is its keyword. -/
theorem Noted.look (noted : m.Noted g content) {b : UInt8} {rest : Text}
    (ahead : content.drop m.offset = b :: rest) :
    (m.look g b rest).Noted g content ∧ (m.look g b rest).offset = m.offset := by
  rcases look_cases m g b rest with quiet | ⟨d, rfl, found, same⟩
  · exact ⟨noted.quiet quiet, quiet.offset⟩
  · have flushed := quiet_flush m g.file
    have met := directive_met (m.flush g.file) g ('@'.toUInt8 :: rest) d
    rw [← flushed.offset] at ahead
    rw [same]
    constructor
    · exact (noted.quiet flushed).met met (known_of_directive? found)
        (written_of_directive? ahead found)
    · exact met.offset.trans flushed.offset

theorem Noted.run (t : Text) :
    ∀ {m : Machine}, m.Noted g content → content.drop m.offset = t →
      (m.run g t).Noted g content := by
  induction t with
  | nil =>
    intro m noted _
    exact noted
  | cons b rest ih =>
    intro m noted ahead
    have behind : content.drop (m.offset + 1) = rest := by
      rw [← List.drop_drop, ahead, List.drop_one, List.tail_cons]
    unfold Machine.run
    split
    · exact ih ⟨noted.first, noted.later, noted.others⟩ behind
    · obtain ⟨looked, place⟩ := noted.look ahead
      dsimp only
      split
      · exact looked
      · have advanced : ((m.look g b rest).advance b).Noted g content :=
          ⟨looked.first, looked.later, looked.others⟩
        apply ih advanced
        change content.drop ((m.look g b rest).offset + 1) = rest
        rw [place]
        exact behind

theorem noted_start (g : Grammar) (content : Text) : Noted g content {} :=
  ⟨fun _ => rfl, fun _ => rfl, fun _ none => absurd none List.not_mem_nil⟩

theorem abandonMany_frames (g : Grammar) (stop n : Nat) :
    ∀ {m : Machine}, m.frames.length = n → (m.abandonMany g stop n).frames = [] := by
  induction n with
  | zero =>
    intro m none
    exact List.length_eq_zero_iff.mp none
  | succ n ih =>
    intro m many
    apply ih
    unfold Machine.abandon
    split
    · next top =>
      rw [top] at many
      cases many
    · next f rest top =>
      rw [top, List.length_cons] at many
      exact (length_frames_emit _ _).trans (Nat.succ.inj many)

theorem finish_frames (m : Machine) (g : Grammar) : (m.finish g).frames = [] :=
  abandonMany_frames g _ _ rfl

end Machine

/-- Repeated directives are reported exactly.  Of the directives of a tree whose keyword may occur
only once, by the last definition given for it, each but the first is reported, in the order of the
tree, at its own keyword and with the keyword of the first one as a note.  There are no other
findings of this kind about the tree, and none about a directive, so that no directive is malformed
because it is repeated. -/
theorem parse_repeats (file : SourceFile) (options : ParserOptions) :
    let tree := parse file options
    (∀ keyword, OccursOnce options.directives.reverse keyword →
      let places := tree.places.filter (·.2.descriptor.keyword == keyword)
      let found := tree.diagnostics.filter (isRepetition file.content keyword)
      found = repetitions file.id keyword (places.map markOf) ∧ found.length = places.length - 1)
    ∧ (∀ x ∈ tree.diagnostics, x.code = .duplicateDirective →
      ∃ keyword, OccursOnce options.directives.reverse keyword
        ∧ isRepetition file.content keyword x = true)
    ∧ ∀ head ∈ tree.directives, ∀ x ∈ head.diagnostics, x.code ≠ .duplicateDirective := by
  have start := Machine.noted_start (Grammar.ofOptions file.id options) file.content
  have noted := (start.run file.content rfl).quiet
    (Machine.quiet_finish _ (Grammar.ofOptions file.id options))
  refine ⟨?_, ?_, ?_⟩
  · intro keyword once places found
    have marks : ((parse file options).places.map markOf).filter (·.2.keyword == keyword)
        = places.map markOf := List.filter_map
    have same : found = repetitions file.id keyword (places.map markOf) := by
      rw [← marks]
      refine (noted.later once).trans ?_
      rw [Machine.marks, Machine.finish_frames]
      exact congrArg (fun marks => repetitions file.id keyword (List.filter _ marks))
        (List.append_nil _)
    refine ⟨same, ?_⟩
    rw [same, length_repetitions, List.length_map]
  · intro x member
    exact noted.others x (List.mem_reverse.mp member)
  · -- What is found about a directive goes to its node, but for this one kind.
    intro head among x member same
    have reported := Node.directivesAll_reported (parse_reported file options) head among
    have known := (reported.findings x member).code
    rw [same] at known
    revert known
    decide

/-- A directive in a section and one without a token are repetitions as any other.  The one in the
section is reported before the one behind it, although the section is closed between them. -/
theorem parse_repeats_in_section :
    let options : ParserOptions := { directives := [.sectionBlock, .model] }
    let file := SourceFile.ofContent 0 "page.quill"
      "@model Trip\n@section Map \x7b@model Stay\n\x7d\n@model" .none
    OccursOnce options.directives.reverse "model"
      ∧ (parse file options).diagnostics.filter (isRepetition file.content "model")
        = [repetition "model" ⟨0, 26, 32⟩ ⟨0, 0, 6⟩, repetition "model" ⟨0, 40, 46⟩ ⟨0, 0, 6⟩] := by
  intro options file
  have once : OccursOnce options.directives.reverse "model" := ⟨.model, by decide +kernel, rfl⟩
  have reported := ((parse_repeats file options).1 "model" once).1
  exact ⟨once, reported.trans (by decide +kernel)⟩

end Syntax

end TemplateCompiler
