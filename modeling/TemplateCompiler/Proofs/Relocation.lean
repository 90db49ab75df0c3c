import TemplateCompiler.Syntax.Normalize
import TemplateCompiler.Syntax.Parser

/-!
# Relocation

The number of a file says nothing about its content, yet every span carries one.  A `Relocation`
gives spans new places; it is carried through findings and syntax trees here.

The parser compares no file numbers.  A file that is parsed under another number has the same tree,
moved to that number (`Syntax.parse_toFile`).  The proof follows the readers and the machine of the
parser: each of them, started on relocated data, ends with relocated data.
-/

namespace TemplateCompiler

/-- New places for spans.  Whatever speaks of places in files can be relocated, and parsing,
lowering and the passes do to what was relocated what they do to the rest. -/
structure Relocation where
  span : Span → Span

/-- The places that a finding speaks of, its own first and then those of its notes. -/
def Diagnostic.spans (d : Diagnostic) : List Span := d.span?.toList ++ d.notes.map (·.span)

theorem Diagnostic.span?_of_spans_nil {d : Diagnostic} (none : d.spans = []) : d.span? = .none :=
  Option.toList_eq_nil_iff.mp (List.append_eq_nil_iff.mp none).1

namespace Relocation

def finding (r : Relocation) (d : Diagnostic) : Diagnostic :=
  { d with
    span? := d.span?.map r.span
    notes := d.notes.map fun n => { n with span := r.span n.span } }

/-- Everything is in one file, whatever file it was in. -/
def toFile (file : Nat) : Relocation := ⟨fun s => { s with file }⟩

/-- Every file has another number, as in a session that has read the files in another order. -/
def renumber (number : Nat → Nat) : Relocation := ⟨fun s => { s with file := number s.file }⟩

def after (r q : Relocation) : Relocation := ⟨r.span ∘ q.span⟩

variable (r q : Relocation) (k : Nat)

@[simp]
theorem finding_error (code : DiagnosticCode) (span : Span) (message : Text) :
    r.finding (.error code span message) = .error code (r.span span) message := rfl

@[simp]
theorem finding_withNote (d : Diagnostic) (span : Span) (message : Text) :
    r.finding (d.withNote span message) = (r.finding d).withNote (r.span span) message := by
  simp [finding, Diagnostic.withNote]

theorem spans_finding (d : Diagnostic) : (r.finding d).spans = d.spans.map r.span := by
  rw [Diagnostic.spans, Diagnostic.spans, finding, List.map_append, List.map_map, List.map_map]
  cases d.span? <;> rfl

/-- A finding stays where it is if its places do. -/
theorem finding_of_fixed {d : Diagnostic} (fixed : ∀ s ∈ d.spans, r.span s = s) :
    r.finding d = d := by
  rcases d with ⟨severity, code, message, span?, notes⟩
  obtain ⟨own, others⟩ := List.forall_mem_append.mp fixed
  have span : span?.map r.span = span? := by
    cases span? with
    | none => rfl
    | some s => exact congrArg some (own s List.mem_cons_self)
  have places : (notes.map fun n => { n with span := r.span n.span }) = notes := by
    refine (List.map_congr_left fun n member => ?_).trans (List.map_id notes)
    rw [others n.span (List.mem_map_of_mem member)]
    rfl
  rw [finding]
  dsimp only
  rw [span, places]

@[simp]
theorem isError_finding (d : Diagnostic) : (r.finding d).isError = d.isError := rfl

@[simp]
theorem finding_finding (d : Diagnostic) : r.finding (q.finding d) = (r.after q).finding d := by
  simp [finding, after, Function.comp_def]

theorem toFile_after_toFile (j : Nat) : (toFile k).after (toFile j) = toFile k := rfl

/-- What is in one file moves to the new number of that file. -/
theorem renumber_after_toFile (number : Nat → Nat) :
    (renumber number).after (toFile k) = toFile (number k) := rfl

@[simp]
theorem start_toFile (s : Span) : ((toFile k).span s).start = s.start := rfl

@[simp]
theorem stop_toFile (s : Span) : ((toFile k).span s).stop = s.stop := rfl

end Relocation

namespace Syntax

/-! ## Trees -/

def ValuePart.relocate (r : Relocation) : ValuePart → ValuePart
  | text s t => text (r.span s) t
  | transition s => transition (r.span s)
  | code s c explicit => code (r.span s) c explicit

def Attribute.relocate (r : Relocation) (a : Attribute) : Attribute :=
  { a with
    span := r.span a.span
    value := a.value.map (ValuePart.relocate r)
    nameSpan := r.span a.nameSpan }

def StartTag.relocate (r : Relocation) (t : StartTag) : StartTag :=
  { t with span := r.span t.span, attributes := t.attributes.map (Attribute.relocate r) }

def DirectiveToken.relocate (r : Relocation) (t : DirectiveToken) : DirectiveToken :=
  { t with span := r.span t.span }

def DirectiveHead.relocate (r : Relocation) (h : DirectiveHead) : DirectiveHead :=
  { h with
    tokens := h.tokens.map (DirectiveToken.relocate r), diagnostics := h.diagnostics.map r.finding }

def HelperAttribute.relocate (r : Relocation) (a : HelperAttribute) : HelperAttribute :=
  { a with span := r.span a.span, value := a.value.map (ValuePart.relocate r) }

def HelperHead.relocate (r : Relocation) (h : HelperHead) : HelperHead :=
  { h with
    attributes := h.attributes.map (HelperAttribute.relocate r), startTag := r.span h.startTag }

namespace Node

mutual

def relocate (r : Relocation) : Node → Node
  | text s t => text (r.span s) t
  | element s tag endTag? body =>
    element (r.span s) (tag.relocate r) (endTag?.map r.span) (relocateAll r body)
  | markupComment s t => markupComment (r.span s) t
  | transition s => transition (r.span s)
  | expression s c explicit => expression (r.span s) c explicit
  | codeBlock s c statement => codeBlock (r.span s) c statement
  | directive s head body => directive (r.span s) (head.relocate r) (relocateAll r body)
  | comment s t => comment (r.span s) t
  | helper s head body => helper (r.span s) (head.relocate r) (relocateAll r body)

def relocateAll (r : Relocation) : List Node → List Node
  | [] => []
  | n :: ns => relocate r n :: relocateAll r ns

end

theorem relocateAll_eq_map (r : Relocation) (ns : List Node) :
    relocateAll r ns = ns.map (relocate r) := by
  induction ns with
  | nil => rfl
  | cons n ns ih => rw [relocateAll, ih, List.map_cons]

theorem relocateAll_reverse (r : Relocation) (ns : List Node) :
    relocateAll r ns.reverse = (relocateAll r ns).reverse := by
  rw [relocateAll_eq_map, relocateAll_eq_map, List.map_reverse]

end Node

/-! Relocating twice is relocating once. -/

section After

variable (r q : Relocation)

theorem ValuePart.relocate_relocate (p : ValuePart) :
    (p.relocate q).relocate r = p.relocate (r.after q) := by
  cases p <;> rfl

theorem Attribute.relocate_relocate (a : Attribute) :
    (a.relocate q).relocate r = a.relocate (r.after q) := by
  simp [Attribute.relocate, Relocation.after, ValuePart.relocate_relocate, Function.comp_def]

theorem StartTag.relocate_relocate (t : StartTag) :
    (t.relocate q).relocate r = t.relocate (r.after q) := by
  simp [StartTag.relocate, Attribute.relocate_relocate, Relocation.after, Function.comp_def]

theorem DirectiveHead.relocate_relocate (h : DirectiveHead) :
    (h.relocate q).relocate r = h.relocate (r.after q) := by
  simp [DirectiveHead.relocate, DirectiveToken.relocate, Relocation.after, Function.comp_def]

theorem HelperHead.relocate_relocate (h : HelperHead) :
    (h.relocate q).relocate r = h.relocate (r.after q) := by
  simp [HelperHead.relocate, HelperAttribute.relocate, ValuePart.relocate_relocate,
    Relocation.after, Function.comp_def]

namespace Node

mutual

theorem relocate_relocate (n : Node) : relocate r (relocate q n) = relocate (r.after q) n := by
  cases n with
  | element s tag endTag? body =>
    simp only [relocate, StartTag.relocate_relocate, relocateAll_relocateAll body,
      Option.map_map]
    rfl
  | directive s head body =>
    simp only [relocate, DirectiveHead.relocate_relocate, relocateAll_relocateAll body]
    rfl
  | helper s head body =>
    simp only [relocate, HelperHead.relocate_relocate, relocateAll_relocateAll body]
    rfl
  | _ => rfl

theorem relocateAll_relocateAll (ns : List Node) :
    relocateAll r (relocateAll q ns) = relocateAll (r.after q) ns := by
  cases ns with
  | nil => rfl
  | cons n ns =>
    rw [relocateAll, relocateAll, relocateAll, relocate_relocate n, relocateAll_relocateAll ns]

end

end Node

end After

/-! ## Readers -/

namespace Reading

def inFile (r : Reading) (k : Nat) : Reading := { r with file := k }

variable (r : Reading) (k : Nat)

@[simp]
theorem span_inFile (start stop : Nat) :
    (r.inFile k).span start stop = (Relocation.toFile k).span (r.span start stop) := rfl

@[simp]
theorem unclosedExpression_inFile (offset : Nat) :
    (r.inFile k).unclosedExpression offset =
      (Relocation.toFile k).finding (r.unclosedExpression offset) := rfl

@[simp]
theorem unclosedBlock_inFile (keyword : Text) (brace : Nat) :
    (r.inFile k).unclosedBlock keyword brace =
      (Relocation.toFile k).finding (r.unclosedBlock keyword brace) := rfl

theorem gathered_inFile (offset : Nat) (pending : Text) (parts : List ValuePart) :
    (r.inFile k).gathered offset pending (parts.map (ValuePart.relocate (.toFile k))) =
      (r.gathered offset pending parts).map (ValuePart.relocate (.toFile k)) := by
  rw [gathered, gathered]
  split <;> rfl

/-- Parts of a value with the findings about it, relocated. -/
def movedValue (v : List ValuePart × List Diagnostic) : List ValuePart × List Diagnostic :=
  (v.1.map (ValuePart.relocate (.toFile k)), v.2.map (Relocation.toFile k).finding)

theorem valueFrom_inFile (skip offset : Nat) (previous? : Option UInt8) (pending t : Text) :
    (r.inFile k).valueFrom skip offset previous? pending t =
      movedValue k (r.valueFrom skip offset previous? pending t) := by
  induction t generalizing skip offset previous? pending with
  | nil =>
    have empty : ∀ q : Reading, q.valueFrom skip offset previous? pending [] =
        (q.gathered offset pending [], []) := by
      intro q
      cases skip <;> rfl
    rw [empty, empty, movedValue, ← gathered_inFile]
    rfl
  | cons b t ih =>
    cases skip with
    | succ skip => exact ih skip (offset + 1) (some b) pending
    | zero =>
      have literal := ih 0 (offset + 1) (some b) (b :: pending)
      have part : ∀ {p q : ValuePart} (n : Nat), q = p.relocate (.toFile k) →
          ((r.inFile k).gathered offset pending (q ::
              ((r.inFile k).valueFrom n (offset + 1) (some b) [] t).1),
            ((r.inFile k).valueFrom n (offset + 1) (some b) [] t).2) =
          movedValue k (r.gathered offset pending
              (p :: (r.valueFrom n (offset + 1) (some b) [] t).1),
            (r.valueFrom n (offset + 1) (some b) [] t).2) := by
        rintro p q n rfl
        rw [ih, movedValue, movedValue, ← gathered_inFile, List.map_cons]
      have features : (r.inFile k).features = r.features := rfl
      rw [valueFrom.eq_def, valueFrom.eq_def r, features]
      cases t with
      | nil => exact literal
      | cons c t =>
        dsimp only
        split
        · exact literal
        · split
          · exact part 1 rfl
          · split
            · split
              · exact part _ rfl
              · rw [literal]
                rfl
            · split
              · exact part _ rfl
              · exact literal

theorem quotedLength_inFile (quote : UInt8) (skip : Nat) (t : Text) :
    (r.inFile k).quotedLength quote skip t = r.quotedLength quote skip t := by
  have features : (r.inFile k).features = r.features := rfl
  fun_induction quotedLength r quote skip t <;> grind [quotedLength]

theorem attributeValue_inFile (offset : Nat) (t : Text) :
    (r.inFile k).attributeValue offset t =
      let (parts, quote?, length, found) := r.attributeValue offset t
      ((movedValue k (parts, found)).1, quote?, length, (movedValue k (parts, found)).2) := by
  cases t with
  | nil => rfl
  | cons quote rest =>
    rw [attributeValue, attributeValue]
    simp only [value, valueFrom_inFile, quotedLength_inFile]
    split <;> rfl

def AttributeReading.relocate (q : Relocation) (a : AttributeReading) : AttributeReading :=
  { a with
    attribute? := a.attribute?.map (Attribute.relocate q)
    diagnostics := a.diagnostics.map q.finding }

theorem attribute'_inFile (offset : Nat) (t : Text) :
    (r.inFile k).attribute' offset t = (r.attribute' offset t).relocate (.toFile k) := by
  rw [attribute', attribute']
  simp only [attributeValue_inFile]
  split
  · rfl
  · split <;> rfl

theorem attributeCode_inFile (offset : Nat) (t : Text) :
    (r.inFile k).attributeCode offset t = (r.attributeCode offset t).relocate (.toFile k) := by
  have features : (r.inFile k).features = r.features := rfl
  rw [attributeCode, attributeCode, features]
  split
  · rfl
  · split <;> rfl

def AttributesReading.relocate (q : Relocation) (a : AttributesReading) : AttributesReading :=
  { a with
    attributes := a.attributes.map (Attribute.relocate q)
    diagnostics := a.diagnostics.map q.finding }

theorem AttributesReading.relocate_after (q : Relocation) (rest : AttributesReading)
    (skipped : Nat) (a : AttributeReading) :
    (rest.relocate q).after skipped (a.relocate q) = (rest.after skipped a).relocate q := by
  cases a with
  | mk attribute? length diagnostics =>
    cases attribute? <;>
      simp [AttributesReading.relocate, AttributesReading.after, AttributeReading.relocate]

theorem attributes_inFile (rounds offset : Nat) (t : Text) :
    (r.inFile k).attributes rounds offset t =
      (r.attributes rounds offset t).relocate (.toFile k) := by
  induction rounds generalizing offset t with
  | zero => rfl
  | succ rounds ih =>
    rw [attributes, attributes]
    simp only [attributeCode_inFile, attribute'_inFile, ih]
    split
    · rfl
    · split
      · rfl
      · split
        · rfl
        · split
          · rfl
          · have same : ∀ a : AttributeReading,
                (a.relocate (.toFile k)).attribute?.isSome = a.attribute?.isSome := by
              intro a
              cases a with
              | mk attribute? => cases attribute? <;> rfl
            rw [same]
            split
            · exact AttributesReading.relocate_after _ _ _ _
            · rw [← AttributesReading.relocate_after]
              simp only [AttributeReading.relocate, List.map_append]

def StartTagReading.relocate (q : Relocation) (s : StartTagReading) : StartTagReading :=
  { s with tag := s.tag.relocate q, diagnostics := s.diagnostics.map q.finding }

theorem startTag_inFile (offset : Nat) (t : Text) :
    (r.inFile k).startTag offset t = (r.startTag offset t).relocate (.toFile k) := by
  rw [startTag, startTag]
  simp only [attributes_inFile]
  rw [StartTagReading.relocate]
  dsimp only
  rw [List.map_append]
  rw [apply_ite (List.map _)]
  rfl

def TokensReading.relocate (q : Relocation) (ts : TokensReading) : TokensReading :=
  { ts with
    tokens := ts.tokens.map (DirectiveToken.relocate q)
    diagnostics := ts.diagnostics.map q.finding }

theorem tokens_inFile (d : DirectiveDescriptor) (slots : List DirectiveSlot) (offset : Nat)
    (t : Text) :
    (r.inFile k).tokens d slots offset t = (r.tokens d slots offset t).relocate (.toFile k) := by
  induction slots generalizing offset t with
  | nil => rfl
  | cons slot slots ih =>
    rw [tokens, tokens]
    dsimp only
    split
    · split <;> rfl
    · split
      · rfl
      · rw [ih]
        rfl

theorem lineEnding_inFile (keyword : Text) (offset : Nat) (t : Text) :
    (r.inFile k).lineEnding keyword offset t =
      ((r.lineEnding keyword offset t).1,
        (r.lineEnding keyword offset t).2.map (Relocation.toFile k).finding) := by
  rw [lineEnding, lineEnding]
  dsimp only
  rw [apply_ite (List.map (Relocation.toFile k).finding)]
  rfl

def DirectiveBody.relocate (q : Relocation) : DirectiveBody → DirectiveBody
  | .done length code found => .done length code (found.map q.finding)
  | .opens brace => .opens brace

theorem directiveBody_inFile (d : DirectiveDescriptor) (offset : Nat) (t : Text) :
    (r.inFile k).directiveBody d offset t = (r.directiveBody d offset t).relocate (.toFile k) := by
  rw [directiveBody, directiveBody, lineEnding_inFile]
  dsimp only
  split
  · rfl
  · split
    · rfl
    · split
      · rfl
      · split <;> rfl

end Reading

/-! ## The machine -/

def Frame.relocate (r : Relocation) : Frame → Frame
  | element tag body => element (tag.relocate r) (Node.relocateAll r body)
  | block start head brace braces body =>
    block start (head.relocate r) brace braces (Node.relocateAll r body)

def Grammar.inFile (g : Grammar) (k : Nat) : Grammar := { g with toReading := g.toReading.inFile k }

@[simp]
theorem Grammar.toReading_inFile (g : Grammar) (k : Nat) :
    (g.inFile k).toReading = g.toReading.inFile k := rfl

namespace Machine

def relocate (r : Relocation) (m : Machine) : Machine :=
  { m with
    root := Node.relocateAll r m.root
    frames := m.frames.map (Frame.relocate r)
    seen := m.seen.map fun e => (e.1, r.span e.2)
    found := m.found.map r.finding }

variable (k : Nat) (g : Grammar)

section Moves

variable (r : Relocation) (m : Machine)

theorem emit_relocate (n : Node) :
    (m.relocate r).emit (n.relocate r) = (m.emit n).relocate r := by
  rcases m with ⟨offset, skip, previous?, pending, root, frames, seen, found, stopped⟩
  cases frames with
  | nil => rfl
  | cons f frames => cases f <;> rfl

theorem report_relocate (ds : List Diagnostic) :
    (m.relocate r).report (ds.map r.finding) = (m.report ds).relocate r := by
  simp [report, relocate]

theorem take_relocate (n : Nat) : (m.relocate r).take n = (m.take n).relocate r := rfl

theorem literal_relocate (b : UInt8) :
    (m.relocate r).literal b = (m.literal b).relocate r := by
  rcases m with ⟨offset, skip, previous?, pending, root, frames, seen, found, stopped⟩
  cases frames with
  | nil => rfl
  | cons f frames => cases f <;> rfl

theorem closesBlock_relocate (b : UInt8) :
    (m.relocate r).closesBlock b = m.closesBlock b := by
  rcases m with ⟨offset, skip, previous?, pending, root, frames, seen, found, stopped⟩
  cases frames with
  | nil => rfl
  | cons f frames =>
    cases f with
    | element => rfl
    | block start head brace braces body => cases braces <;> rfl

theorem closes?_relocate (e : Reading.EndTagReading) (frames : List Frame) :
    closes? e (frames.map (Frame.relocate r)) = closes? e frames := by
  induction frames with
  | nil => rfl
  | cons f frames ih =>
    cases f with
    | block => rfl
    | element tag body =>
      rw [List.map_cons, Frame.relocate, closes?, closes?, ih]
      rfl

end Moves

/-! What the machine does in a file with another number. -/

section Steps

variable (m : Machine)

theorem flush_toFile (file : Nat) :
    (m.relocate (.toFile k)).flush k = (m.flush file).relocate (.toFile k) := by
  rw [flush, flush]
  change (if m.pending.isEmpty then _ else _) = _
  split
  · rfl
  · exact emit_relocate (.toFile k) { m with pending := [] }
      (.text ⟨file, m.offset - m.pending.length, m.offset⟩ m.pending.reverse)

theorem unfinished_toFile (stop : Nat) (f : Frame) :
    unfinished (g.inFile k) stop (f.relocate (.toFile k)) =
      (unfinished g stop f).relocate (.toFile k) := by
  cases f with
  | element tag body =>
    rw [Frame.relocate, unfinished, unfinished, Node.relocate, Node.relocateAll_reverse]
    rfl
  | block start head brace braces body =>
    rw [Frame.relocate, unfinished, unfinished, Node.relocate, Node.relocateAll_reverse]
    simp only [DirectiveHead.relocate, List.map_append]
    rfl

theorem abandon_toFile (stop : Nat) :
    (m.relocate (.toFile k)).abandon (g.inFile k) stop =
      (m.abandon g stop).relocate (.toFile k) := by
  rcases m with ⟨offset, skip, previous?, pending, root, frames, seen, found, stopped⟩
  cases frames with
  | nil => rfl
  | cons f frames =>
    simp only [abandon, relocate, List.map_cons, unfinished_toFile]
    exact emit_relocate (.toFile k)
      ⟨offset, skip, previous?, pending, root, frames, seen, found, stopped⟩ _

theorem abandonMany_toFile (stop n : Nat) :
    (m.relocate (.toFile k)).abandonMany (g.inFile k) stop n =
      (m.abandonMany g stop n).relocate (.toFile k) := by
  induction n generalizing m with
  | zero => rfl
  | succ n ih => rw [abandonMany, abandonMany, abandon_toFile, ih]

/-- A construct that takes some bytes. -/
theorem emit_take_toFile {n n' : Node} (moved : n' = n.relocate (.toFile k)) (length : Nat) :
    ((m.relocate (.toFile k)).emit n').take length =
      ((m.emit n).take length).relocate (.toFile k) := by
  rw [moved, emit_relocate, take_relocate]

/-- A construct that takes some bytes, with a finding about it. -/
theorem report_emit_take_toFile {d d' : Diagnostic} {n n' : Node}
    (reworded : d' = (Relocation.toFile k).finding d) (moved : n' = n.relocate (.toFile k))
    (length : Nat) :
    (((m.relocate (.toFile k)).report [d']).emit n').take length =
      (((m.report [d]).emit n).take length).relocate (.toFile k) := by
  have reported := report_relocate (.toFile k) m [d]
  rw [List.map_singleton, ← reworded] at reported
  rw [reported, moved, emit_relocate, take_relocate]

theorem enclosed_toFile (t : Text) (closing? : Option Nat) {node node' : Span → Text → Node}
    {unclosed unclosed' : Diagnostic}
    (reworded : unclosed' = (Relocation.toFile k).finding unclosed)
    (moved : ∀ s u, node' ((Relocation.toFile k).span s) u = (node s u).relocate (.toFile k)) :
    (m.relocate (.toFile k)).enclosed (g.inFile k) t closing? node' unclosed' =
      (m.enclosed g t closing? node unclosed).relocate (.toFile k) := by
  rw [enclosed.eq_def, enclosed.eq_def]
  cases closing? with
  | none => exact report_emit_take_toFile k m reworded (moved (g.span _ _) _) _
  | some n => exact emit_take_toFile k m (moved (g.span _ _) _) _

theorem noteOccurrence_toFile (d : DirectiveDescriptor) (keyword : Span) :
    (m.relocate (.toFile k)).noteOccurrence d ((Relocation.toFile k).span keyword) =
      (m.noteOccurrence d keyword).relocate (.toFile k) := by
  have found : (m.relocate (.toFile k)).seen.find? (fun e => e.1 == d.keyword) =
      (m.seen.find? fun e => e.1 == d.keyword).map
        fun e => (e.1, (Relocation.toFile k).span e.2) := by
    rw [relocate, List.find?_map]
    rfl
  rw [noteOccurrence, noteOccurrence, found]
  split
  · rfl
  · cases m.seen.find? fun e => e.1 == d.keyword with
    | none => rfl
    | some e =>
      have reported := report_relocate (.toFile k) m
        [(Diagnostic.error .duplicateDirective keyword
          ("the " ++ d.keyword.quoted ++ " directive may only occur once per document")).withNote
          e.2 "first occurrence"]
      rw [List.map_singleton, Relocation.finding_withNote, Relocation.finding_error] at reported
      exact reported

theorem misplaced_toFile (d : DirectiveDescriptor) (nested : Bool) (keyword : Span) :
    misplaced d nested ((Relocation.toFile k).span keyword) =
      (misplaced d nested keyword).map (Relocation.toFile k).finding := by
  rw [misplaced, misplaced]
  split <;> rfl

theorem directive_toFile (t : Text) (d : DirectiveDescriptor) :
    (m.relocate (.toFile k)).directive (g.inFile k) t d =
      (m.directive g t d).relocate (.toFile k) := by
  have nested : (m.relocate (.toFile k)).frames.isEmpty = m.frames.isEmpty := by
    cases frames : m.frames <;> simp [relocate, frames]
  have offset : (m.relocate (.toFile k)).offset = m.offset := rfl
  rw [directive, directive, nested, offset]
  simp only [Grammar.toReading_inFile, Reading.span_inFile, Reading.tokens_inFile,
    Reading.directiveBody_inFile, noteOccurrence_toFile, misplaced_toFile]
  generalize m.noteOccurrence d _ = noted
  generalize g.tokens d d.slots _ _ = ts
  simp only [Reading.TokensReading.relocate, ← List.map_append]
  split
  · exact emit_take_toFile k noted (by rfl) _
  · cases g.directiveBody d _ _ with
    | done n code found =>
      simp only [Reading.DirectiveBody.relocate, ← List.map_append]
      exact emit_take_toFile k noted (by rfl) _
    | opens gap => rfl

theorem comment_toFile (t : Text) :
    (m.relocate (.toFile k)).comment (g.inFile k) t = (m.comment g t).relocate (.toFile k) := by
  rw [comment, comment]
  cases Text.indexOf? "*@" (t.drop 2) with
  | none => exact report_emit_take_toFile k m (by rfl) (by rfl) _
  | some n => exact emit_take_toFile k m (by rfl) _

theorem statement_toFile (t : Text) (n : Nat) :
    (m.relocate (.toFile k)).statement (g.inFile k) t n =
      (m.statement g t n).relocate (.toFile k) := by
  rw [statement, statement]
  dsimp only
  cases (Scan.statement ((t.drop 1).take n) (t.drop (1 + n))).2 with
  | true => exact emit_take_toFile k m (by rfl) _
  | false => exact report_emit_take_toFile k m (by rfl) (by rfl) _

theorem markupComment_toFile (t : Text) :
    (m.relocate (.toFile k)).markupComment (g.inFile k) t =
      (m.markupComment g t).relocate (.toFile k) := by
  rw [markupComment, markupComment]
  cases Text.indexOf? "-->" (t.drop 4) with
  | none => exact report_emit_take_toFile k m (by rfl) (by rfl) _
  | some n => exact emit_take_toFile k m (by rfl) _

theorem transition_toFile (t : Text) :
    (m.relocate (.toFile k)).transition (g.inFile k) t =
      (m.transition g t).relocate (.toFile k) := by
  have keyed : (g.inFile k).directive? t = g.directive? t := rfl
  rw [transition, transition]
  dsimp only
  split
  · exact emit_take_toFile k m (by rfl) _
  · split
    · exact comment_toFile k g m t
    · split
      · exact enclosed_toFile k g m t _ (by rfl) fun _ _ => by rfl
      · split
        · exact enclosed_toFile k g m t _ (by rfl) fun _ _ => by rfl
        · split
          · rw [keyed]
            cases g.directive? t with
            | some d => exact directive_toFile k g m t d
            | none =>
              dsimp only
              split
              · exact statement_toFile k g m t _
              · exact emit_take_toFile k m (by rfl) _
          · exact report_emit_take_toFile k m (by rfl) (by rfl) _

theorem endTag_toFile (t : Text) :
    (m.relocate (.toFile k)).endTag (g.inFile k) t = (m.endTag g t).relocate (.toFile k) := by
  have closed : closes? (Reading.endTag t) (m.relocate (.toFile k)).frames =
      closes? (Reading.endTag t) m.frames := closes?_relocate _ _ _
  have offset : (m.relocate (.toFile k)).offset = m.offset := rfl
  rw [endTag, endTag, closed, offset]
  cases closes? (Reading.endTag t) m.frames with
  | none => exact report_emit_take_toFile k m (by rfl) (by rfl) _
  | some depth =>
    dsimp only
    rw [abandonMany_toFile]
    generalize m.abandonMany g m.offset depth = left
    rcases left with ⟨offset, skip, previous?, pending, root, frames, seen, found, stopped⟩
    cases frames with
    | nil => rfl
    | cons f frames =>
      cases f with
      | block => rfl
      | element tag body =>
        refine emit_take_toFile k ⟨offset, skip, previous?, pending, root, frames, seen, found,
          stopped⟩ ?_ _
        rw [Node.relocate, Node.relocateAll_reverse]
        rfl

theorem startTag_toFile (t : Text) :
    (m.relocate (.toFile k)).startTag (g.inFile k) t =
      (m.startTag g t).relocate (.toFile k) := by
  have offset : (m.relocate (.toFile k)).offset = m.offset := rfl
  rw [startTag, startTag, Grammar.toReading_inFile, Reading.startTag_inFile, offset]
  generalize g.toReading.startTag m.offset t = s
  have reported := report_relocate (.toFile k) m s.diagnostics
  dsimp only [Reading.StartTagReading.relocate]
  rw [reported]
  change (if s.isClosed && !s.tag.selfClosing && !s.tag.void then _ else _) = _
  split
  · rfl
  · exact emit_take_toFile k _ (by rfl) _

theorem closeBlock_toFile :
    (m.relocate (.toFile k)).closeBlock (g.inFile k) =
      (m.closeBlock g).relocate (.toFile k) := by
  rcases m with ⟨offset, skip, previous?, pending, root, frames, seen, found, stopped⟩
  cases frames with
  | nil => rfl
  | cons f frames =>
    cases f with
    | element => rfl
    | block start head brace braces body =>
      refine emit_take_toFile k ⟨offset, skip, previous?, pending, root, frames, seen, found,
        stopped⟩ ?_ _
      rw [Node.relocate, Node.relocateAll_reverse]
      rfl

/-- The machine looks at a byte in the same way in every file. -/
theorem look_toFile (b : UInt8) (rest : Text) :
    (m.relocate (.toFile k)).look (g.inFile k) b rest =
      (m.look g b rest).relocate (.toFile k) := by
  have none : (m.relocate (.toFile k)).frames.isEmpty = m.frames.isEmpty := by
    cases frames : m.frames <;> simp [relocate, frames]
  have flushed : (m.relocate (.toFile k)).flush (g.inFile k).file =
      (m.flush g.file).relocate (.toFile k) := flush_toFile k m g.file
  rw [look, look, none, closesBlock_relocate, flushed]
  change (if g.leadingOnly && m.frames.isEmpty && !g.isLeading (b :: rest) then _ else _) = _
  split
  · rfl
  · split
    · exact closeBlock_toFile k g _
    · change (if b == '@'.toUInt8 && !m.isAddress rest then _ else _) = _
      split
      · exact transition_toFile k g _ _
      · split
        · split
          · exact markupComment_toFile k g _ _
          · split
            · exact endTag_toFile k g _ _
            · split
              · exact startTag_toFile k g _ _
              · exact literal_relocate _ m b
        · exact literal_relocate _ m b

theorem run_toFile (t : Text) :
    run (g.inFile k) (m.relocate (.toFile k)) t = (run g m t).relocate (.toFile k) := by
  induction t generalizing m with
  | nil => rfl
  | cons b rest ih =>
    have same : (m.relocate (.toFile k)).skip = m.skip := rfl
    rw [run.eq_def, run.eq_def g]
    dsimp only
    rw [same]
    cases m.skip with
    | succ skip => exact ih ({ m with skip }.advance b)
    | zero =>
      dsimp only
      rw [look_toFile]
      change (if (m.look g b rest).stopped then _ else _) = _
      split
      · rfl
      · exact ih ((m.look g b rest).advance b)

theorem finish_toFile :
    (m.relocate (.toFile k)).finish (g.inFile k) = (m.finish g).relocate (.toFile k) := by
  have flushed : (m.relocate (.toFile k)).flush (g.inFile k).file =
      (m.flush g.file).relocate (.toFile k) := flush_toFile k m g.file
  rw [finish, finish, flushed]
  have number : ((m.flush g.file).relocate (.toFile k)).frames.length =
      (m.flush g.file).frames.length := List.length_map _
  rw [number]
  exact abandonMany_toFile k g _ _ _

end Steps

end Machine

def Tree.toFile (t : Tree) (k : Nat) : Tree :=
  { t with
    source := { t.source with id := k }
    body := Node.relocateAll (.toFile k) t.body
    diagnostics := t.diagnostics.map (Relocation.toFile k).finding }

/-- A file that is parsed under another number has the same tree under that number. -/
theorem parse_toFile (file : SourceFile) (options : ParserOptions) (k : Nat) :
    parse { file with id := k } options = (parse file options).toFile k := by
  have ran := Machine.run_toFile k (.ofOptions file.id options) {} file.content
  have finished := Machine.finish_toFile k (.ofOptions file.id options)
    (Machine.run (.ofOptions file.id options) {} file.content)
  change Machine.run (.ofOptions k options) {} file.content = _ at ran
  rw [← ran] at finished
  change (Machine.run (.ofOptions k options) {} file.content).finish (.ofOptions k options) = _
    at finished
  rw [parse, parse]
  dsimp only
  rw [finished, Tree.toFile, Node.relocateAll_reverse]
  simp only [Machine.relocate, List.map_reverse]

/-! ## Normal forms

Merging compares the file numbers of neighbouring texts.  In the tree of one file they are all
equal, whatever they are. -/

namespace Node

variable {j : Nat} (k : Nat)

theorem file_of_relocate_text {s : Span} {t : Text}
    (same : (text s t).relocate (.toFile j) = text s t) : s.file = j := by
  rw [relocate, text.injEq] at same
  exact (congrArg Span.file same.1).symm

theorem join_toFile {n : Node} {ns : List Node} (one : n.relocate (.toFile j) = n)
    (others : relocateAll (.toFile j) ns = ns) :
    (join (n.relocate (.toFile k)) (relocateAll (.toFile k) ns)).1 =
      relocateAll (.toFile k) (join n ns).1 := by
  have apart : ∀ {m : Node}, (∀ s t, m ≠ text s t) →
      (join m (relocateAll (.toFile k) ns)).1 = m :: relocateAll (.toFile k) ns := by
    intro m different
    cases m with
    | text s t => exact absurd rfl (different s t)
    | _ => rfl
  cases n with
  | text s t =>
    cases ns with
    | nil => rfl
    | cons next rest =>
      cases next with
      | text s' t' =>
        rw [relocateAll, List.cons.injEq] at others
        have here := file_of_relocate_text one
        have there := file_of_relocate_text others.1
        have files : (s.file == s'.file) = true := by rw [here, there, beq_self_eq_true]
        have moved : (((Relocation.toFile k).span s).file
            == ((Relocation.toFile k).span s').file) = true := beq_self_eq_true k
        rw [relocate, relocateAll, relocate, join, join, files, moved,
          Relocation.start_toFile, Relocation.stop_toFile]
        split
        · rw [relocateAll, relocate, Span.cover, Span.cover, if_pos files, if_pos moved]
          rfl
        · rfl
      | _ => rfl
  | _ => exact apart fun _ _ => nofun

mutual

theorem merge_toFile (j k : Nat) (n : Node) :
    (merge (n.relocate (.toFile k))).1 =
      (merge (n.relocate (.toFile j))).1.relocate (.toFile k) := by
  cases n with
  | element s tag endTag? body =>
    simp only [relocate, merge, mergeAll_toFile j k body, StartTag.relocate_relocate,
      Relocation.toFile_after_toFile, Option.map_map]
    rfl
  | directive s head body =>
    simp only [relocate, merge, mergeAll_toFile j k body, DirectiveHead.relocate_relocate,
      Relocation.toFile_after_toFile]
    rfl
  | helper s head body =>
    simp only [relocate, merge, mergeAll_toFile j k body, HelperHead.relocate_relocate,
      Relocation.toFile_after_toFile]
    rfl
  | _ => rfl

theorem mergeAll_toFile (j k : Nat) (ns : List Node) :
    (mergeAll (relocateAll (.toFile k) ns)).1 =
      relocateAll (.toFile k) (mergeAll (relocateAll (.toFile j) ns)).1 := by
  cases ns with
  | nil => rfl
  | cons n ns =>
    -- At `k = j` the two statements say that what was merged is in the file of the tree.
    have one := merge_toFile j j n
    have others := mergeAll_toFile j j ns
    simp only [relocateAll, mergeAll]
    rw [merge_toFile j k n, mergeAll_toFile j k ns]
    exact join_toFile k one.symm others.symm

end

theorem trimToken?_toFile (t : DirectiveToken) :
    trimToken? (t.relocate (.toFile k)) =
      (trimToken? t).map (DirectiveToken.relocate (.toFile k)) := by
  rw [trimToken?, trimToken?]
  dsimp only [DirectiveToken.relocate]
  rw [apply_ite (Option.map _)]
  rfl

theorem trimTokens_toFile (ts : List DirectiveToken) :
    trimTokens (ts.map (DirectiveToken.relocate (.toFile k))) =
      (trimTokens ts).map (DirectiveToken.relocate (.toFile k)) := by
  rw [trimTokens, trimTokens, List.map_map, List.map_map]
  refine List.map_congr_left fun t _ => ?_
  rw [Function.comp_apply, Function.comp_apply, trimToken?_toFile]
  cases trimToken? t <;> rfl

mutual

theorem trim_toFile (k : Nat) (n : Node) :
    (trim (n.relocate (.toFile k))).1 = (trim n).1.relocate (.toFile k) := by
  cases n with
  | element s tag endTag? body => simp only [relocate, trim, trimAll_toFile k body]
  | directive s head body =>
    simp only [relocate, trim, trimAll_toFile k body, DirectiveHead.relocate, trimTokens_toFile]
  | helper s head body => simp only [relocate, trim, trimAll_toFile k body]
  | _ => rfl

theorem trimAll_toFile (k : Nat) (ns : List Node) :
    (trimAll (relocateAll (.toFile k) ns)).1 = relocateAll (.toFile k) (trimAll ns).1 := by
  cases ns with
  | nil => rfl
  | cons n ns => simp only [relocateAll, trimAll, trim_toFile k n, trimAll_toFile k ns]

end

end Node

/-- The tree of a file is in that file. -/
theorem toFile_parse (file : SourceFile) (options : ParserOptions) :
    (parse file options).toFile file.id = parse file options :=
  (parse_toFile file options file.id).symm

/-- So is its normal form, and it moves to another number with the file. -/
theorem normalized_toFile (file : SourceFile) (options : ParserOptions) (k : Nat) :
    (parse { file with id := k } options).mergeText.1.trimTokens.1 =
      (parse file options).mergeText.1.trimTokens.1.toFile k := by
  have own := congrArg Tree.body (toFile_parse file options)
  have merged := Node.mergeAll_toFile file.id k (parse file options).body
  change Node.relocateAll (.toFile file.id) (parse file options).body = _ at own
  rw [own] at merged
  rw [parse_toFile]
  simp only [Tree.toFile, Tree.mergeText, Tree.trimTokens, merged, Node.trimAll_toFile]

end Syntax

end TemplateCompiler
