import TemplateCompiler.Directive.Standard
import TemplateCompiler.Proofs.DirectiveReading

/-!
# Parsing loses nothing

The tree of a parsed file tiles its content, at the root and in every body, and every text and
token in it is the slice of its span.  This holds for all contents and all sets of directives: the
branches that recover from errors cover their bytes like all others.

The invariant follows the parser's stack.  The nodes outside all frames tile the content up to the
outermost frame, the body of each frame tiles it up to the next frame inside, and the body of the
innermost frame up to the literal bytes that are still pending or, while a construct is passed
over, up to its end.  Every construct is one of four moves on that stack: a node is added, a frame
is opened, a frame is closed with its own end, or a frame is abandoned where another one ends.
-/

namespace TemplateCompiler

namespace Syntax

/-! ## The stack -/

/-- Nodes gathered latest first that are faithful and tile a range. -/
def Gathered (g : Grammar) (content : Text) (start : Nat) (nodes : List Node) (stop : Nat) : Prop :=
  (∀ node ∈ nodes, node.Every (Node.Faithful g.file content))
    ∧ Span.Tiles g.file start (nodes.reverse.map Node.span) stop

theorem Gathered.nil (g : Grammar) (content : Text) (start : Nat) :
    Gathered g content start [] start :=
  ⟨fun _ member => absurd member List.not_mem_nil, rfl⟩

/-- A node that covers a range of the file, faithful with everything in it. -/
structure Covers (g : Grammar) (content : Text) (n : Node) (start stop : Nat) : Prop where
  faithful : n.Every (Node.Faithful g.file content)
  spanned : n.span = g.span start stop
  nonempty : start < stop

/-- A node without a body that says what stands in its range covers it. -/
theorem Covers.leaf {g : Grammar} {content : Text} {n : Node} {start stop : Nat}
    (written : n.Written g.file content) (spanned : n.span = g.span start stop)
    (bodiless : n.body = []) (nonempty : start < stop) : Covers g content n start stop := by
  refine ⟨.intro n ⟨by rw [spanned]; rfl, written⟩ ?_, spanned, nonempty⟩
  intro child member
  rw [bodiless] at member
  cases member

theorem Gathered.cons {g : Grammar} {content : Text} {start stop next : Nat} {nodes : List Node}
    {n : Node} (gathered : Gathered g content start nodes stop)
    (covers : Covers g content n stop next) : Gathered g content start (n :: nodes) next := by
  rcases gathered with ⟨faithful, tiled⟩
  rcases covers with ⟨faithfulNode, spanned, nonempty⟩
  refine ⟨?_, ?_⟩
  · intro other member
    rcases List.mem_cons.mp member with rfl | behind
    · exact faithfulNode
    · exact faithful other behind
  · rw [List.reverse_cons, List.map_append]
    have longer := tiled.snoc (s := n.span) (by rw [spanned]; rfl) (by rw [spanned]; rfl)
      (by rw [spanned]; exact nonempty)
    have stops : n.span.stop = next := by rw [spanned]; rfl
    rw [stops] at longer
    exact longer

theorem Gathered.inside {g : Grammar} {content : Text} {start stop : Nat} {nodes : List Node}
    (gathered : Gathered g content start nodes stop) :
    ∀ child ∈ nodes.reverse, child.Every (Node.Faithful g.file content) := by
  intro child member
  exact gathered.1 child (List.mem_reverse.mp member)

/-- The root and the frames, innermost first, tile the content up to an offset. -/
def Stacked (g : Grammar) (content : Text) (root : List Node) : List Frame → Nat → Prop
  | [], stop => Gathered g content 0 root stop
  | .element tag body :: rest, stop =>
    Stacked g content root rest tag.span.start
      ∧ (∀ a ∈ tag.attributes, a.Faithful g.file content)
      ∧ tag.span.start < tag.span.stop
      ∧ (tag.selfClosing || tag.void) = false
      ∧ Gathered g content tag.span.stop body stop
  | .block start head brace _ body :: rest, stop =>
    Stacked g content root rest start
      ∧ head.Faithful g.file content start
      ∧ head.openingBrace? content start = some brace
      ∧ head.isUnclosed = false
      ∧ start ≤ brace
      ∧ Gathered g content (brace + 1) body stop

/-- The frames do not lose a node that is added to them. -/
theorem Stacked.emit {g : Grammar} {content : Text} {m : Machine} {n : Node} {stop next : Nat}
    (stacked : Stacked g content m.root m.frames stop) (covers : Covers g content n stop next) :
    Stacked g content (m.emit n).root (m.emit n).frames next := by
  rcases m with ⟨offset, skip, previous?, pending, root, frames, seen, found, stopped⟩
  cases frames with
  | nil => exact stacked.cons covers
  | cons frame rest =>
    cases frame with
    | element tag body =>
      rcases stacked with ⟨below, attributes, ordered, plain, gathered⟩
      exact ⟨below, attributes, ordered, plain, gathered.cons covers⟩
    | block start head brace braces body =>
      rcases stacked with ⟨below, faithful, opens, closed, ordered, gathered⟩
      exact ⟨below, faithful, opens, closed, ordered, gathered.cons covers⟩

namespace Machine

@[simp]
theorem emit_offset (m : Machine) (n : Node) : (m.emit n).offset = m.offset := by
  unfold emit
  split <;> rfl

@[simp]
theorem emit_skip (m : Machine) (n : Node) : (m.emit n).skip = m.skip := by
  unfold emit
  split <;> rfl

@[simp]
theorem emit_pending (m : Machine) (n : Node) : (m.emit n).pending = m.pending := by
  unfold emit
  split <;> rfl

@[simp]
theorem emit_stopped (m : Machine) (n : Node) : (m.emit n).stopped = m.stopped := by
  unfold emit
  split <;> rfl

/-! ## Constructs -/

/-- The machine stands at a byte of an offset with nothing pending, all before it covered. -/
structure Ready (g : Grammar) (content : Text) (offset : Nat) (m : Machine) : Prop where
  place : m.offset = offset
  clear : m.pending = []
  running : m.stopped = false
  stacked : Stacked g content m.root m.frames offset

/-- The machine has taken a construct of some bytes at an offset, and passes over the rest. -/
structure Took (g : Grammar) (content : Text) (offset n : Nat) (m : Machine) : Prop where
  place : m.offset = offset
  clear : m.pending = []
  running : m.stopped = false
  stacked : Stacked g content m.root m.frames (offset + n)
  passing : m.skip = n - 1

theorem Ready.report {g : Grammar} {content : Text} {offset : Nat} {m : Machine}
    (ready : Ready g content offset m) (ds : List Diagnostic) :
    Ready g content offset (m.report ds) :=
  ⟨ready.place, ready.clear, ready.running, ready.stacked⟩

/-- A node that reaches to the end of the construct is added: it may begin earlier, where a frame
that it closes began. -/
theorem took_emit_take {g : Grammar} {content : Text} {offset n start : Nat} {m : Machine}
    {node : Node} (place : m.offset = offset) (clear : m.pending = []) (running : m.stopped = false)
    (stacked : Stacked g content m.root m.frames start)
    (covers : Covers g content node start (offset + n)) :
    Took g content offset n ((m.emit node).take n) :=
  ⟨(emit_offset m node).trans place, (emit_pending m node).trans clear,
    (emit_stopped m node).trans running, stacked.emit covers, rfl⟩

/-- What every construct at the front of a text comes to. -/
def Takes (g : Grammar) (content : Text) (offset : Nat) (t : Text) (m : Machine) : Prop :=
  ∃ n, 0 < n ∧ n ≤ t.length ∧ Took g content offset n m

section Constructs

variable {g : Grammar} {content t : Text} {offset : Nat} {m : Machine}

/-- A construct without a body of its own. -/
theorem Ready.leaf (ready : Ready g content offset m) {n : Nat} {node : Node}
    (written : node.Written g.file content)
    (spanned : node.span = g.span offset (offset + n)) (bodiless : node.body = [])
    (positive : 0 < n) (inside : n ≤ t.length) :
    Takes g content offset t ((m.emit node).take n) :=
  ⟨n, positive, inside, took_emit_take ready.place ready.clear ready.running ready.stacked
    (.leaf written spanned bodiless (by omega))⟩

theorem indexOf?_add_length_le {p t : Text} :
    ∀ {k : Nat}, Text.indexOf? p t = some k → k + p.length ≤ t.length := by
  induction t with
  | nil =>
    intro k found
    rw [Text.indexOf?] at found
    split at found
    · next nothing =>
      cases found
      rw [List.isEmpty_iff.mp nothing]
      exact Nat.le_refl _
    · cases found
  | cons b t ih =>
    intro k found
    rw [Text.indexOf?] at found
    split at found
    · next starts =>
      cases found
      rw [Nat.zero_add]
      exact (List.isPrefixOf_iff_prefix.mp starts).length_le
    · rcases Option.map_eq_some_iff.mp found with ⟨j, foundBehind, rfl⟩
      have bound := ih foundBehind
      rw [List.length_cons]
      omega

theorem comment_takes (ready : Ready g content offset m) (nonempty : t ≠ []) :
    Takes g content offset t (m.comment g t) := by
  have positive := List.length_pos_iff.mpr nonempty
  unfold comment
  rw [ready.place]
  split
  · next k found =>
    have inside := indexOf?_add_length_le found
    have two : (Text.ofString "*@").length = 2 := by decide
    rw [two, List.length_drop] at inside
    exact ready.leaf trivial rfl rfl (by omega) (by omega)
  · exact (ready.report _).leaf trivial rfl rfl positive (Nat.le_refl _)

theorem markupComment_takes (ready : Ready g content offset m) (nonempty : t ≠ []) :
    Takes g content offset t (m.markupComment g t) := by
  have positive := List.length_pos_iff.mpr nonempty
  unfold markupComment
  rw [ready.place]
  split
  · next k found =>
    have inside := indexOf?_add_length_le found
    have three : (Text.ofString "-->").length = 3 := by decide
    rw [three, List.length_drop] at inside
    exact ready.leaf trivial rfl rfl (by omega) (by omega)
  · exact (ready.report _).leaf trivial rfl rfl positive (Nat.le_refl _)

theorem statement_takes (ready : Ready g content offset m) {n : Nat} (inside : 1 + n ≤ t.length) :
    Takes g content offset t (m.statement g t n) := by
  have inStatement := Scan.statement_le_length ((t.drop 1).take n) (t.drop (1 + n))
  rw [List.length_drop] at inStatement
  unfold statement
  dsimp only
  generalize Scan.statement ((t.drop 1).take n) (t.drop (1 + n)) = read at inStatement ⊢
  rcases read with ⟨k, closed⟩
  dsimp only at inStatement ⊢
  cases closed
  · simp only [Bool.false_eq_true, if_false]
    change Takes g content offset t (((m.report _).emit
      (.codeBlock (g.span m.offset (m.offset + (1 + n + k))) _ true)).take _)
    rw [ready.place]
    exact (ready.report _).leaf trivial rfl rfl (by omega) (by omega)
  · simp only [if_true]
    rw [ready.place]
    exact ready.leaf trivial rfl rfl (by omega) (by omega)

/-- A construct between delimiters takes the text up to the closing one, or the rest of the file. -/
theorem enclosed_takes (ready : Ready g content offset m) (nonempty : t ≠ [])
    {closing? : Option Nat} {node : Span → Text → Node} (unclosed : Diagnostic)
    (spanned : ∀ span code, (node span code).span = span)
    (bodiless : ∀ span code, (node span code).body = [])
    (closes : ∀ k, closing? = some k → k + 2 ≤ t.length
      ∧ (node (g.span offset (offset + k + 2)) (t.slice 2 (k + 1))).Written g.file content)
    (runs : (node (g.span offset (offset + t.length)) (t.drop 2)).Written g.file content) :
    Takes g content offset t (m.enclosed g t closing? node unclosed) := by
  have positive := List.length_pos_iff.mpr nonempty
  unfold enclosed
  rw [ready.place]
  split
  · next k =>
    rcases closes k rfl with ⟨inside, written⟩
    exact ready.leaf written (spanned _ _) (bodiless _ _) (by omega) inside
  · exact (ready.report _).leaf runs (spanned _ _) (bodiless _ _) positive (Nat.le_refl _)

/-- The keyword and the tokens of a directive, once they were read, with what follows them. -/
theorem DirectiveHead.bodyStart_of_tokens {d : DirectiveDescriptor} {head : DirectiveHead}
    {read : Reading.TokensReading} {start : Nat} (described : head.descriptor = d)
    (same : head.tokens = read.tokens)
    (sound : read.Sound g.toReading content (start + (1 + d.keyword.length))
      (content.drop (start + (1 + d.keyword.length))))
    (complete : read.isComplete = true) :
    head.bodyStart content start = start + (1 + d.keyword.length) + read.length
      + Scan.blank (content.drop (start + (1 + d.keyword.length) + read.length)) := by
  have reached := (sound.complete complete).2
  rw [List.drop_drop] at reached
  have place : start + 1 + head.keyword.length = start + (1 + d.keyword.length) := by
    rw [DirectiveHead.keyword, described]
    omega
  rw [DirectiveHead.bodyStart, DirectiveHead.tokensStop, same, place]
  exact reached.symm

/-- A directive that is complete behind its tokens opens no block. -/
theorem openingBrace?_of_done {head : DirectiveHead} {start stop n : Nat} {code : Text}
    {found : List Diagnostic}
    (body : Reading.DirectiveBody.Sound head.descriptor (content.drop stop) (.done n code found))
    (starts : head.bodyStart content start = stop + Scan.blank (content.drop stop)) :
    head.openingBrace? content start = none := by
  rcases body with ⟨-, -, isLine | isCode | missing⟩
  · exact DirectiveHead.openingBrace?_of_no_markup (by rw [DirectiveHead.takesMarkup, isLine]; rfl)
  · exact DirectiveHead.openingBrace?_of_no_markup (by rw [DirectiveHead.takesMarkup, isCode]; rfl)
  · refine DirectiveHead.openingBrace?_of_no_brace ?_
    rw [starts, ← List.getElem?_drop]
    exact missing

/-- A directive that goes on with a block behind its tokens opens it at that brace. -/
theorem openingBrace?_of_opens {head : DirectiveHead} {start stop gap : Nat}
    (body : Reading.DirectiveBody.Sound head.descriptor (content.drop stop) (.opens gap))
    (starts : head.bodyStart content start = stop + Scan.blank (content.drop stop))
    (read : head.tokensRead = true) : head.openingBrace? content start = some (stop + gap) := by
  rcases body with ⟨rfl, brace, notLine, notCode⟩
  rw [← starts]
  refine DirectiveHead.openingBrace?_of_brace ?_ read ?_
  · rw [DirectiveHead.takesMarkup, bne_iff_ne.mpr notLine, bne_iff_ne.mpr notCode]
    rfl
  · rw [starts, ← List.getElem?_drop]
    exact brace

theorem isUnclosed_append (head : DirectiveHead) (ds : List Diagnostic) :
    { head with diagnostics := head.diagnostics ++ ds }.isUnclosed =
      (head.isUnclosed || ds.any fun d => d.code == .unterminatedBlock) := by
  rw [DirectiveHead.isUnclosed, DirectiveHead.isUnclosed, List.any_append]

theorem misplaced_quiet (d : DirectiveDescriptor) (nested : Bool) (keyword : Span) :
    (misplaced d nested keyword).any reportsToken = false
      ∧ ((misplaced d nested keyword).any fun d => d.code == .unterminatedBlock) = false := by
  unfold misplaced
  split <;> exact ⟨rfl, rfl⟩

theorem Ready.noteOccurrence (ready : Ready g content offset m) (d : DirectiveDescriptor)
    (keyword : Span) : Ready g content offset (m.noteOccurrence d keyword) := by
  unfold Machine.noteOccurrence
  split
  · exact ready
  · split
    · exact ready.report _
    · exact ⟨ready.place, ready.clear, ready.running, ready.stacked⟩

/-- The text at a directive begins with its at sign and its keyword. -/
theorem keyword_slice {d : DirectiveDescriptor} (stands : Text.StandsAt content offset t)
    (written : ∃ rest, t = '@'.toUInt8 :: (d.keyword ++ rest)) :
    1 + d.keyword.length ≤ t.length
      ∧ content.slice offset (offset + 1 + d.keyword.length) = "@" ++ d.keyword := by
  rcases written with ⟨rest, rfl⟩
  have inKeyword : 1 + d.keyword.length ≤ ('@'.toUInt8 :: (d.keyword ++ rest)).length := by
    rw [List.length_cons, List.length_append]
    omega
  refine ⟨inKeyword, ?_⟩
  rw [Nat.add_assoc, ← stands.take_eq_slice inKeyword, Nat.add_comm 1, List.take_succ_cons,
    List.take_left]
  rfl

theorem directive_takes (ready : Ready g content offset m) (ahead : content.drop offset = t)
    {d : DirectiveDescriptor}
    (written : ∃ rest, t = '@'.toUInt8 :: (d.keyword ++ rest)) :
    Takes g content offset t (m.directive g t d) := by
  rcases keyword_slice (ahead ▸ Text.StandsAt.of_drop content offset) written with
    ⟨inKeyword, keyword⟩
  have aheadTokens : content.drop (offset + (1 + d.keyword.length)) =
      t.drop (1 + d.keyword.length) := by
    rw [← ahead, List.drop_drop]
  have sound := g.toReading.tokens_sound d content d.slots _ _ aheadTokens
  unfold directive
  dsimp only
  rw [ready.place]
  have ready' := ready.noteOccurrence d (g.span offset (offset + (1 + d.keyword.length)))
  generalize g.tokens d d.slots (offset + (1 + d.keyword.length)) (t.drop (1 + d.keyword.length)) =
    read at sound ⊢
  have inTokens := sound.inside
  rw [List.length_drop] at inTokens
  have quiet := misplaced_quiet d (!m.frames.isEmpty)
    (g.span offset (offset + (1 + d.keyword.length)))
  generalize Machine.misplaced d (!m.frames.isEmpty)
    (g.span offset (offset + (1 + d.keyword.length))) = misplaced at quiet ⊢
  generalize m.noteOccurrence d (g.span offset (offset + (1 + d.keyword.length))) = m' at ready' ⊢
  split
  · next incomplete =>
    have incomplete : read.isComplete = false := by
      simpa only [Bool.not_eq_true'] using incomplete
    refine ready'.leaf ⟨⟨keyword, sound.faithful⟩, ?_⟩ rfl rfl (by omega) (by omega)
    rw [DirectiveHead.openingBrace?_of_unread]
    rw [DirectiveHead.tokensRead, List.any_append, sound.incomplete incomplete, Bool.or_true]
    rfl
  · next complete =>
    have complete : read.isComplete = true := by
      simpa only [Bool.not_eq_true', Bool.not_eq_false] using complete
    have nothing := (sound.complete complete).1
    have body := g.toReading.directiveBody_sound d
      (offset + (1 + d.keyword.length + read.length)) (t.drop (1 + d.keyword.length + read.length))
    have aheadBody : t.drop (1 + d.keyword.length + read.length) =
        content.drop (offset + (1 + d.keyword.length) + read.length) := by
      rw [← ahead, List.drop_drop, Nat.add_assoc offset]
    have starts (head : DirectiveHead) (described : head.descriptor = d)
        (same : head.tokens = read.tokens) :=
      DirectiveHead.bodyStart_of_tokens described same (aheadTokens ▸ sound) complete
    split
    · next n code found isDone =>
      rw [isDone] at body
      have inBody := body.1
      rw [List.length_drop] at inBody
      rw [aheadBody] at body
      refine ready'.leaf (Node.written_of_no_brace ⟨keyword, sound.faithful⟩ ?_) rfl rfl (by omega)
        (by omega)
      exact openingBrace?_of_done body (starts _ rfl rfl)
    · next gap isOpen =>
      rw [isOpen] at body
      have inBrace := (List.getElem?_eq_some_iff.mp body.2.1).1
      rw [List.length_drop] at inBrace
      rw [aheadBody] at body
      refine ⟨_, Nat.succ_pos _, by omega, ready'.place, ready'.clear, ready'.running, ?_, rfl⟩
      refine ⟨ready'.stacked, ⟨keyword, sound.faithful⟩, ?_, ?_, by omega, ?_⟩
      · rw [← Nat.add_assoc offset (1 + d.keyword.length)]
        refine openingBrace?_of_opens body (starts _ rfl rfl) ?_
        rw [DirectiveHead.tokensRead, nothing, List.append_nil, quiet.1]
        rfl
      · rw [DirectiveHead.isUnclosed, nothing, List.append_nil]
        exact quiet.2
      · have place : ∀ a b c : Nat, a + b + c + 1 = a + (b + c).succ := by omega
        rw [place]
        exact .nil g content _

/-- The directive at an at sign has its keyword behind it. -/
theorem keyword_of_directive? {d : DirectiveDescriptor} (found : g.directive? t = some d) :
    ∃ rest, t.drop 1 = d.keyword ++ rest := by
  unfold Grammar.directive? at found
  dsimp only at found
  split at found
  · cases found
  · next other isFound =>
    split at found
    · cases found
    · cases found
      have same := List.find?_some isFound
      rw [beq_iff_eq] at same
      refine ⟨(t.drop 1).drop (Scan.identifier (t.drop 1)), ?_⟩
      rw [same, List.take_append_drop]

theorem transition_takes (ready : Ready g content offset m) {rest : Text}
    (ahead : content.drop offset = '@'.toUInt8 :: rest) :
    Takes g content offset ('@'.toUInt8 :: rest) (m.transition g ('@'.toUInt8 :: rest)) := by
  have stands : Text.StandsAt content offset ('@'.toUInt8 :: rest) :=
    ahead ▸ Text.StandsAt.of_drop content offset
  have nonempty : '@'.toUInt8 :: rest ≠ [] := List.cons_ne_nil _ _
  unfold transition
  dsimp only
  rw [ready.place]
  cases rest with
  | nil =>
    refine (ready.report _).leaf ?_ rfl rfl Nat.one_pos (Nat.le_refl _)
    exact stands.take_eq_slice (n := 1) (Nat.le_refl _)
  | cons next rest =>
    change Takes g content offset _ (if (next == '@'.toUInt8) = true then _ else _)
    split
    · next escaped =>
      cases eq_of_beq escaped
      refine ready.leaf ?_ rfl rfl Nat.two_pos (by simp only [List.length_cons]; omega)
      exact (stands.take_eq_slice (n := 2) (by simp only [List.length_cons]; omega)).symm
    change Takes g content offset _ (if (next == '*'.toUInt8) = true then _ else _)
    split
    · exact comment_takes ready nonempty
    change Takes g content offset _ (if (next == 0x7B) = true then _ else _)
    split
    · refine enclosed_takes ready nonempty _ (fun _ _ => rfl) (fun _ _ => rfl) ?_ trivial
      intro k closed
      have inside := Scan.closing?_lt_length closed
      rw [List.length_drop] at inside
      exact ⟨by omega, trivial⟩
    change Takes g content offset _ (if (next == '('.toUInt8) = true then _ else _)
    split
    · next opened =>
      cases eq_of_beq opened
      refine enclosed_takes ready nonempty _ (fun _ _ => rfl) (fun _ _ => rfl) ?_ ?_
      · intro k closed
        have inside := Scan.closing?_lt_length closed
        rw [List.length_drop] at inside
        exact ⟨by omega, Reading.expressionWritten_closed stands rfl closed g.file⟩
      · refine Or.inr ⟨?_, Reading.length_of_drop ahead nonempty⟩
        exact (stands.take_eq_slice (Nat.le_refl _)).symm.trans (List.take_length ..)
    change Takes g content offset _ (if (Scan.isIdentifierStart next) = true then _ else _)
    split
    · next starts =>
      split
      · next d found =>
        rcases keyword_of_directive? found with ⟨behind, written⟩
        exact directive_takes ready ahead ⟨behind, congrArg ('@'.toUInt8 :: ·) written⟩
      · have inIdentifier := Scan.identifier_le_length (next :: rest)
        split
        · refine statement_takes ready ?_
          change 1 + Scan.identifier (next :: rest) ≤ (next :: rest).length + 1
          omega
        · have inside := Scan.implicit_le_length g.features.nullForgiving (next :: rest)
          refine ready.leaf ?_ (congrArg (g.span offset) (Nat.add_assoc _ _ _)) rfl (by omega) ?_
          · have written := Reading.expressionWritten_implicit stands inside g.file
            change ExpressionWritten content (g.span offset (offset + 1
              + Scan.implicit g.features.nullForgiving (next :: rest))) ((next :: rest).take
              (1 + Scan.implicit g.features.nullForgiving (next :: rest) - 1)) false
            rw [Nat.add_sub_cancel_left, Nat.add_assoc, Nat.add_comm 1]
            exact written
          · change 1 + Scan.implicit g.features.nullForgiving (next :: rest) ≤
              (next :: rest).length + 1
            omega
    · refine (ready.report _).leaf ?_ rfl rfl Nat.one_pos (by rw [List.length_cons]; omega)
      exact stands.take_eq_slice (n := 1) (by rw [List.length_cons]; omega)

theorem startTag_takes (ready : Ready g content offset m) (ahead : content.drop offset = t)
    (nonempty : t ≠ []) : Takes g content offset t (m.startTag g t) := by
  rcases g.toReading.startTag_sound ahead nonempty with ⟨positive, inside, spanned, faithful⟩
  unfold startTag
  rw [ready.place]
  dsimp only at positive inside spanned faithful ⊢
  generalize g.toReading.startTag offset t = read at positive inside spanned faithful ⊢
  have reported := ready.report read.diagnostics
  generalize m.report read.diagnostics = m' at reported ⊢
  split
  · next isOpen =>
    rw [Bool.and_eq_true, Bool.and_eq_true, Bool.not_eq_true', Bool.not_eq_true'] at isOpen
    refine ⟨read.length, positive, inside, reported.place, reported.clear, reported.running, ?_,
      rfl⟩
    change Stacked g content m'.root (.element read.tag [] :: m'.frames) (offset + read.length)
    have starts : read.tag.span.start = offset := by rw [spanned]; rfl
    have stops : read.tag.span.stop = offset + read.length := by rw [spanned]; rfl
    refine ⟨?_, faithful, by omega, ?_, ?_⟩
    · rw [starts]
      exact reported.stacked
    · rw [isOpen.1.2, isOpen.2]
      rfl
    · rw [stops]
      exact .nil g content _
  · refine reported.leaf ⟨faithful, ⟨rfl, rfl⟩, fun _ => ⟨rfl, rfl⟩⟩ spanned rfl positive inside

/-! ## Closing frames -/

/-- An element that is open on top of the stack, closed by an end tag or at the place where another
construct ends, covers everything since its start tag. -/
theorem covers_element {tag : StartTag} {body : List Node} {endTag? : Option Span} {stop next : Nat}
    (attributes : ∀ a ∈ tag.attributes, a.Faithful g.file content)
    (ordered : tag.span.start < tag.span.stop) (plain : (tag.selfClosing || tag.void) = false)
    (gathered : Gathered g content tag.span.stop body stop)
    (ends : endTag? = none ∧ stop = next ∨ endTag? = some (g.span stop next) ∧ stop < next) :
    Covers g content (.element (g.span tag.span.start next) tag endTag? body.reverse)
      tag.span.start next := by
  have bound := gathered.2.le
  refine ⟨.intro _ ⟨rfl, attributes, ⟨rfl, ?_⟩, ?_⟩ gathered.inside, rfl, ?_⟩
  · rcases ends with ⟨rfl, rfl⟩ | ⟨rfl, later⟩
    · exact gathered.2
    · exact ⟨rfl, later, rfl, gathered.2⟩
  · intro other
    rw [plain] at other
    cases other
  · rcases ends with ⟨-, rfl⟩ | ⟨-, later⟩ <;> omega

/-- An element that ends where another construct does leaves nothing uncovered. -/
theorem Stacked.abandon_element {tag : StartTag} {body : List Node} {rest : List Frame}
    {stop : Nat} (top : m.frames = .element tag body :: rest)
    (stacked : Stacked g content m.root m.frames stop) :
    Stacked g content (m.abandon g stop).root (m.abandon g stop).frames stop := by
  rw [top] at stacked
  rcases stacked with ⟨below, attributes, ordered, plain, gathered⟩
  unfold abandon
  rw [top]
  exact Stacked.emit (m := { m with frames := rest }) below
    (covers_element attributes ordered plain gathered (Or.inl ⟨rfl, rfl⟩))

@[simp]
theorem closes?_emit (e : Reading.EndTagReading) (n : Node) :
    closes? e (m.emit n).frames = closes? e m.frames := by
  unfold emit
  split
  · next empty => rw [empty]
  · next top =>
    rw [top, closes?, closes?]
  · next top =>
    rw [top, closes?, closes?]
    all_goals
      intro _ _ _ impossible
      cases impossible

/-- What abandoning frames leaves as it was. -/
structure SamePlace (m m' : Machine) : Prop where
  offset : m'.offset = m.offset
  skip : m'.skip = m.skip
  pending : m'.pending = m.pending
  stopped : m'.stopped = m.stopped

theorem abandon_samePlace (m : Machine) (g : Grammar) (stop : Nat) :
    SamePlace m (m.abandon g stop) := by
  unfold abandon
  split
  · exact ⟨rfl, rfl, rfl, rfl⟩
  · exact ⟨emit_offset _ _, emit_skip _ _, emit_pending _ _, emit_stopped _ _⟩

theorem abandonMany_samePlace (g : Grammar) (stop : Nat) :
    ∀ (n : Nat) (m : Machine), SamePlace m (m.abandonMany g stop n) := by
  intro n
  induction n with
  | zero => intro m; exact ⟨rfl, rfl, rfl, rfl⟩
  | succ n ih =>
    intro m
    have first := abandon_samePlace m g stop
    have rest := ih (m.abandon g stop)
    exact ⟨rest.offset.trans first.offset, rest.skip.trans first.skip,
      rest.pending.trans first.pending, rest.stopped.trans first.stopped⟩

theorem element_of_closes?_zero {e : Reading.EndTagReading} {frames : List Frame}
    (closing : closes? e frames = some 0) :
    ∃ tag body rest, frames = .element tag body :: rest := by
  unfold closes? at closing
  split at closing
  · exact ⟨_, _, _, rfl⟩
  · cases closing

theorem element_of_closes?_succ {e : Reading.EndTagReading} {frames : List Frame} {depth : Nat}
    (closing : closes? e frames = some (depth + 1)) :
    ∃ tag body rest, frames = .element tag body :: rest ∧ closes? e rest = some depth := by
  unfold closes? at closing
  split at closing
  · split at closing
    · cases closing
    · rcases Option.map_eq_some_iff.mp closing with ⟨k, below, same⟩
      exact ⟨_, _, _, rfl, by rw [below, Nat.succ.inj same]⟩
  · cases closing

/-- Abandoning the elements inside the one that an end tag closes brings that one to the top. -/
theorem abandonMany_closes (e : Reading.EndTagReading) (stop : Nat) :
    ∀ (depth : Nat) (m : Machine), closes? e m.frames = some depth →
      Stacked g content m.root m.frames stop →
      closes? e (m.abandonMany g stop depth).frames = some 0
        ∧ Stacked g content (m.abandonMany g stop depth).root (m.abandonMany g stop depth).frames
            stop := by
  intro depth
  induction depth with
  | zero => intro m closing stacked; exact ⟨closing, stacked⟩
  | succ depth ih =>
    intro m closing stacked
    rcases element_of_closes?_succ closing with ⟨tag, body, rest, frames, below⟩
    refine ih (m.abandon g stop) ?_ (Stacked.abandon_element frames stacked)
    unfold abandon
    rw [frames]
    exact (closes?_emit e _).trans below

theorem endTag_takes (ready : Ready g content offset m) (ahead : content.drop offset = t)
    (nonempty : t ≠ []) : Takes g content offset t (m.endTag g t) := by
  have stands : Text.StandsAt content offset t := ahead ▸ Text.StandsAt.of_drop content offset
  rcases Reading.endTag_sound t nonempty with ⟨positive, inside⟩
  unfold endTag
  dsimp only
  rw [ready.place]
  split
  · next depth closing =>
    have same := abandonMany_samePlace g offset depth m
    rcases abandonMany_closes _ offset depth m closing ready.stacked with ⟨closingTop, stacked⟩
    rcases element_of_closes?_zero closingTop with ⟨tag, body, rest, top⟩
    have place := same.offset.trans ready.place
    have clear := same.pending.trans ready.clear
    have running := same.stopped.trans ready.running
    generalize m.abandonMany g offset depth = m' at stacked top place clear running ⊢
    rw [top] at stacked ⊢
    rcases stacked with ⟨below, attributes, ordered, plain, gathered⟩
    dsimp only
    rw [place]
    refine ⟨_, positive, inside, took_emit_take rfl clear running below ?_⟩
    exact covers_element attributes ordered plain gathered (Or.inr ⟨rfl, by omega⟩)
  · refine (ready.report _).leaf ?_ rfl rfl positive inside
    exact stands.take_eq_slice inside

/-- A brace that closes the block on top of the stack ends its directive. -/
theorem closeBlock_takes (ready : Ready g content offset m) {b : UInt8} {rest : Text}
    (ahead : content.drop offset = b :: rest) (closes : m.closesBlock b = true) :
    Takes g content offset (b :: rest) (m.closeBlock g) := by
  unfold closesBlock at closes
  rw [Bool.and_eq_true, beq_iff_eq] at closes
  rcases closes with ⟨rfl, isBlock⟩
  have byte : content[offset]? = some 0x7D := by
    have front := congrArg List.head? ahead
    rwa [List.head?_drop] at front
  split at isBlock
  · next start head brace body below top =>
    have stacked := ready.stacked
    rw [top] at stacked
    rcases stacked with ⟨stackedBelow, faithful, opens, closed, ordered, gathered⟩
    have bound := gathered.2.le
    unfold closeBlock
    rw [top]
    dsimp only
    rw [ready.place]
    refine ⟨1, Nat.one_pos, Nat.succ_le_succ (Nat.zero_le _),
      took_emit_take rfl ready.clear ready.running stackedBelow ⟨?_, rfl, by omega⟩⟩
    refine .intro _ ⟨rfl, Node.written_of_brace faithful opens ?_⟩ gathered.inside
    exact .closed closed byte rfl gathered.2
  · cases isBlock

/-- A block that the end of the file leaves open covers the rest of it. -/
theorem covers_unclosed {start brace stop : Nat} {head : DirectiveHead} {body : List Node}
    (faithful : head.Faithful g.file content start)
    (opens : head.openingBrace? content start = some brace) (ordered : start ≤ brace)
    (gathered : Gathered g content (brace + 1) body stop) (ends : stop = content.length) :
    Covers g content (.directive (g.span start stop)
      { head with diagnostics := head.diagnostics ++ [g.unclosedBlock head.keyword brace] }
      body.reverse) start stop := by
  have bound := gathered.2.le
  subst ends
  -- The finding about the block is none about a token, so the brace is found as before.
  have same : DirectiveHead.openingBrace? content start
      { head with diagnostics := head.diagnostics ++ [g.unclosedBlock head.keyword brace] } =
      head.openingBrace? content start := by
    have read : DirectiveHead.tokensRead
        { head with diagnostics := head.diagnostics ++ [g.unclosedBlock head.keyword brace] } =
        head.tokensRead := by
      rw [DirectiveHead.tokensRead, DirectiveHead.tokensRead, List.any_append]
      exact congrArg _ (Bool.or_false _)
    rw [DirectiveHead.openingBrace?, DirectiveHead.openingBrace?, read]
    rfl
  refine ⟨.intro _ ⟨rfl, Node.written_of_brace ⟨faithful.keyword, faithful.tokens⟩
    (same.trans opens) ?_⟩ gathered.inside, rfl, by omega⟩
  refine .unclosed ?_ rfl gathered.2
  rw [isUnclosed_append]
  exact Bool.or_true _

theorem length_frames_emit (m : Machine) (n : Node) :
    (m.emit n).frames.length = m.frames.length := by
  unfold emit
  split
  · next empty => rw [empty]
  · next top => rw [top, List.length_cons, List.length_cons]
  · next top => rw [top, List.length_cons, List.length_cons]

theorem length_frames_flush (m : Machine) (file : Nat) :
    (m.flush file).frames.length = m.frames.length := by
  unfold Machine.flush
  split
  · rfl
  · exact length_frames_emit _ _

/-- At the end of the file every frame is closed without a gap. -/
theorem Stacked.abandonMany :
    ∀ (n : Nat) (m : Machine), m.frames.length = n →
      Stacked g content m.root m.frames content.length →
      Gathered g content 0 (m.abandonMany g content.length n).root content.length := by
  intro n
  induction n with
  | zero =>
    intro m empty stacked
    rw [List.length_eq_zero_iff.mp empty] at stacked
    exact stacked
  | succ n ih =>
    intro m many stacked
    cases top : m.frames with
    | nil => rw [top] at many; cases many
    | cons frame rest =>
      have fewer : (m.abandon g content.length).frames.length = n := by
        unfold Machine.abandon
        rw [top]
        rw [top, List.length_cons] at many
        exact (length_frames_emit _ _).trans (Nat.succ.inj many)
      refine ih (m.abandon g content.length) fewer ?_
      cases frame with
      | element tag body => exact Stacked.abandon_element top stacked
      | block start head brace braces body =>
        rw [top] at stacked
        rcases stacked with ⟨below, faithful, opens, closed, ordered, gathered⟩
        unfold Machine.abandon
        rw [top]
        exact Stacked.emit (m := { m with frames := rest }) below
          (covers_unclosed faithful opens ordered gathered rfl)

/-! ## Steps -/

/-- The machine between two bytes: all before the pending bytes is covered, or all up to the end of
the construct that is being passed over. -/
structure Sound (g : Grammar) (content : Text) (m : Machine) : Prop where
  running : m.stopped = false
  waiting : Reading.Pending content m.offset m.pending
  exclusive : m.skip = 0 ∨ m.pending = []
  stacked : Stacked g content m.root m.frames (m.offset + m.skip - m.pending.length)

/-- The literal bytes gathered so far become a node. -/
theorem Stacked.flush (stacked : Stacked g content m.root m.frames (m.offset - m.pending.length))
    (waiting : Reading.Pending content m.offset m.pending) :
    (m.flush g.file).offset = m.offset ∧ (m.flush g.file).pending = []
      ∧ (m.flush g.file).stopped = m.stopped
      ∧ Stacked g content (m.flush g.file).root (m.flush g.file).frames m.offset := by
  unfold Machine.flush
  split
  · next nothing =>
    have clear := List.isEmpty_iff.mp nothing
    rw [clear] at stacked
    exact ⟨rfl, clear, rfl, stacked⟩
  · next something =>
    have positive : 0 < m.pending.length := by
      rw [List.isEmpty_iff] at something
      exact List.length_pos_iff.mpr something
    have covers : Covers g content (.text ⟨g.file, m.offset - m.pending.length, m.offset⟩
        m.pending.reverse) (m.offset - m.pending.length) m.offset :=
      .leaf waiting.2 rfl rfl (by have bound := waiting.1; omega)
    exact ⟨emit_offset _ _, emit_pending _ _, emit_stopped _ _,
      Stacked.emit (m := { m with pending := [] }) stacked covers⟩

theorem Sound.flush (sound : Sound g content m) (idle : m.skip = 0) :
    Ready g content m.offset (m.flush g.file) := by
  have stacked := sound.stacked
  rw [idle, Nat.add_zero] at stacked
  rcases Stacked.flush stacked sound.waiting with ⟨place, clear, running, flushed⟩
  exact ⟨place, clear, running.trans sound.running, flushed⟩

/-- Literal braces are counted, which the stack does not depend on. -/
theorem Stacked.literal {stop : Nat} (stacked : Stacked g content m.root m.frames stop)
    (b : UInt8) : Stacked g content (m.literal b).root (m.literal b).frames stop := by
  unfold Machine.literal
  dsimp only
  split
  · next top =>
    rw [top] at stacked
    exact stacked
  · exact stacked

theorem Sound.literal (sound : Sound g content m) (idle : m.skip = 0) {b : UInt8}
    (byte : content[m.offset]? = some b) : Sound g content ((m.literal b).advance b) := by
  refine ⟨sound.running, sound.waiting.cons byte, Or.inl idle, ?_⟩
  have bound := sound.waiting.1
  have place : m.offset + 1 + m.skip - (b :: m.pending).length =
      m.offset + m.skip - m.pending.length := by
    rw [List.length_cons]
    omega
  change Stacked g content (m.literal b).root (m.literal b).frames
    (m.offset + 1 + m.skip - (b :: m.pending).length)
  rw [place]
  exact Stacked.literal sound.stacked b

/-- After its first byte a construct is being passed over. -/
theorem Takes.advance {t : Text} (takes : Takes g content offset t m) (b : UInt8) :
    Sound g content (m.advance b) ∧ m.offset = offset ∧ m.skip + 1 ≤ t.length := by
  rcases takes with ⟨n, positive, inside, took⟩
  have passing := took.passing
  refine ⟨⟨took.running, ?_, Or.inr took.clear, ?_⟩, took.place, by omega⟩
  · change Reading.Pending content _ m.pending
    rw [took.clear]
    exact .nil content _
  · have place : m.offset + 1 + m.skip - m.pending.length = offset + n := by
      rw [took.clear, took.place, List.length_nil]
      omega
    change Stacked g content m.root m.frames (m.offset + 1 + m.skip - m.pending.length)
    rw [place]
    exact took.stacked

theorem closesBlock_flush (m : Machine) (file : Nat) (b : UInt8) :
    (m.flush file).closesBlock b = m.closesBlock b := by
  unfold Machine.flush
  split
  · rfl
  · rcases m with ⟨offset, skip, previous?, pending, root, frames, seen, found, stopped⟩
    cases frames with
    | nil => rfl
    | cons frame rest =>
      cases frame with
      | element tag body => rfl
      | block start head brace braces body => cases braces <;> rfl

/-- Looking at a byte covers it, as literal text or as the first byte of a construct that ends
inside the text; or reading stops before it, which only the search for leading directives does, and
only outside all frames. -/
theorem look_sound (sound : Sound g content m) (idle : m.skip = 0) {b : UInt8} {rest : Text}
    (ahead : content.drop m.offset = b :: rest) :
    (g.leadingOnly = true ∧ m.frames = [] ∧ m.look g b rest = { m with stopped := true })
      ∨ Sound g content ((m.look g b rest).advance b) ∧ (m.look g b rest).offset = m.offset
        ∧ (m.look g b rest).skip + 1 ≤ (b :: rest).length := by
  have ready := sound.flush idle
  have nonempty : b :: rest ≠ [] := List.cons_ne_nil _ _
  have byte : content[m.offset]? = some b := by
    have front := congrArg List.head? ahead
    rwa [List.head?_drop] at front
  have literal : Sound g content ((m.literal b).advance b) ∧ (m.literal b).offset = m.offset
      ∧ (m.literal b).skip + 1 ≤ (b :: rest).length := by
    refine ⟨sound.literal idle byte, rfl, ?_⟩
    change m.skip + 1 ≤ _
    rw [idle, List.length_cons]
    omega
  unfold look
  dsimp only
  split
  · next stops =>
    rw [Bool.and_eq_true, Bool.and_eq_true, List.isEmpty_iff] at stops
    exact Or.inl ⟨stops.1.1, stops.1.2, rfl⟩
  right
  split
  · next closes =>
    rw [← closesBlock_flush m g.file b] at closes
    exact (closeBlock_takes ready ahead closes).advance b
  split
  · next isAt =>
    rw [Bool.and_eq_true, beq_iff_eq] at isAt
    rcases isAt with ⟨rfl, -⟩
    exact (transition_takes ready ahead).advance _
  split
  · split
    · exact (markupComment_takes ready nonempty).advance b
    split
    · exact (endTag_takes ready ahead nonempty).advance b
    split
    · exact (startTag_takes ready ahead nonempty).advance b
    · exact literal
  · exact literal

/-- A byte of a construct is passed over. -/
theorem Sound.pass (sound : Sound g content m) {skip : Nat} (passed : m.skip = skip + 1) (b : UInt8) :
    m.pending = [] ∧ Sound g content ({ m with skip }.advance b) := by
  have clear : m.pending = [] := by
    rcases sound.exclusive with idle | clear
    · rw [idle] at passed
      cases passed
    · exact clear
  refine ⟨clear, sound.running, ?_, Or.inr clear, ?_⟩
  · change Reading.Pending content _ m.pending
    rw [clear]
    exact .nil content _
  · have place : m.offset + 1 + skip - m.pending.length =
        m.offset + m.skip - m.pending.length := by
      rw [passed]
      omega
    change Stacked g content m.root m.frames (m.offset + 1 + skip - m.pending.length)
    rw [place]
    exact sound.stacked

/-- The machine after a run: it has covered everything, or stopped outside all frames. -/
structure Finished (g : Grammar) (content : Text) (m : Machine) : Prop where
  waiting : Reading.Pending content m.offset m.pending
  stacked : Stacked g content m.root m.frames (m.offset - m.pending.length)
  reached : m.offset = content.length ∨ g.leadingOnly = true ∧ m.frames = []

/-- What a step keeps, a run keeps: it covers the text as far as it goes. -/
theorem run_finished (t : Text) :
    ∀ m : Machine, Sound g content m → content.drop m.offset = t → m.offset ≤ content.length →
      m.skip ≤ t.length → Finished g content (run g m t) := by
  induction t with
  | nil =>
    intro m sound ahead bounded passing
    have reached := congrArg List.length ahead
    rw [List.length_drop, List.length_nil] at reached
    have stacked := sound.stacked
    rw [Nat.le_zero.mp passing, Nat.add_zero] at stacked
    exact ⟨sound.waiting, stacked, Or.inl (by change m.offset = content.length; omega)⟩
  | cons b rest ih =>
    intro m sound ahead bounded passing
    have next : content.drop (m.offset + 1) = rest := by
      rw [← List.drop_drop, ahead]
      rfl
    have room := Reading.length_of_drop ahead (List.cons_ne_nil _ _)
    rw [List.length_cons] at room passing
    unfold run
    split
    · next skip passed =>
      exact ih _ (sound.pass passed b).2 next (by change m.offset + 1 ≤ _; omega)
        (by change skip ≤ _; omega)
    · next idle =>
      dsimp only
      rcases look_sound sound idle ahead with ⟨leading, outside, stops⟩ | ⟨soundNext, place, room'⟩
      · have stacked := sound.stacked
        rw [idle, Nat.add_zero] at stacked
        rw [stops, if_pos rfl]
        exact ⟨sound.waiting, stacked, Or.inr ⟨leading, outside⟩⟩
      · have running : (m.look g b rest).stopped = false := soundNext.running
        rw [running, if_neg Bool.false_ne_true]
        rw [List.length_cons] at room'
        refine ih _ soundNext ?_ ?_ ?_
        · change content.drop ((m.look g b rest).offset + 1) = rest
          rw [place]
          exact next
        · change (m.look g b rest).offset + 1 ≤ _
          omega
        · change (m.look g b rest).skip ≤ _
          omega

/-- Closing everything leaves a root that tiles the content as far as the machine went. -/
theorem Finished.gathered (finished : Finished g content m) :
    Gathered g content 0 (m.finish g).root m.offset := by
  rcases Stacked.flush finished.stacked finished.waiting with ⟨place, -, -, stacked⟩
  unfold finish
  dsimp only
  rw [place]
  rcases finished.reached with reached | ⟨-, outside⟩
  · rw [reached] at stacked ⊢
    exact Stacked.abandonMany _ _ rfl stacked
  · have empty : (m.flush g.file).frames = [] := by
      have same := length_frames_flush m g.file
      rw [outside] at same
      exact List.length_eq_zero_iff.mp same
    rw [empty] at stacked ⊢
    exact stacked

end Constructs

theorem sound_start (g : Grammar) (content : Text) : Sound g content {} :=
  ⟨rfl, .nil content 0, Or.inl rfl, .nil g content 0⟩

end Machine

/-- Whatever a file holds, its tree tiles the content as far as it was read, faithfully. -/
theorem parse_gathered (file : SourceFile) (options : ParserOptions) :
    ∃ stop, Span.Tiles file.id 0 ((parse file options).body.map Node.span) stop
      ∧ (∀ n ∈ (parse file options).body, n.Every (Node.Faithful file.id file.content))
      ∧ (options.leadingDirectivesOnly = false → stop = file.content.length) := by
  have start := Machine.sound_start (Grammar.ofOptions file.id options) file.content
  have finished := Machine.run_finished file.content {} start rfl (Nat.zero_le _) (Nat.zero_le _)
  have gathered := finished.gathered
  refine ⟨_, gathered.2, gathered.inside, ?_⟩
  intro whole
  rcases finished.reached with reached | ⟨leading, -⟩
  · exact reached
  · rw [Grammar.ofOptions, whole] at leading
    cases leading

/-- Parsing loses nothing.  Whatever a file holds and whichever directives are known, the tree that
is read from all of the file tiles its content in every body and every value. -/
theorem parse_lossless (file : SourceFile) (options : ParserOptions)
    (whole : options.leadingDirectivesOnly = false) :
    Lossless file.id file.content (parse file options).body := by
  rcases parse_gathered file options with ⟨stop, tiled, faithful, reached⟩
  rw [reached whole] at tiled
  exact ⟨tiled, faithful⟩

/-- The result at a file with a block that is not closed, an element that is closed by the end tag
of another, an unquoted value and one whose code holds a quotation mark. -/
theorem parse_lossless_unclosed :
    let file := SourceFile.ofContent 0 "page.quill"
      "@section Side \x7b <p a=@(\"x\") b='@(\"y'z\")'><b>@name</p> \x7b" .none
    let options : ParserOptions := { directives := [.sectionBlock] }
    options.leadingDirectivesOnly = false
      ∧ Lossless file.id file.content (parse file options).body :=
  ⟨rfl, parse_lossless _ _ rfl⟩

end Syntax

end TemplateCompiler
