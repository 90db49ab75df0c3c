import TemplateCompiler.Syntax.Parser

/-!
# Syntax trees that are faithful to their text

What it means that a tree loses nothing of the text it was read from.  The spans of a list of nodes
*tile* a range if each starts where the one before it ends, the first at the start of the range and
the last at its end, and none is empty.  A node is *faithful* if its texts are the slices of its
spans and the spans of its body tile the range that the body takes in the text.

The range of a body, of an attribute's value and of a directive's block is described by the bytes
around it and not by the parser: an element's body lies between its tags, a value behind an equals
sign and a quotation mark, and a block between its braces.  Nothing here refers to how the parser
finds these places.
-/

namespace TemplateCompiler

/-! ## Slices -/

namespace Text

theorem take_drop_eq_slice (content : Text) (offset n : Nat) :
    (content.drop offset).take n = content.slice offset (offset + n) := by
  rw [slice, Nat.add_sub_cancel_left]

theorem slice_append_slice (content : Text) {start middle stop : Nat} (before : start ≤ middle)
    (after : middle ≤ stop) :
    content.slice start middle ++ content.slice middle stop = content.slice start stop := by
  have width : stop - start = (middle - start) + (stop - middle) := by omega
  have place : start + (middle - start) = middle := by omega
  rw [slice, slice, slice, width, List.take_add, List.drop_drop, place]

/-- One byte further, a slice has one byte more. -/
theorem slice_succ {content : Text} {start stop : Nat} {b : UInt8} (ordered : start ≤ stop)
    (byte : content[stop]? = some b) :
    content.slice start (stop + 1) = content.slice start stop ++ [b] := by
  have inside : stop < content.length := (List.getElem?_eq_some_iff.mp byte).1
  have single : content.slice stop (stop + 1) = [b] := by
    rw [slice, Nat.add_sub_cancel_left, List.drop_eq_getElem_cons inside, List.take_succ_cons,
      List.take_zero, (List.getElem?_eq_some_iff.mp byte).2]
  rw [← single]
  exact (slice_append_slice content ordered (Nat.le_succ stop)).symm

end Text

/-! ## Tilings -/

namespace Span

/-- Spans of a file that are not empty and lead from one offset to another without a gap. -/
def Tiles (file : Nat) : Nat → List Span → Nat → Prop
  | start, [], stop => start = stop
  | start, s :: rest, stop =>
    s.file = file ∧ s.start = start ∧ s.start < s.stop ∧ Tiles file s.stop rest stop

theorem Tiles.le {file : Nat} {spans : List Span} :
    ∀ {start stop : Nat}, Tiles file start spans stop → start ≤ stop := by
  induction spans with
  | nil => intro start stop tiled; exact Nat.le_of_eq tiled
  | cons s rest ih =>
    intro start stop tiled
    rcases tiled with ⟨-, starts, nonempty, tail⟩
    have bound := ih tail
    omega

/-- A tiling goes on with a span that starts where it ends. -/
theorem Tiles.snoc {file : Nat} {spans : List Span} {s : Span} :
    ∀ {start stop : Nat}, Tiles file start spans stop → s.file = file → s.start = stop →
      s.start < s.stop → Tiles file start (spans ++ [s]) s.stop := by
  induction spans with
  | nil =>
    intro start stop tiled same starts nonempty
    exact ⟨same, starts.trans (Eq.symm tiled), nonempty, rfl⟩
  | cons first rest ih =>
    intro start stop tiled same starts nonempty
    rcases tiled with ⟨sameFirst, startsFirst, nonemptyFirst, tail⟩
    exact ⟨sameFirst, startsFirst, nonemptyFirst, ih tail same starts nonempty⟩

theorem Tiles.stop_of_last {file : Nat} {spans : List Span} {s : Span} :
    ∀ {start stop : Nat}, Tiles file start (spans ++ [s]) stop → s.stop = stop := by
  induction spans with
  | nil => exact fun tiled => tiled.2.2.2
  | cons first rest ih => exact fun tiled => ih tiled.2.2.2

theorem Tiles.file_of_mem {file : Nat} {spans : List Span} {s : Span} :
    ∀ {start stop : Nat}, Tiles file start spans stop → s ∈ spans → s.file = file := by
  induction spans with
  | nil => intro start stop tiled member; cases member
  | cons first rest ih =>
    intro start stop tiled member
    rcases tiled with ⟨same, -, -, tail⟩
    rcases List.mem_cons.mp member with rfl | behind
    · exact same
    · exact ih tail behind

end Span

namespace Syntax

/-! ## Values and attributes -/

/-- How an expression is written: after an at sign, or between parentheses, of which only the end
of the file may take the closing one. -/
def ExpressionWritten (content : Text) (span : Span) (code : Text) (explicit : Bool) : Prop :=
  let written := content.slice span.start span.stop
  if explicit then
    written = "@(" ++ code ++ ")" ∨ (written = "@(" ++ code ∧ span.stop = content.length)
  else written = "@" ++ code

/-- A part of a value says what its span covers. -/
def ValuePart.Faithful (content : Text) : ValuePart → Prop
  | .text span written => written = content.slice span.start span.stop
  | .transition span => content.slice span.start span.stop = "@@"
  | .code span written explicit => ExpressionWritten content span written explicit

/-- What stands between the name of an attribute and its value. -/
def SeparatesValue (t : Text) : Prop :=
  ∃ before after : Text, before.all Scan.isSpace = true ∧ after.all Scan.isSpace = true
    ∧ t = before ++ "=" ++ after

/-- The range of the content that the value of an attribute takes. -/
inductive Attribute.ValueAt (content : Text) (a : Attribute) : Nat → Nat → Prop
  /-- There is no value. -/
  | absent (isMinimized : a.minimized = true) (same : a.span = a.nameSpan) :
      ValueAt content a a.span.stop a.span.stop
  /-- An expression in the place of an attribute is all value. -/
  | code (isWritten : a.minimized = false) (nameless : a.name = []) :
      ValueAt content a a.span.start a.span.stop
  | bare {start : Nat} (isWritten : a.minimized = false) (unquoted : a.quote? = none)
      (separated : SeparatesValue (content.slice a.nameSpan.stop start)) :
      ValueAt content a start a.span.stop
  | quoted {quote : UInt8} {opening stop : Nat} (isWritten : a.minimized = false)
      (marked : a.quote? = some quote)
      (separated : SeparatesValue (content.slice a.nameSpan.stop opening))
      (opens : content[opening]? = some quote) (closes : content[stop]? = some quote)
      (ends : a.span.stop = stop + 1) : ValueAt content a (opening + 1) stop
  /-- The closing mark is missing, and the value takes the rest of the file. -/
  | unclosed {quote : UInt8} {opening : Nat} (isWritten : a.minimized = false)
      (marked : a.quote? = some quote)
      (separated : SeparatesValue (content.slice a.nameSpan.stop opening))
      (opens : content[opening]? = some quote) (ends : a.span.stop = content.length) :
      ValueAt content a (opening + 1) content.length

/-- The parts of an attribute's value are faithful and tile the value. -/
structure Attribute.Faithful (file : Nat) (content : Text) (a : Attribute) : Prop where
  named : a.name = [] ∨ a.name = content.slice a.nameSpan.start a.nameSpan.stop
  parts : ∀ part ∈ a.value, part.Faithful content
  tiled : ∃ start stop, a.ValueAt content start stop
    ∧ Span.Tiles file start (a.value.map ValuePart.span) stop

/-! ## Directives -/

/-- A token says what its span covers: its text is the slice of the content of its file. -/
def DirectiveToken.Faithful (file : Nat) (content : Text) (t : DirectiveToken) : Prop :=
  t.span.file = file ∧ t.content = content.slice t.span.start t.span.stop

/-- Whether a finding says that a token is missing or has the wrong shape. -/
def reportsToken (d : Diagnostic) : Bool :=
  d.code == .missingToken || d.code == .invalidToken || d.code == .unterminatedString

namespace DirectiveHead

/-- Whether the tokens of the grammar were read, so that the directive goes on with its body. -/
def tokensRead (head : DirectiveHead) : Bool := !head.diagnostics.any reportsToken

/-- The offset behind the tokens of a directive that starts at an offset. -/
def tokensStop (head : DirectiveHead) (start : Nat) : Nat :=
  (head.tokens.getLast?.map fun t => t.span.stop).getD (start + 1 + head.keyword.length)

/-- The offset of the first byte behind the tokens that is no white space. -/
def bodyStart (content : Text) (start : Nat) (head : DirectiveHead) : Nat :=
  head.tokensStop start + Scan.blank (content.drop (head.tokensStop start))

/-- Whether the grammar of the directive ends with a block of markup. -/
def takesMarkup (head : DirectiveHead) : Bool :=
  head.descriptor.kind != .singleLine && head.descriptor.kind != .codeBlock

/-- The offset of the brace that opens the block of a directive, if the directive has a block of
markup and the brace was found. -/
def openingBrace? (content : Text) (start : Nat) (head : DirectiveHead) : Option Nat :=
  if head.takesMarkup && head.tokensRead && content[head.bodyStart content start]? == some 0x7B then
    some (head.bodyStart content start)
  else none

theorem openingBrace?_of_unread {content : Text} {start : Nat} {head : DirectiveHead}
    (unread : head.tokensRead = false) : head.openingBrace? content start = none := by
  rw [openingBrace?, unread, Bool.and_false, Bool.false_and, if_neg Bool.false_ne_true]

theorem openingBrace?_of_no_markup {content : Text} {start : Nat} {head : DirectiveHead}
    (other : head.takesMarkup = false) : head.openingBrace? content start = none := by
  rw [openingBrace?, other, Bool.false_and, Bool.false_and, if_neg Bool.false_ne_true]

theorem openingBrace?_of_no_brace {content : Text} {start : Nat} {head : DirectiveHead}
    (missing : content[head.bodyStart content start]? ≠ some 0x7B) :
    head.openingBrace? content start = none := by
  rw [openingBrace?, beq_eq_false_iff_ne.mpr missing, Bool.and_false, if_neg Bool.false_ne_true]

theorem openingBrace?_of_brace {content : Text} {start : Nat} {head : DirectiveHead}
    (markup : head.takesMarkup = true) (read : head.tokensRead = true)
    (brace : content[head.bodyStart content start]? = some 0x7B) :
    head.openingBrace? content start = some (head.bodyStart content start) := by
  rw [openingBrace?, markup, read, brace]
  rfl

/-- Whether the directive reports that its block is not closed. -/
def isUnclosed (head : DirectiveHead) : Bool :=
  head.diagnostics.any fun d => d.code == .unterminatedBlock

/-- A directive's keyword and tokens say what stands in the text. -/
structure Faithful (file : Nat) (content : Text) (start : Nat) (head : DirectiveHead) : Prop where
  keyword : content.slice start (start + 1 + head.keyword.length) = "@" ++ head.keyword
  tokens : ∀ token ∈ head.tokens, token.Faithful file content

end DirectiveHead

/-- The body of a directive whose block opens with the brace at an offset: its spans tile the text
from just behind the brace to the brace that closes the block, or to the end of the file. -/
inductive BlockTiled (file : Nat) (content : Text) (span : Span) (head : DirectiveHead)
    (brace : Nat) (spans : List Span) : Prop
  | closed {closing : Nat} (reported : head.isUnclosed = false)
      (closes : content[closing]? = some 0x7D) (ends : span.stop = closing + 1)
      (tiled : Span.Tiles file (brace + 1) spans closing)
  | unclosed (reported : head.isUnclosed = true) (ends : span.stop = content.length)
      (tiled : Span.Tiles file (brace + 1) spans content.length)

/-! ## Nodes -/

namespace Node

/-- A property holds of a node and of all nodes inside it. -/
inductive Every (P : Node → Prop) : Node → Prop
  | intro (n : Node) (self : P n) (inside : ∀ child ∈ n.body, Every P child) : Every P n

/-- A property that follows from another at each node follows for whole trees. -/
theorem Every.imp {P Q : Node → Prop} (implies : ∀ n, P n → Q n) {n : Node}
    (every : Every P n) : Every Q n := by
  induction every with
  | intro n self _ ih => exact .intro n (implies n self) ih

theorem Every.self {P : Node → Prop} {n : Node} (every : Every P n) : P n := by
  cases every with
  | intro _ self _ => exact self

theorem Every.inside {P : Node → Prop} {n : Node} (every : Every P n) :
    ∀ child ∈ n.body, Every P child := by
  cases every with
  | intro _ _ inside => exact inside

theorem every_leaf {P : Node → Prop} {n : Node} (self : P n) (bare : n.body = []) :
    n.Every P := by
  apply Every.intro n self
  rw [bare]
  exact List.forall_mem_nil _

/-- The spans of an element, its tag, its end tag and its body fit together. -/
def ElementTiled (file : Nat) (span : Span) (tag : StartTag) (endTag? : Option Span)
    (spans : List Span) : Prop :=
  span.start = tag.span.start ∧
    match endTag? with
    | none => Span.Tiles file tag.span.stop spans span.stop
    | some endTag => endTag.file = file ∧ endTag.start < endTag.stop ∧ endTag.stop = span.stop
        ∧ Span.Tiles file tag.span.stop spans endTag.start

/-- What a node says stands in the content at its span.  Nodes of tag helpers are never read. -/
def Written (file : Nat) (content : Text) : Node → Prop
  | .text span written => written = content.slice span.start span.stop
  | .element span tag endTag? body =>
    (∀ a ∈ tag.attributes, a.Faithful file content)
      ∧ ElementTiled file span tag endTag? (body.map Node.span)
      ∧ ((tag.selfClosing || tag.void) = true → endTag? = none ∧ body = [])
  | .directive span head body =>
    head.Faithful file content span.start ∧
      match head.openingBrace? content span.start with
      | none => body = []
      | some brace => BlockTiled file content span head brace (body.map Node.span)
  | .transition span => content.slice span.start span.stop = "@@"
  | .expression span code explicit => ExpressionWritten content span code explicit
  | .markupComment .. | .codeBlock .. | .comment .. => True
  | .helper .. => False

section Directives

variable {file : Nat} {content : Text} {span : Span} {head : DirectiveHead} {body : List Node}

theorem written_of_no_brace (faithful : head.Faithful file content span.start)
    (unopened : head.openingBrace? content span.start = none) :
    Written file content (.directive span head []) := by
  refine ⟨faithful, ?_⟩
  rw [unopened]

theorem written_of_brace {brace : Nat} (faithful : head.Faithful file content span.start)
    (opens : head.openingBrace? content span.start = some brace)
    (tiled : BlockTiled file content span head brace (body.map Node.span)) :
    Written file content (.directive span head body) := by
  refine ⟨faithful, ?_⟩
  rw [opens]
  exact tiled

end Directives

/-- A node is faithful to the content of the file it was read from. -/
structure Faithful (file : Nat) (content : Text) (n : Node) : Prop where
  located : n.span.file = file
  written : n.Written file content

end Node

/-- A tree that loses nothing of its text: the spans of its root tile the content, and every node
at any depth is faithful. -/
structure Lossless (file : Nat) (content : Text) (body : List Node) : Prop where
  tiled : Span.Tiles file 0 (body.map Node.span) content.length
  faithful : ∀ n ∈ body, n.Every (Node.Faithful file content)

end Syntax

end TemplateCompiler
