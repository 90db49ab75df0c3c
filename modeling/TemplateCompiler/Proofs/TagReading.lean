import TemplateCompiler.Proofs.Faithful
import TemplateCompiler.Proofs.ScanBounds

/-!
# Tags are read faithfully

The readers of values, attributes and tags look at a text that stands somewhere in the content of a
file.  What they return is faithful to that content, and the lengths that they report stay inside
the text.  Nothing is assumed about the bytes: a tag may end with the file, a quotation mark may be
missing, and code inside a value may hold anything.

A value is divided while it is scanned.  The invariant of that recursion is that the parts so far
end where the literal bytes that are still pending begin, so every part, when it is added, starts
where the one before it ended.
-/

namespace TemplateCompiler

/-! ## Texts inside a content -/

namespace Text

def StandsAt (content : Text) (offset : Nat) (t : Text) : Prop := t <+: content.drop offset

namespace StandsAt

variable {content t : Text} {offset : Nat}

theorem of_drop (content : Text) (offset : Nat) : StandsAt content offset (content.drop offset) :=
  List.prefix_rfl

theorem take (stands : StandsAt content offset t) (n : Nat) :
    StandsAt content offset (t.take n) :=
  (List.take_prefix n t).trans stands

theorem drop (stands : StandsAt content offset t) (n : Nat) :
    StandsAt content (offset + n) (t.drop n) := by
  rcases stands with ⟨rest, whole⟩
  refine ⟨rest.drop (n - t.length), ?_⟩
  rw [← List.drop_append, whole, List.drop_drop]

theorem tail {b : UInt8} (stands : StandsAt content offset (b :: t)) :
    StandsAt content (offset + 1) t := stands.drop 1

theorem getElem? (stands : StandsAt content offset t) {k : Nat} {b : UInt8}
    (byte : t[k]? = some b) : content[offset + k]? = some b := by
  rw [← List.getElem?_drop]
  rcases stands with ⟨rest, whole⟩
  rw [← whole]
  have inside := (List.getElem?_eq_some_iff.mp byte).1
  rw [List.getElem?_append_left inside]
  exact byte

theorem take_eq_slice (stands : StandsAt content offset t) {n : Nat} (inside : n ≤ t.length) :
    t.take n = content.slice offset (offset + n) := by
  rw [← take_drop_eq_slice]
  rcases stands with ⟨rest, whole⟩
  rw [← whole, List.take_append_of_le_length inside]

theorem slice_eq (stands : StandsAt content offset t) {start stop : Nat}
    (inside : stop ≤ t.length) :
    t.slice start stop = content.slice (offset + start) (offset + stop) := by
  by_cases ordered : start ≤ stop
  · have moved := (stands.drop start).take_eq_slice (n := stop - start)
      (by rw [List.length_drop]; omega)
    have place : offset + start + (stop - start) = offset + stop := by omega
    rw [place] at moved
    exact moved
  · have none : stop - start = 0 := by omega
    have none' : offset + stop - (offset + start) = 0 := by omega
    rw [slice, slice, none, none', List.take_zero, List.take_zero]

end StandsAt

/-- A text cut at one of its bytes, with its first byte apart. -/
theorem take_succ_eq_slice {t : Text} {first last : UInt8} {k : Nat}
    (starts : t.head? = some first) (ends : t[k]? = some last) (different : first ≠ last) :
    t.take (k + 1) = first :: t.slice 1 k ++ [last] := by
  cases t with
  | nil => cases starts
  | cons b t =>
    have same : b = first := by simpa only [List.head?_cons, Option.some.injEq] using starts
    subst same
    cases k with
    | zero =>
      have clash : b = last := by
        simpa only [List.getElem?_cons_zero, Option.some.injEq] using ends
      exact absurd clash different
    | succ k =>
      rw [List.getElem?_cons_succ] at ends
      have inside := (List.getElem?_eq_some_iff.mp ends).1
      have byte := (List.getElem?_eq_some_iff.mp ends).2
      rw [List.take_succ_cons, List.take_succ_eq_append_getElem inside, byte]
      rfl

end Text

namespace Syntax

namespace Reading

/-! ## Values -/

/-- Parts that are faithful and tile a range: they say what their spans cover, and the spans follow
each other from one end of the range to the other. -/
def PartsRead (r : Reading) (content : Text) (start : Nat) (parts : List ValuePart)
    (stop : Nat) : Prop :=
  (∀ part ∈ parts, part.Faithful content)
    ∧ Span.Tiles r.file start (parts.map ValuePart.span) stop

/-- The bytes gathered, latest first, are those before an offset. -/
def Pending (content : Text) (offset : Nat) (pending : Text) : Prop :=
  pending.length ≤ offset ∧ pending.reverse = content.slice (offset - pending.length) offset

theorem Pending.nil (content : Text) (offset : Nat) : Pending content offset [] := by
  refine ⟨Nat.zero_le _, ?_⟩
  rw [Text.slice, List.length_nil, Nat.sub_zero, Nat.sub_self, List.take_zero, List.reverse_nil]

theorem Pending.cons {content pending : Text} {offset : Nat} {b : UInt8}
    (gathered : Pending content offset pending) (byte : content[offset]? = some b) :
    Pending content (offset + 1) (b :: pending) := by
  rcases gathered with ⟨inside, same⟩
  have place : offset + 1 - (b :: pending).length = offset - pending.length := by
    rw [List.length_cons]
    omega
  refine ⟨by rw [List.length_cons]; omega, ?_⟩
  rw [place, List.reverse_cons, same]
  exact (Text.slice_succ (Nat.sub_le _ _) byte).symm

theorem gathered_partsRead {r : Reading} {content pending : Text} {offset stop : Nat}
    {parts : List ValuePart} (waiting : Pending content offset pending)
    (read : r.PartsRead content offset parts stop) :
    r.PartsRead content (offset - pending.length) (r.gathered offset pending parts) stop := by
  rw [gathered]
  cases pending with
  | nil => exact read
  | cons b pending =>
    rcases waiting with ⟨inside, same⟩
    rcases read with ⟨faithful, tiled⟩
    have nonempty : 0 < (b :: pending).length := Nat.succ_pos _
    refine ⟨?_, rfl, rfl, ?_, tiled⟩
    · intro part member
      rcases List.mem_cons.mp member with rfl | behind
      · exact same
      · exact faithful part behind
    · change offset - (b :: pending).length < offset
      omega

/-- An explicit expression that is closed is written between its parentheses. -/
theorem expressionWritten_closed {content t : Text} {offset k : Nat}
    (stands : Text.StandsAt content offset ('@'.toUInt8 :: t))
    (opens : t.head? = some '('.toUInt8) (closed : Scan.closingParenthesis? t = some k)
    (file : Nat) :
    ExpressionWritten content ⟨file, offset, offset + (k + 2)⟩ (t.slice 1 k) true := by
  have inside := Scan.closing?_lt_length closed
  have cut := Text.take_succ_eq_slice opens (Scan.getElem?_of_closingFrom closed) (by decide)
  refine Or.inl ?_
  rw [← stands.take_eq_slice (by rw [List.length_cons]; omega), List.take_succ_cons, cut]
  rfl

theorem expressionWritten_implicit {content t : Text} {offset n : Nat}
    (stands : Text.StandsAt content offset ('@'.toUInt8 :: t)) (inside : n ≤ t.length)
    (file : Nat) :
    ExpressionWritten content ⟨file, offset, offset + (n + 1)⟩ (t.take n) false := by
  change content.slice offset (offset + (n + 1)) = _
  rw [← stands.take_eq_slice (by rw [List.length_cons]; omega), List.take_succ_cons]
  rfl

/-- A part of `n + 1` bytes is followed by what is read behind it. -/
theorem gathered_part_partsRead {r : Reading} {content pending : Text} {offset n stop : Nat}
    {p : ValuePart} {parts : List ValuePart} (waiting : Pending content offset pending)
    (faithful : p.Faithful content) (spanned : p.span = r.span offset (offset + (n + 1)))
    (behind : r.PartsRead content (offset + 1 + n) parts stop) :
    r.PartsRead content (offset - pending.length) (r.gathered offset pending (p :: parts)) stop := by
  apply gathered_partsRead waiting
  refine ⟨List.forall_mem_cons.mpr ⟨faithful, behind.1⟩, ?_⟩
  have place : offset + (n + 1) = offset + 1 + n := by omega
  rw [List.map_cons, spanned, place]
  refine ⟨rfl, rfl, ?_, behind.2⟩
  change offset < offset + 1 + n
  omega

/-- The byte that a division looks at is pending afterwards, or the first one of a part. -/
theorem valueFrom_cons_partsRead {r : Reading} {content t pending : Text} {b : UInt8}
    {offset stop : Nat} (previous? : Option UInt8)
    (stands : Text.StandsAt content offset (b :: t)) (waiting : Pending content offset pending)
    (literal : r.PartsRead content (offset - pending.length)
      (r.valueFrom 0 (offset + 1) (some b) (b :: pending) t).1 stop)
    (behind : ∀ n ≤ t.length, r.PartsRead content (offset + 1 + n)
      (r.valueFrom n (offset + 1) (some b) [] t).1 stop) :
    r.PartsRead content (offset - pending.length)
      (r.valueFrom 0 offset previous? pending (b :: t)).1 stop := by
  rw [valueFrom.eq_def]
  dsimp only
  split
  · exact literal
  · next c rest =>
    split
    · exact literal
    · next escape =>
      have isAt : b = '@'.toUInt8 := by
        rw [Bool.or_eq_true, not_or, bne_iff_ne] at escape
        exact Decidable.not_not.mp escape.1
      subst isAt
      split
      · next isSecond =>
        have same : c = '@'.toUInt8 := by simpa only [beq_iff_eq] using isSecond
        subst same
        have inside : 1 ≤ ('@'.toUInt8 :: rest).length := Nat.succ_pos _
        refine gathered_part_partsRead waiting ?_ rfl (behind 1 inside)
        change content.slice offset (offset + 2) = _
        rw [← stands.take_eq_slice (by simp only [List.length_cons]; omega)]
        rfl
      split
      · next isOpening =>
        have same : c = '('.toUInt8 := by simpa only [beq_iff_eq] using isOpening
        subst same
        split
        · next k closed =>
          have inside := Scan.closing?_lt_length closed
          have written := expressionWritten_closed stands rfl closed r.file
          exact gathered_part_partsRead waiting written rfl (behind (k + 1) inside)
        · exact literal
      split
      · have inside := Scan.implicit_le_length r.features.nullForgiving (c :: rest)
        have written := expressionWritten_implicit stands inside r.file
        exact gathered_part_partsRead waiting written rfl (behind _ inside)
      · exact literal

/-- Dividing a value loses nothing of it.  While bytes are being passed over, nothing is pending;
otherwise the range begins with the bytes that are. -/
theorem valueFrom_partsRead (r : Reading) (content t : Text) :
    ∀ (skip offset : Nat) (previous? : Option UInt8) (pending : Text),
      Text.StandsAt content offset t → Pending content offset pending →
      (skip = 0 ∨ pending = []) → skip ≤ t.length →
      r.PartsRead content (offset + skip - pending.length)
        (r.valueFrom skip offset previous? pending t).1 (offset + t.length) := by
  induction t with
  | nil =>
    intro skip offset previous? pending stands waiting exclusive bounded
    have none : skip = 0 := Nat.le_zero.mp bounded
    subst none
    simp only [valueFrom, List.length_nil, Nat.add_zero]
    exact gathered_partsRead waiting ⟨fun part member => absurd member List.not_mem_nil, rfl⟩
  | cons b t ih =>
    intro skip offset previous? pending stands waiting exclusive bounded
    have whole : offset + (b :: t).length = offset + 1 + t.length := by
      rw [List.length_cons]
      omega
    rw [whole]
    have behind (n : Nat) (inside : n ≤ t.length) : r.PartsRead content (offset + 1 + n)
        (r.valueFrom n (offset + 1) (some b) [] t).1 (offset + 1 + t.length) :=
      ih n (offset + 1) (some b) [] stands.tail (.nil content _) (.inr rfl) inside
    cases skip with
    | succ skip =>
      have nothing : pending = [] := exclusive.resolve_left (Nat.succ_ne_zero skip)
      subst nothing
      have place : offset + (skip + 1) - ([] : Text).length = offset + 1 + skip := by
        rw [List.length_nil]
        omega
      rw [valueFrom, place]
      exact behind skip (Nat.le_of_succ_le_succ bounded)
    | zero =>
      have byte : content[offset]? = some b := by
        simpa only [Nat.add_zero] using stands.getElem? List.getElem?_cons_zero
      have literal := ih 0 (offset + 1) (some b) (b :: pending) stands.tail (waiting.cons byte)
        (.inl rfl) (Nat.zero_le _)
      have place : offset + 1 + 0 - (b :: pending).length = offset - pending.length := by
        rw [List.length_cons]
        omega
      rw [place] at literal
      exact valueFrom_cons_partsRead previous? stands waiting literal behind

theorem value_partsRead (r : Reading) {content t : Text} {offset : Nat}
    (stands : Text.StandsAt content offset t) :
    r.PartsRead content offset (r.value offset t).1 (offset + t.length) :=
  valueFrom_partsRead r content t 0 offset none [] stands (.nil content offset) (.inl rfl)
    (Nat.zero_le _)

/-! ## Attributes -/

theorem quotedLength_addsUp (r : Reading) (quote : UInt8) :
    Scan.AddsUp (r.quotedLength quote) where
  nil skip := by cases skip <;> rfl
  passed _ _ _ := rfl
  looked b t := by
    rw [quotedLength.eq_def]
    dsimp only
    split
    · exact .inl rfl
    split
    · split
      · exact .inr ⟨_, rfl⟩
      · exact .inr ⟨_, rfl⟩
    split
    · exact .inr ⟨_, rfl⟩
    · exact .inr ⟨_, rfl⟩

/-- A quoted value that ends before the text does ends at its closing mark. -/
theorem getElem?_quotedLength (r : Reading) (quote : UInt8) (t : Text) :
    ∀ skip, r.quotedLength quote skip t < t.length →
      t[r.quotedLength quote skip t]? = some quote := by
  induction t with
  | nil => intro skip inside; cases inside
  | cons b t ih =>
    have behind : ∀ skip, 1 + r.quotedLength quote skip t < (b :: t).length →
        (b :: t)[1 + r.quotedLength quote skip t]? = some quote := by
      intro skip inside
      rw [List.length_cons] at inside
      rw [Nat.add_comm, List.getElem?_cons_succ]
      exact ih skip (by omega)
    intro skip
    cases skip with
    | succ skip => exact behind skip
    | zero =>
      rw [quotedLength.eq_def]
      dsimp only
      split
      · next isQuote =>
        intro _
        rw [List.getElem?_cons_zero, eq_of_beq isQuote]
      split
      · split
        · exact behind _
        · exact behind _
      split
      · exact behind _
      · exact behind _

theorem bareLength_le_length (t : Text) : bareLength t ≤ t.length := by
  induction t with
  | nil => exact Nat.le_refl _
  | cons b t ih =>
    rw [bareLength, List.length_cons]
    split <;> omega

theorem nameLength_le_length (t : Text) : nameLength t ≤ t.length := by
  induction t with
  | nil => exact Nat.le_refl _
  | cons b t ih =>
    rw [nameLength, List.length_cons]
    split <;> omega

/-- An offset with text behind it lies inside the content. -/
theorem length_of_drop {content t : Text} {offset : Nat} (ahead : content.drop offset = t)
    (nonempty : t ≠ []) : offset + t.length = content.length := by
  have measured := congrArg List.length ahead
  rw [List.length_drop] at measured
  have positive := List.length_pos_iff.mpr nonempty
  omega

/-- Where the value of an attribute stands, told from its reading: `start` is where the text of the
value begins, with its quotation mark if it has one. -/
inductive ValueRead (content : Text) (start : Nat) :
    Option UInt8 → Nat → Nat → Nat → Prop
  | bare (length : Nat) : ValueRead content start none length start (start + length)
  | quoted {quote : UInt8} {stop : Nat} (opens : content[start]? = some quote)
      (closes : content[stop]? = some quote) (length : Nat) (ends : start + length = stop + 1) :
      ValueRead content start (some quote) length (start + 1) stop
  | unclosed {quote : UInt8} (opens : content[start]? = some quote) (length : Nat)
      (ends : start + length = content.length) :
      ValueRead content start (some quote) length (start + 1) content.length

theorem attributeValue_read (r : Reading) {content t : Text} {offset : Nat}
    (ahead : content.drop offset = t) :
    let read := r.attributeValue offset t
    read.2.2.1 ≤ t.length ∧ ∃ start stop,
      ValueRead content offset read.2.1 read.2.2.1 start stop
        ∧ r.PartsRead content start read.1 stop := by
  have stands : Text.StandsAt content offset t := ahead ▸ Text.StandsAt.of_drop content offset
  cases t with
  | nil =>
    refine ⟨Nat.le_refl _, offset, offset, ValueRead.bare 0, ?_⟩
    exact ⟨fun part member => absurd member List.not_mem_nil, rfl⟩
  | cons quote rest =>
    have whole := length_of_drop ahead (List.cons_ne_nil quote rest)
    have byte : content[offset]? = some quote := by
      simpa only [Nat.add_zero] using stands.getElem? List.getElem?_cons_zero
    dsimp only [attributeValue]
    split
    · have bounded := (r.quotedLength_addsUp quote).le_length rest 0
      have parts := r.value_partsRead (stands.tail.take (r.quotedLength quote 0 rest))
      rw [List.length_take, Nat.min_eq_left bounded] at parts
      rw [List.length_cons] at whole ⊢
      refine ⟨Nat.min_le_right _ _, ?_⟩
      by_cases inside : r.quotedLength quote 0 rest < rest.length
      · have closes := stands.tail.getElem? (getElem?_quotedLength r quote rest 0 inside)
        exact ⟨_, _, .quoted byte closes _ (by dsimp only; omega), parts⟩
      · have ends : offset + 1 + r.quotedLength quote 0 rest = content.length := by omega
        rw [ends] at parts
        exact ⟨_, _, .unclosed byte _ (by dsimp only; omega), parts⟩
    · have bounded := bareLength_le_length (quote :: rest)
      have parts := r.value_partsRead (stands.take (bareLength (quote :: rest)))
      rw [List.length_take, Nat.min_eq_left bounded] at parts
      exact ⟨bounded, _, _, ValueRead.bare _, parts⟩

/-- An attribute is read inside its text, and faithfully. -/
def AttributeReading.Sound (r : Reading) (content t : Text) (read : AttributeReading) : Prop :=
  read.length ≤ t.length ∧ ∀ a, read.attribute? = some a → a.Faithful r.file content

/-- Between a name and a value stand blanks and one equals sign. -/
theorem separatesValue_of_equals {content t : Text} {offset n : Nat}
    (stands : Text.StandsAt content offset t)
    (equals : (t.drop (n + Scan.blank (t.drop n))).head? = some '='.toUInt8) :
    let gap := Scan.blank (t.drop n)
    let after := Scan.blank (t.drop (n + gap + 1))
    n + gap + 1 + after ≤ t.length
      ∧ SeparatesValue (content.slice (offset + n) (offset + (n + gap + 1 + after))) := by
  intro gap after
  rw [List.head?_drop] at equals
  have inEquals := (List.getElem?_eq_some_iff.mp equals).1
  have inAfter := Scan.blank_le_length (t.drop (n + gap + 1))
  rw [List.length_drop] at inAfter
  have inside : n + gap + 1 + after ≤ t.length := by omega
  have byte : (t.drop (n + gap)).take 1 = "=" := by
    rw [List.drop_eq_getElem_cons inEquals, (List.getElem?_eq_some_iff.mp equals).2]
    rfl
  refine ⟨inside, (t.drop n).take gap, (t.drop (n + gap + 1)).take after, Scan.all_take_run _ _,
    Scan.all_take_run _ _, ?_⟩
  have width : n + gap + 1 + after - n = gap + (1 + after) := by omega
  rw [← stands.slice_eq inside, Text.slice, width, List.take_add, List.take_add, List.drop_drop,
    List.drop_drop, List.append_assoc, byte]

theorem attribute'_sound (r : Reading) {content t : Text} {offset : Nat}
    (ahead : content.drop offset = t) (nonempty : t ≠ []) :
    (r.attribute' offset t).Sound r content t := by
  have stands : Text.StandsAt content offset t := ahead ▸ Text.StandsAt.of_drop content offset
  have inName := nameLength_le_length t
  have name : t.take (nameLength t) = content.slice offset (offset + nameLength t) :=
    stands.take_eq_slice inName
  rw [attribute']
  dsimp only
  split
  · exact ⟨List.length_pos_iff.mpr nonempty, nofun⟩
  split
  · refine ⟨inName, ?_⟩
    intro a read
    cases read
    refine ⟨Or.inr name, fun part member => absurd member List.not_mem_nil, _, _,
      .absent rfl rfl, rfl⟩
  · next equals =>
    rw [bne_iff_ne] at equals
    rcases separatesValue_of_equals stands (Decidable.not_not.mp equals) with ⟨inStart, separated⟩
    generalize nameLength t + Scan.blank (t.drop (nameLength t)) + 1
      + Scan.blank (t.drop (nameLength t + Scan.blank (t.drop (nameLength t)) + 1)) = valueStart
      at inStart separated ⊢
    have aheadValue : content.drop (offset + valueStart) = t.drop valueStart := by
      rw [← ahead, List.drop_drop]
    rcases r.attributeValue_read aheadValue with ⟨inValue, start, stop, placed, parts⟩
    rw [List.length_drop] at inValue
    rcases read : r.attributeValue (offset + valueStart) (t.drop valueStart)
      with ⟨value, quote?, length, found⟩
    rw [read] at inValue placed parts
    dsimp only at inValue placed
    refine ⟨by change valueStart + length ≤ t.length; omega, ?_⟩
    intro a isRead
    cases isRead
    refine ⟨Or.inr name, parts.1, start, stop, ?_, parts.2⟩
    have ending : offset + (valueStart + length) = offset + valueStart + length := by omega
    cases placed with
    | bare =>
      rw [← ending]
      exact .bare rfl rfl separated
    | quoted opens closes _ ends =>
      exact .quoted rfl rfl separated opens closes (ending.trans ends)
    | unclosed opens _ ends =>
      exact .unclosed rfl rfl separated opens (ending.trans ends)

/-- An expression read in the place of an attribute is all value. -/
theorem attributeCode_sound (r : Reading) {content t : Text} {offset : Nat}
    (ahead : content.drop offset = t) : (r.attributeCode offset t).Sound r content t := by
  have stands : Text.StandsAt content offset t := ahead ▸ Text.StandsAt.of_drop content offset
  have absent : ∀ found, (AttributeReading.mk none 0 found).Sound r content t := by
    intro found
    refine ⟨Nat.zero_le _, ?_⟩
    intro a read
    cases read
  rw [attributeCode]
  split
  · exact absent _
  · next allowed =>
    have starts : (Text.ofString "@(") <+: t := by
      rw [Bool.or_eq_true, not_or, Bool.not_eq_true, Bool.not_eq_true] at allowed
      exact List.isPrefixOf_iff_prefix.mp ((Bool.not_eq_eq_eq_not.mp allowed.2).trans rfl)
    rcases starts with ⟨rest, rfl⟩
    change Text.StandsAt content offset ('@'.toUInt8 :: '('.toUInt8 :: rest) at stands
    have opened : (Text.ofString "@(" ++ rest).drop 1 = '('.toUInt8 :: rest := rfl
    rw [opened]
    split
    · exact absent _
    · next k closed =>
      have inside := Scan.closing?_lt_length closed
      have written := expressionWritten_closed stands rfl closed r.file
      refine ⟨?_, ?_⟩
      · change k + 2 ≤ ('@'.toUInt8 :: '('.toUInt8 :: rest).length
        rw [List.length_cons]
        omega
      · intro a read
        cases read
        refine ⟨Or.inl rfl, ?_, _, _, .code rfl rfl, rfl, rfl, ?_, rfl⟩
        · intro part member
          cases List.mem_singleton.mp member
          exact written
        · change offset < offset + k + 2
          omega

/-- The reading of one attribute: of code between parentheses, or of a name with its value, where
the findings of an attempt at code are kept. -/
inductive ReadsAttribute (r : Reading) (offset : Nat) (t : Text) : AttributeReading → Prop
  | code (nonempty : t ≠ []) : ReadsAttribute r offset t (r.attributeCode offset t)
  | written (nonempty : t ≠ []) : ReadsAttribute r offset t
      { r.attribute' offset t with
        diagnostics := (r.attributeCode offset t).diagnostics
          ++ (r.attribute' offset t).diagnostics }

/-- What holds where no attribute is left, and holds of an attribute with those behind it if it
holds of the latter, holds of all attributes that are read. -/
theorem attributes_walk (r : Reading) {Q : Nat → Text → AttributesReading → Prop}
    (ends : ∀ {offset : Nat} {t : Text} {n : Nat} {ending : TagEnd}, n ≤ t.length →
      Q offset t ⟨[], n, ending, []⟩)
    (follows : ∀ {offset : Nat} {t : Text} {read : AttributeReading} {behind : AttributesReading},
      r.ReadsAttribute (offset + Scan.blank t) (t.drop (Scan.blank t)) read →
        Q (offset + Scan.blank t + read.length) ((t.drop (Scan.blank t)).drop read.length) behind →
          Q offset t (behind.after (Scan.blank t) read)) (rounds : Nat) :
    ∀ (offset : Nat) (t : Text), Q offset t (r.attributes rounds offset t) := by
  induction rounds with
  | zero => exact fun _ _ => ends (Nat.zero_le _)
  | succ rounds ih =>
    intro offset t
    have inGap := Scan.blank_le_length t
    rw [attributes]
    dsimp only
    split
    · exact ends inGap
    · next b rest atByte =>
      have nonempty : t.drop (Scan.blank t) ≠ [] := by simp [atByte]
      split
      · exact ends inGap
      split
      · have positive := List.length_pos_iff.mpr nonempty
        rw [List.length_drop] at positive
        exact ends (by omega)
      split
      · next closes =>
        have long := (List.isPrefixOf_iff_prefix.mp closes).length_le
        have two : (Text.ofString "/>").length = 2 := by decide
        rw [two, List.length_drop] at long
        exact ends (by omega)
      split
      · exact follows (.code nonempty) (ih _ _)
      · exact follows (.written nonempty) (ih _ _)

theorem ReadsAttribute.length_le {r : Reading} {content t : Text} {offset : Nat}
    {read : AttributeReading} (reads : r.ReadsAttribute offset t read)
    (ahead : content.drop offset = t) : read.length ≤ t.length := by
  cases reads with
  | code nonempty => exact (r.attributeCode_sound ahead).1
  | written nonempty => exact (r.attribute'_sound ahead nonempty).1

/-- Attributes are read inside their text. -/
theorem attributes_length_le (r : Reading) {content : Text} (rounds : Nat) :
    ∀ (offset : Nat) (t : Text), content.drop offset = t →
      (r.attributes rounds offset t).length ≤ t.length := by
  refine r.attributes_walk
    (Q := fun offset t read => content.drop offset = t → read.length ≤ t.length)
    (fun inside _ => inside) ?_ rounds
  intro offset t read behind reads ih ahead
  have inGap := Scan.blank_le_length t
  have aheadGap : content.drop (offset + Scan.blank t) = t.drop (Scan.blank t) := by
    rw [← ahead, List.drop_drop]
  have inside := reads.length_le aheadGap
  have insideRest := ih (by rw [← aheadGap, List.drop_drop])
  rw [List.length_drop] at inside
  rw [List.length_drop, List.length_drop] at insideRest
  change Scan.blank t + read.length + _ ≤ _
  omega

/-- What holds of every attribute that is read somewhere in a content holds of those of a tag. -/
theorem attributes_forall (r : Reading) {content : Text} {P : Attribute → Prop}
    (code : ∀ {offset : Nat} {t : Text}, content.drop offset = t → t ≠ [] →
      ∀ a, (r.attributeCode offset t).attribute? = some a → P a)
    (written : ∀ {offset : Nat} {t : Text}, content.drop offset = t → t ≠ [] →
      ∀ a, (r.attribute' offset t).attribute? = some a → P a) (rounds : Nat) :
    ∀ (offset : Nat) (t : Text), content.drop offset = t →
      ∀ a ∈ (r.attributes rounds offset t).attributes, P a := by
  refine r.attributes_walk
    (Q := fun offset t read => content.drop offset = t → ∀ a ∈ read.attributes, P a)
    (fun _ _ => List.forall_mem_nil _) ?_ rounds
  intro offset t read behind reads ih ahead a member
  have aheadGap : content.drop (offset + Scan.blank t) = t.drop (Scan.blank t) := by
    rw [← ahead, List.drop_drop]
  rcases List.mem_append.mp member with here | later
  · cases reads with
    | code nonempty => exact code aheadGap nonempty a (Option.mem_toList.mp here)
    | written nonempty => exact written aheadGap nonempty a (Option.mem_toList.mp here)
  · refine ih ?_ a later
    rw [← aheadGap, List.drop_drop]

/-- Attributes are read faithfully. -/
theorem attributes_faithful (r : Reading) {content t : Text} {offset : Nat} (rounds : Nat)
    (ahead : content.drop offset = t) :
    ∀ a ∈ (r.attributes rounds offset t).attributes, a.Faithful r.file content :=
  r.attributes_forall (fun ahead _ => (r.attributeCode_sound ahead).2)
    (fun ahead nonempty => (r.attribute'_sound ahead nonempty).2) rounds offset t ahead

/-! ## Tags -/

/-- A start tag is read inside its text, and faithfully. -/
theorem startTag_sound (r : Reading) {content t : Text} {offset : Nat}
    (ahead : content.drop offset = t) (nonempty : t ≠ []) :
    let read := r.startTag offset t
    0 < read.length ∧ read.length ≤ t.length
      ∧ read.tag.span = r.span offset (offset + read.length)
      ∧ ∀ a ∈ read.tag.attributes, a.Faithful r.file content := by
  have positive := List.length_pos_iff.mpr nonempty
  dsimp only [startTag]
  generalize startEq :
    (if (t.drop 1).head? == some '!'.toUInt8 then 2 else 1 : Nat) = nameStart
  have inStart : nameStart ≤ t.length := by
    rw [← startEq]
    split
    · next mark =>
      rw [beq_iff_eq, List.head?_drop] at mark
      exact (List.getElem?_eq_some_iff.mp mark).1
    · exact positive
  have starts : 0 < nameStart := by
    rw [← startEq]
    split <;> decide
  have inName := Scan.run_le_length Scan.isTagNamePart (t.drop nameStart)
  rw [List.length_drop] at inName
  generalize nameEq : nameStart + Scan.run Scan.isTagNamePart (t.drop nameStart) = nameEnd
  have aheadRest : content.drop (offset + nameEnd) = t.drop nameEnd := by
    rw [← ahead, List.drop_drop]
  have inside := r.attributes_length_le ((t.drop nameEnd).length + 1) _ _ aheadRest
  have faithful := r.attributes_faithful ((t.drop nameEnd).length + 1) aheadRest
  rw [List.length_drop] at inside
  exact ⟨by omega, by rw [List.length_drop]; omega, rfl, faithful⟩

theorem endTag_sound (t : Text) (nonempty : t ≠ []) :
    0 < (endTag t).length ∧ (endTag t).length ≤ t.length := by
  have positive := List.length_pos_iff.mpr nonempty
  dsimp only [endTag]
  generalize (if (t.drop 2).head? == some '!'.toUInt8 then 3 else 2 : Nat) = nameStart
  generalize nameStart + Scan.run Scan.isTagNamePart (t.drop nameStart) = nameEnd
  split
  · next k found =>
    have inside := (List.findIdx?_eq_some_iff_findIdx_eq.mp found).1
    rw [List.length_drop] at inside
    refine ⟨Nat.succ_pos _, ?_⟩
    change nameEnd + k + 1 ≤ t.length
    omega
  · exact ⟨positive, Nat.le_refl _⟩

end Reading

end Syntax

end TemplateCompiler
