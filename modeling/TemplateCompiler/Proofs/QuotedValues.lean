import TemplateCompiler.Proofs.CutScans
import TemplateCompiler.Proofs.ParserMoves

/-!
# The mark that closes a quoted value

Two scans walk over a quoted value.  The first one looks for the mark that closes it and steps over
code, a `Stretch` at a time; the second one divides what stands before the mark into text and code.
They take an at sign differently in two places: the second one leaves it as text between letters or
digits, as in an address, and behind another at sign, where it is escaped.  A stretch that begins at
such an at sign is masked.  The quotation marks in it are stepped over and then left as text, so
that the value goes on behind a mark that should have ended it.

There is no other place.  As long as no masked stretch holds an at sign of its own, the text of a
value holds a quotation mark exactly if some stretch outside of its code does, and all these
stretches are masked: `marks_in_text_iff`.

The scans see different texts.  The first one sees the rest of the file, the second one the value
alone, and code that is cut off may be longer than it was.  It then takes all of the value that is
left (`codeLength?_cut`), and no quotation mark becomes text.
-/

namespace TemplateCompiler

namespace Syntax

/-! ## Code behind an at sign -/

namespace Reading

variable (r : Reading)

/-- Whether an at sign before a text stands between letters or digits, as in an address. -/
def isAddress (previous? : Option UInt8) (t : Text) : Bool :=
  previous?.any Scan.isAlphanumeric && t.head?.any Scan.isAlphanumeric

/-- The length of the code at the front of a text, as it may stand behind an at sign. -/
def codeLength? (t : Text) : Option Nat :=
  if t.head? == some '('.toUInt8 then (Scan.closingParenthesis? t).map (· + 1)
  else if Scan.startsWithByte Scan.isIdentifierStart t then
    some (Scan.implicit r.features.nullForgiving t)
  else none

variable {r}

theorem codeLength?_le {t : Text} {n : Nat} (code : r.codeLength? t = some n) : n ≤ t.length := by
  rw [codeLength?] at code
  split at code
  · rcases Option.map_eq_some_iff.mp code with ⟨k, closed, rfl⟩
    exact Scan.closing?_lt_length closed
  split at code
  · cases code
    exact Scan.implicit_le_length _ t
  · cases code

theorem codeLength?_pos {t : Text} {n : Nat} (code : r.codeLength? t = some n) : 0 < n := by
  rw [codeLength?] at code
  split at code
  · rcases Option.map_eq_some_iff.mp code with ⟨k, -, rfl⟩
    exact Nat.succ_pos k
  split at code
  · next starts =>
    cases code
    have first := Scan.identifier_pos starts
    have more := Scan.identifier_le_implicitStart t
    rw [Scan.implicit]
    omega
  · cases code

/-- Code that stays inside the front of a text is the same when the rest is cut off, or takes all of
the front. -/
theorem codeLength?_cut {u w : Text}
    (inside : ∀ n, r.codeLength? (u ++ w) = some n → n ≤ u.length) :
    r.codeLength? u = r.codeLength? (u ++ w) ∨ r.codeLength? u = some u.length := by
  cases u with
  | nil =>
    refine .inl ?_
    cases whole : r.codeLength? ([] ++ w) with
    | none => rfl
    | some n => exact absurd (inside n whole) (Nat.not_le.mpr (codeLength?_pos whole))
  | cons c u =>
    have first : (c :: u ++ w).head? = (c :: u).head? := rfl
    have starts : Scan.startsWithByte Scan.isIdentifierStart (c :: u ++ w) =
      Scan.startsWithByte Scan.isIdentifierStart (c :: u) := rfl
    simp only [codeLength?, first, starts] at inside ⊢
    by_cases opens : ((c :: u).head? == some '('.toUInt8) = true
    · simp only [if_pos opens] at inside ⊢
      cases whole : Scan.closingParenthesis? (c :: u ++ w) with
      | some k =>
        rw [whole] at inside
        have closed := Scan.closingFrom_cut Scan.areDelimiters_parentheses.unfed w (c :: u) whole
          (inside _ rfl)
        exact .inl (congrArg (Option.map (· + 1)) closed)
      | none =>
        cases front : Scan.closingParenthesis? (c :: u) with
        | none => exact .inl rfl
        | some k =>
          rcases Scan.closingFrom_of_cut Scan.areDelimiters_parentheses w (c :: u) front
            with closed | ⟨last, -⟩
          · rw [Scan.closingParenthesis?, Scan.closing?, closed] at whole
            cases whole
          · exact .inr (congrArg some last)
    · simp only [if_neg opens] at inside ⊢
      by_cases identifies : Scan.startsWithByte Scan.isIdentifierStart (c :: u) = true
      · simp only [if_pos identifies] at inside ⊢
        rcases Scan.implicit_cut (inside _ rfl) with same | ⟨all, -⟩
        · exact .inl (congrArg some same)
        · exact .inr (congrArg some all)
      · rw [if_neg identifies, if_neg identifies]
        exact .inl rfl

/-! ## The search for the closing mark -/

/-- What the search for the closing mark steps over behind a byte. -/
theorem quotedLength_cons (quote b : UInt8) (t : Text) :
    r.quotedLength quote 0 (b :: t) =
      if b == quote then 0
      else 1 + r.quotedLength quote
        (if b == '@'.toUInt8 then (r.codeLength? t).getD 0 else 0) t := by
  rw [quotedLength.eq_def, codeLength?]
  dsimp only
  split
  · rfl
  · cases isAt : b == '@'.toUInt8 with
    | false => rfl
    | true =>
      simp only [Bool.true_and, if_true]
      split
      · cases Scan.closingParenthesis? t <;> rfl
      split <;> rfl

/-- Code that the search steps over lies inside the value. -/
theorem codeLength?_le_quotedLength {t : Text} {n : Nat} (quote : UInt8)
    (code : r.codeLength? t = some n) : n ≤ r.quotedLength quote n t := by
  have bound := (r.quotedLength_addsUp quote).min_skip_le t n
  rwa [Nat.min_eq_left (codeLength?_le code)] at bound

end Reading

/-- Code that the search for a closing mark steps over: an at sign, and what stands behind it. -/
structure Stretch where
  start : Nat
  code : Text
  /-- The at sign is escaped, or stands between letters or digits: the value has it as text. -/
  isMasked : Bool
  deriving DecidableEq

namespace Stretch

def stop (s : Stretch) : Nat := s.start + 1 + s.code.length

/-- A stretch lies inside one of some spans. -/
def Inside (s : Stretch) (spans : List Span) : Prop :=
  ∃ c ∈ spans, c.start ≤ s.start ∧ s.stop ≤ c.stop

instance (s : Stretch) (spans : List Span) : Decidable (s.Inside spans) :=
  inferInstanceAs (Decidable (∃ c ∈ spans, c.start ≤ s.start ∧ s.stop ≤ c.stop))

theorem inside_cons {s : Stretch} {c : Span} {spans : List Span} :
    s.Inside (c :: spans) ↔ (c.start ≤ s.start ∧ s.stop ≤ c.stop) ∨ s.Inside spans := by
  simp only [Inside, List.mem_cons, exists_eq_or_imp]

theorem start_lt_stop (s : Stretch) : s.start < s.stop := by
  rw [stop]
  omega

end Stretch

namespace Reading

/-- The stretches that the search for a closing mark steps over.  `previous?` is the byte before the
text, and `escaped` says whether that is an at sign which escapes one at the front. -/
def stretchesFrom (r : Reading) (quote : UInt8) :
    Nat → Nat → Option UInt8 → Bool → Text → List Stretch
  | _, _, _, _, [] => []
  | skip + 1, offset, _, _, b :: t => r.stretchesFrom quote skip (offset + 1) (some b) false t
  | 0, offset, previous?, escaped, b :: t =>
    if b == quote then []
    else if b != '@'.toUInt8 then r.stretchesFrom quote 0 (offset + 1) (some b) false t
    else match r.codeLength? t with
      | none =>
        r.stretchesFrom quote 0 (offset + 1) (some b) (!escaped && t.head? == some '@'.toUInt8) t
      | some n =>
        ⟨offset, t.take n, escaped || isAddress previous? t⟩
          :: r.stretchesFrom quote n (offset + 1) (some b) false t

section Stretches

variable {r : Reading} {quote : UInt8}

theorem stretchesFrom_plain {b : UInt8} (offset : Nat) (previous? : Option UInt8) (escaped : Bool)
    (t : Text) (apart : b ≠ quote) (plain : b ≠ '@'.toUInt8) :
    r.stretchesFrom quote 0 offset previous? escaped (b :: t) =
      r.stretchesFrom quote 0 (offset + 1) (some b) false t := by
  rw [stretchesFrom, if_neg (mt eq_of_beq apart), if_pos (bne_iff_ne.mpr plain)]

theorem stretchesFrom_code {t : Text} {n : Nat} (offset : Nat) (previous? : Option UInt8)
    (escaped : Bool) (apart : '@'.toUInt8 ≠ quote) (code : r.codeLength? t = some n) :
    r.stretchesFrom quote 0 offset previous? escaped ('@'.toUInt8 :: t) =
      ⟨offset, t.take n, escaped || isAddress previous? t⟩
        :: r.stretchesFrom quote n (offset + 1) (some '@'.toUInt8) false t := by
  rw [stretchesFrom, if_neg (mt eq_of_beq apart), if_neg (by decide), code]

theorem stretchesFrom_noCode {t : Text} (offset : Nat) (previous? : Option UInt8) (escaped : Bool)
    (apart : '@'.toUInt8 ≠ quote) (code : r.codeLength? t = none) :
    r.stretchesFrom quote 0 offset previous? escaped ('@'.toUInt8 :: t) =
      r.stretchesFrom quote 0 (offset + 1) (some '@'.toUInt8)
        (!escaped && t.head? == some '@'.toUInt8) t := by
  rw [stretchesFrom, if_neg (mt eq_of_beq apart), if_neg (by decide), code]

/-- Stretches begin behind what is passed over, and end inside the value. -/
theorem stretchesFrom_bounds (apart : '@'.toUInt8 ≠ quote) (t : Text) :
    ∀ {skip offset : Nat} {previous? : Option UInt8} {escaped : Bool},
      ∀ s ∈ r.stretchesFrom quote skip offset previous? escaped t,
        offset + skip ≤ s.start ∧ s.stop ≤ offset + r.quotedLength quote skip t := by
  induction t with
  | nil =>
    intro skip offset previous? escaped s member
    cases skip <;> cases member
  | cons b t ih =>
    intro skip offset previous? escaped s member
    cases skip with
    | succ skip =>
      have bounds := ih s member
      rw [quotedLength]
      omega
    | zero =>
      rw [quotedLength_cons]
      by_cases isQuote : b = quote
      · rw [stretchesFrom, if_pos (beq_iff_eq.mpr isQuote)] at member
        cases member
      rw [if_neg (mt eq_of_beq isQuote)]
      by_cases isAt : b = '@'.toUInt8
      · subst isAt
        rw [if_pos (beq_self_eq_true _)]
        cases code : r.codeLength? t with
        | none =>
          rw [stretchesFrom_noCode _ _ _ apart code] at member
          have bounds := ih s member
          rw [Option.getD_none]
          omega
        | some n =>
          rw [stretchesFrom_code _ _ _ apart code] at member
          rw [Option.getD_some]
          have long := codeLength?_le_quotedLength quote code
          rcases List.mem_cons.mp member with rfl | behind
          · refine ⟨Nat.le_refl _, ?_⟩
            rw [Stretch.stop, List.length_take, Nat.min_eq_left (codeLength?_le code)]
            dsimp only
            omega
          · have bounds := ih s behind
            omega
      · rw [stretchesFrom_plain _ _ _ _ isQuote isAt] at member
        rw [if_neg (mt eq_of_beq isAt)]
        have bounds := ih s member
        omega

/-- A quotation mark inside the value is stepped over with code. -/
theorem mark_in_stretch (apart : '@'.toUInt8 ≠ quote) (t : Text) :
    ∀ (offset : Nat) {skip i : Nat} {previous? : Option UInt8} {escaped : Bool},
      i < r.quotedLength quote skip t → t[i]? = some quote → skip ≤ i →
      ∃ s ∈ r.stretchesFrom quote skip offset previous? escaped t,
        s.start < offset + i ∧ offset + i < s.stop := by
  induction t with
  | nil =>
    intro offset skip i previous? escaped _ mark
    cases mark
  | cons b t ih =>
    intro offset skip i previous? escaped inside mark passed
    cases skip with
    | succ skip =>
      cases i with
      | zero => cases passed
      | succ i =>
        rw [quotedLength] at inside
        obtain ⟨s, member, around⟩ := ih (offset + 1) (by omega) mark
          (Nat.le_of_succ_le_succ passed)
        exact ⟨s, member, by omega⟩
    | zero =>
      rw [quotedLength_cons] at inside
      by_cases isQuote : b = quote
      · rw [if_pos (beq_iff_eq.mpr isQuote)] at inside
        cases inside
      rw [if_neg (mt eq_of_beq isQuote)] at inside
      cases i with
      | zero => exact absurd (Option.some.inj mark) isQuote
      | succ i =>
        by_cases isAt : b = '@'.toUInt8
        · subst isAt
          rw [if_pos (beq_self_eq_true _)] at inside
          cases code : r.codeLength? t with
          | none =>
            rw [code, Option.getD_none] at inside
            rw [stretchesFrom_noCode _ _ _ apart code]
            rcases ih (offset + 1) (by omega) mark (Nat.zero_le i) with ⟨s, member, around⟩
            exact ⟨s, member, by omega⟩
          | some n =>
            rw [code, Option.getD_some] at inside
            rw [stretchesFrom_code _ _ _ apart code]
            by_cases covered : i < n
            · refine ⟨_, List.mem_cons_self, ?_⟩
              rw [Stretch.stop, List.length_take, Nat.min_eq_left (codeLength?_le code)]
              dsimp only
              omega
            · obtain ⟨s, member, around⟩ := ih (offset + 1) (by omega) mark
                (Nat.le_of_not_lt covered)
              exact ⟨s, .tail _ member, by omega⟩
        · rw [if_neg (mt eq_of_beq isAt)] at inside
          rw [stretchesFrom_plain _ _ _ _ isQuote isAt]
          rcases ih (offset + 1) (by omega) mark (Nat.zero_le i) with ⟨s, member, around⟩
          exact ⟨s, member, by omega⟩

end Stretches

end Reading

/-! ## The division of the value -/

namespace ValuePart

/-- The bytes of literal text in the parts of a value. -/
def literalText (parts : List ValuePart) : Text :=
  parts.flatMap fun
    | text _ t => t
    | _ => []

def codeSpans (parts : List ValuePart) : List Span :=
  parts.filterMap fun
    | code s _ _ => some s
    | _ => none

theorem mem_literalText {parts : List ValuePart} {b : UInt8} :
    b ∈ literalText parts ↔ ∃ s t, .text s t ∈ parts ∧ b ∈ t := by
  rw [literalText, List.mem_flatMap]
  constructor
  · rintro ⟨part, member, inside⟩
    cases part with
    | text s t => exact ⟨s, t, member, inside⟩
    | transition | code => cases inside
  · rintro ⟨s, t, member, inside⟩
    exact ⟨.text s t, member, inside⟩

end ValuePart

open ValuePart

namespace Reading

section Division

variable {r : Reading}

theorem literalText_gathered (offset : Nat) (pending : Text) (parts : List ValuePart) :
    literalText (r.gathered offset pending parts) = pending.reverse ++ literalText parts := by
  rw [gathered]
  cases pending with
  | nil => rfl
  | cons b pending => rfl

theorem codeSpans_gathered (offset : Nat) (pending : Text) (parts : List ValuePart) :
    codeSpans (r.gathered offset pending parts) = codeSpans parts := by
  rw [gathered]
  cases pending with
  | nil => rfl
  | cons b pending => rfl

/-- The code that takes a length of the text behind an at sign, as a part of a value. -/
def codePart (r : Reading) (offset : Nat) (t : Text) (n : Nat) : ValuePart :=
  let span := r.span offset (offset + n + 1)
  if t.head? == some '('.toUInt8 then .code span (t.slice 1 (n - 1)) true
  else .code span (t.take n) false

/-- What the division of a value does at a byte: the part that begins there and how much of the text
behind it belongs to that part, or nothing where the byte is literal. -/
def valueMove (r : Reading) (offset : Nat) (previous? : Option UInt8) (b : UInt8) (t : Text) :
    Option (ValuePart × Nat) :=
  if b != '@'.toUInt8 || isAddress previous? t then none
  else if t.head? == some '@'.toUInt8 then some (.transition (r.span offset (offset + 2)), 1)
  else (r.codeLength? t).map fun n => (r.codePart offset t n, n)

theorem valueFrom_cons (offset : Nat) (previous? : Option UInt8) (pending : Text) (b : UInt8)
    (t : Text) :
    (r.valueFrom 0 offset previous? pending (b :: t)).1 =
      match r.valueMove offset previous? b t with
      | none => (r.valueFrom 0 (offset + 1) (some b) (b :: pending) t).1
      | some (p, n) =>
        r.gathered offset pending (p :: (r.valueFrom n (offset + 1) (some b) [] t).1) := by
  cases t with
  | nil =>
    have literal : r.valueMove offset previous? b [] = none := by
      rw [valueMove]
      split <;> rfl
    rw [literal]
    rfl
  | cons c rest =>
    rw [valueFrom.eq_def]
    dsimp only
    by_cases literal : (b != '@'.toUInt8
        || previous?.any Scan.isAlphanumeric && Scan.isAlphanumeric c) = true
    · have move : r.valueMove offset previous? b (c :: rest) = none := if_pos literal
      rw [if_pos literal, move]
    rw [if_neg literal, show r.valueMove offset previous? b (c :: rest) = _ from if_neg literal]
    by_cases escapes : (c == '@'.toUInt8) = true
    · rw [if_pos escapes, List.head?_cons, Option.some_beq_some, if_pos escapes]
    rw [if_neg escapes, List.head?_cons, Option.some_beq_some, if_neg escapes, codeLength?,
      List.head?_cons, Option.some_beq_some]
    by_cases opens : (c == '('.toUInt8) = true
    · rw [if_pos opens, if_pos opens]
      cases Scan.closingParenthesis? (c :: rest) with
      | none => rfl
      | some k =>
        dsimp only [Option.map_some]
        rw [codePart, List.head?_cons, Option.some_beq_some, if_pos opens]
        rfl
    · rw [if_neg opens, if_neg opens, Scan.startsWithByte]
      split
      · dsimp only [Option.map_some]
        rw [codePart, List.head?_cons, Option.some_beq_some, if_neg opens]
      · rfl

theorem codeSpans_codePart (offset : Nat) (t : Text) (n : Nat) (parts : List ValuePart) :
    codeSpans (r.codePart offset t n :: parts) =
      r.span offset (offset + n + 1) :: codeSpans parts := by
  rw [codePart]
  split <;> rfl

theorem literalText_codePart (offset : Nat) (t : Text) (n : Nat) (parts : List ValuePart) :
    literalText (r.codePart offset t n :: parts) = literalText parts := by
  rw [codePart]
  split <;> rfl

/-- Bytes that are pending come first in the text of a value, and change nothing else. -/
theorem valueFrom_pending (t : Text) :
    ∀ (skip offset : Nat) (previous? : Option UInt8) (pending : Text),
      literalText (r.valueFrom skip offset previous? pending t).1 =
          pending.reverse ++ literalText (r.valueFrom skip offset previous? [] t).1
        ∧ codeSpans (r.valueFrom skip offset previous? pending t).1 =
          codeSpans (r.valueFrom skip offset previous? [] t).1 := by
  induction t with
  | nil =>
    intro skip offset previous? pending
    simp only [valueFrom, literalText_gathered, codeSpans_gathered, List.reverse_nil,
      List.nil_append, and_self]
  | cons b t ih =>
    intro skip offset previous? pending
    cases skip with
    | succ skip => exact ih skip (offset + 1) (some b) pending
    | zero =>
      rw [valueFrom_cons, valueFrom_cons]
      cases r.valueMove offset previous? b t with
      | none =>
        have first := ih 0 (offset + 1) (some b) (b :: pending)
        have second := ih 0 (offset + 1) (some b) [b]
        dsimp only
        rw [first.1, first.2, second.1, second.2]
        simp
      | some move =>
        dsimp only
        rw [literalText_gathered, literalText_gathered, codeSpans_gathered, codeSpans_gathered]
        exact ⟨rfl, rfl⟩

/-- Nothing is left of a value that is passed over. -/
theorem valueFrom_swallowed (t : Text) :
    ∀ {skip : Nat} (offset : Nat) (previous? : Option UInt8), t.length ≤ skip →
      (r.valueFrom skip offset previous? [] t).1 = [] := by
  induction t with
  | nil =>
    intro skip offset previous? _
    cases skip <;> rfl
  | cons b t ih =>
    intro skip offset previous? all
    cases skip with
    | zero => cases all
    | succ skip => exact ih (offset + 1) (some b) (Nat.le_of_succ_le_succ all)

theorem le_start_of_mem_codeSpans (t : Text) :
    ∀ {skip offset : Nat} {previous? : Option UInt8},
      ∀ c ∈ codeSpans (r.valueFrom skip offset previous? [] t).1, offset ≤ c.start := by
  induction t with
  | nil =>
    intro skip offset previous? c member
    cases skip <;> cases member
  | cons b t ih =>
    intro skip offset previous? c member
    cases skip with
    | succ skip => exact Nat.le_of_succ_le (ih c member)
    | zero =>
      rw [valueFrom_cons, valueMove] at member
      split at member
      · rw [(valueFrom_pending t _ _ _ _).2] at member
        exact Nat.le_of_succ_le (ih c member)
      · next p n move =>
        rw [codeSpans_gathered] at member
        split at move
        · cases move
        split at move
        · cases move
          exact Nat.le_of_succ_le (ih c member)
        · rcases Option.map_eq_some_iff.mp move with ⟨k, -, same⟩
          cases same
          rw [codeSpans_codePart] at member
          rcases List.mem_cons.mp member with rfl | behind
          · exact Nat.le_refl _
          · exact Nat.le_of_succ_le (ih c behind)

end Division

end Reading

/-! ## The two scans side by side -/

/-- Stretches of code go together with the parts of a value.  The first bytes of the value may be a
`rest` of text that the search for the closing mark has still to pass over. -/
structure GoTogether (quote : UInt8) (rest : Text) (parts : List ValuePart)
    (stretches : List Stretch) : Prop where
  covered : ∀ s ∈ stretches, s.isMasked = true ∨ s.Inside (codeSpans parts)
  marked : quote ∈ literalText parts ↔
    quote ∈ rest ∨ ∃ s ∈ stretches, quote ∈ s.code ∧ ¬ s.Inside (codeSpans parts)

namespace GoTogether

variable {quote : UInt8} {rest : Text} {parts : List ValuePart} {stretches : List Stretch}

theorem nil (quote : UInt8) : GoTogether quote [] [] [] where
  covered s member := absurd member List.not_mem_nil
  marked := by simp [literalText]

/-- Literal bytes in front are part of the rest. -/
theorem literal (front : Text) {all : List ValuePart}
    (behind : GoTogether quote rest parts stretches)
    (text : literalText all = front ++ literalText parts) (code : codeSpans all = codeSpans parts) :
    GoTogether quote (front ++ rest) all stretches where
  covered := by
    rw [code]
    exact behind.covered
  marked := by
    rw [code, text, List.mem_append, List.mem_append, behind.marked, or_assoc]

/-- A byte that is not the mark does not matter. -/
theorem of_ne {b : UInt8} (together : GoTogether quote (b :: rest) parts stretches)
    (apart : b ≠ quote) : GoTogether quote rest parts stretches where
  covered := together.covered
  marked := by
    rw [together.marked, List.mem_cons, or_iff_right apart.symm]

/-- A masked stretch is the text behind its at sign. -/
theorem masked {s : Stretch} (behind : GoTogether quote s.code parts stretches)
    (isMasked : s.isMasked = true) (outside : ¬ s.Inside (codeSpans parts)) :
    GoTogether quote [] parts (s :: stretches) where
  covered := List.forall_mem_cons.mpr ⟨.inl isMasked, behind.covered⟩
  marked := by
    simp only [behind.marked, List.not_mem_nil, false_or, List.mem_cons, exists_eq_or_imp, outside,
      not_false_eq_true, and_true]

/-- Code in front covers its stretch and reaches none behind it. -/
theorem code {s : Stretch} {c : Span} {all : List ValuePart}
    (behind : GoTogether quote [] parts stretches) (text : literalText all = literalText parts)
    (code : codeSpans all = c :: codeSpans parts) (covers : c.start ≤ s.start ∧ s.stop ≤ c.stop)
    (apart : ∀ k ∈ stretches, c.stop ≤ k.start) : GoTogether quote [] all (s :: stretches) where
  covered := by
    rw [code]
    refine List.forall_mem_cons.mpr ⟨.inr (Stretch.inside_cons.mpr (.inl covers)), ?_⟩
    intro k member
    rcases behind.covered k member with isMasked | inside
    · exact .inl isMasked
    · exact .inr (Stretch.inside_cons.mpr (.inr inside))
  marked := by
    have first : s.Inside (c :: codeSpans parts) := Stretch.inside_cons.mpr (.inl covers)
    have same : ∀ k ∈ stretches, k.Inside (c :: codeSpans parts) ↔ k.Inside (codeSpans parts) := by
      intro k member
      rw [Stretch.inside_cons, or_iff_right]
      have beyond := apart k member
      have nonempty := k.start_lt_stop
      omega
    rw [text, code, behind.marked]
    simp only [List.mem_cons, exists_eq_or_imp, first, not_true_eq_false, and_false, false_or]
    refine or_congr_right (exists_congr fun k => and_congr_right fun member => ?_)
    rw [same k member]

/-- Code that reaches the end of the value covers all stretches. -/
theorem swallowed {c : Span} (text : literalText parts = []) (code : codeSpans parts = [c])
    (covers : ∀ s ∈ stretches, c.start ≤ s.start ∧ s.stop ≤ c.stop) :
    GoTogether quote [] parts stretches := by
  have inside : ∀ s ∈ stretches, s.Inside (codeSpans parts) := by
    intro s member
    rw [code]
    exact Stretch.inside_cons.mpr (.inl (covers s member))
  constructor
  · exact fun s member => .inr (inside s member)
  · rw [text]
    constructor
    · intro marked
      cases marked
    · rintro (marked | ⟨s, member, -, outside⟩)
      · exact marked
      · exact absurd (inside s member) outside

end GoTogether

/-- How far each scan has still to pass over the front of a value: the search for the closing mark,
then the division.  The last text is what only the search passes over. -/
inductive InStep : Nat → Nat → Bool → Text → Text → Prop
  | together (skip : Nat) (u : Text) : InStep skip skip false u []
  /-- The division passes over the second at sign of two. -/
  | escaped (u : Text) : InStep 0 1 true ('@'.toUInt8 :: u) []
  /-- The search passes over code that is masked. -/
  | masked {n : Nat} {u : Text} (plain : '@'.toUInt8 ∉ u.take n) : InStep n 0 false u (u.take n)

namespace Reading

variable {r : Reading} {quote : UInt8}

/-! ### At an at sign -/

theorem valueMove_of_ne {b : UInt8} (plain : b ≠ '@'.toUInt8) (offset : Nat)
    (previous? : Option UInt8) (t : Text) : r.valueMove offset previous? b t = none := by
  rw [valueMove, bne_iff_ne.mpr plain, Bool.true_or, if_pos rfl]

theorem valueMove_at (offset : Nat) (previous? : Option UInt8) (t : Text) :
    r.valueMove offset previous? '@'.toUInt8 t =
      if isAddress previous? t then none
      else if t.head? == some '@'.toUInt8 then some (.transition (r.span offset (offset + 2)), 1)
      else (r.codeLength? t).map fun n => (r.codePart offset t n, n) := rfl

theorem valueMove_escape (offset : Nat) (previous? : Option UInt8) (t : Text) :
    r.valueMove offset previous? '@'.toUInt8 ('@'.toUInt8 :: t) =
      some (.transition (r.span offset (offset + 2)), 1) := by
  have noAddress : isAddress previous? ('@'.toUInt8 :: t) = false := Bool.and_false _
  rw [valueMove_at, noAddress]
  rfl

theorem valueMove_code {previous? : Option UInt8} {t : Text} {n : Nat} (offset : Nat)
    (noAddress : isAddress previous? t = false) (code : r.codeLength? t = some n) :
    r.valueMove offset previous? '@'.toUInt8 t = some (r.codePart offset t n, n) := by
  have noEscape : ¬ (t.head? == some '@'.toUInt8) = true := by
    intro escapes
    rcases List.head?_eq_some_iff.mp (eq_of_beq escapes) with ⟨rest, rfl⟩
    cases code
  rw [valueMove_at, noAddress, if_neg Bool.false_ne_true, if_neg noEscape, code]
  rfl

/-! ### One byte of both scans -/

/-- At a literal byte the division goes on with that byte pending. -/
theorem goTogether_literal {offset : Nat} {previous? : Option UInt8} {b : UInt8} {rest u : Text}
    {stretches : List Stretch} (move : r.valueMove offset previous? b u = none)
    (behind : GoTogether quote rest (r.valueFrom 0 (offset + 1) (some b) [] u).1 stretches) :
    GoTogether quote (b :: rest) (r.valueFrom 0 offset previous? [] (b :: u)).1 stretches := by
  have pending := valueFrom_pending (r := r) u 0 (offset + 1) (some b) [b]
  rw [valueFrom_cons, move]
  exact behind.literal [b] pending.1 pending.2

/-- Code that takes all of the value that is left covers whatever is stepped over there. -/
theorem goTogether_swallowed {offset : Nat} {previous? : Option UInt8} {escaped : Bool} {u w : Text}
    (apart : '@'.toUInt8 ≠ quote)
    (length : r.quotedLength quote 0 ('@'.toUInt8 :: u ++ w) = ('@'.toUInt8 :: u).length)
    (noAddress : isAddress previous? u = false) (code : r.codeLength? u = some u.length) :
    GoTogether quote [] (r.valueFrom 0 offset previous? [] ('@'.toUInt8 :: u)).1
      (r.stretchesFrom quote 0 offset previous? escaped ('@'.toUInt8 :: u ++ w)) := by
  rw [valueFrom_cons, valueMove_code offset noAddress code]
  dsimp only
  rw [valueFrom_swallowed u _ _ (Nat.le_refl _)]
  refine .swallowed (literalText_codePart offset u _ []) (codeSpans_codePart offset u _ []) ?_
  intro s member
  have bounds := stretchesFrom_bounds apart _ s member
  rw [length, List.length_cons] at bounds
  exact ⟨bounds.1, bounds.2⟩

end Reading

/-- No masked stretch holds an at sign of its own. -/
def Stretch.AllPlain (stretches : List Stretch) : Prop :=
  ∀ s ∈ stretches, s.isMasked = true → '@'.toUInt8 ∉ s.code

instance (stretches : List Stretch) : Decidable (Stretch.AllPlain stretches) :=
  inferInstanceAs (Decidable (∀ s ∈ stretches, s.isMasked = true → '@'.toUInt8 ∉ s.code))

namespace Reading

variable {r : Reading} {quote : UInt8}

/-- The two scans go together from an offset on, wherever they are in step. -/
def ScansAgree (r : Reading) (quote : UInt8) (w : Text) (offset : Nat) (previous? : Option UInt8)
    (u : Text) : Prop :=
  ∀ ⦃skip skip' : Nat⦄ ⦃escaped : Bool⦄ ⦃rest : Text⦄, InStep skip skip' escaped u rest →
    r.quotedLength quote skip (u ++ w) = u.length →
    Stretch.AllPlain (r.stretchesFrom quote skip offset previous? escaped (u ++ w)) →
    GoTogether quote rest (r.valueFrom skip' offset previous? [] u).1
      (r.stretchesFrom quote skip offset previous? escaped (u ++ w))

namespace ScansAgree

variable {offset n : Nat} {previous? : Option UInt8} {u w : Text}

theorem nil (apart : '@'.toUInt8 ≠ quote) (w : Text) (offset : Nat) (previous? : Option UInt8) :
    ScansAgree r quote w offset previous? [] := by
  intro skip skip' escaped rest step length _
  have none : r.stretchesFrom quote skip offset previous? escaped ([] ++ w) = [] := by
    apply List.eq_nil_iff_forall_not_mem.mpr
    intro s member
    have bounds := stretchesFrom_bounds apart _ s member
    have nonempty := s.start_lt_stop
    rw [length, List.length_nil] at bounds
    omega
  have nothing : rest = [] := by
    cases step with
    | together => rfl
    | masked => exact List.take_nil
  rw [none, nothing, valueFrom_swallowed [] _ _ (Nat.zero_le _)]
  exact .nil quote

/-- Behind an at sign that the division leaves as text, code is masked. -/
theorem behindMasked (agree : ScansAgree r quote w (offset + 1) previous? u)
    {s : Stretch} (start : s.start = offset) (code : s.code = u.take n)
    (isMasked : s.isMasked = true) (length : r.quotedLength quote n (u ++ w) = u.length)
    (plain : Stretch.AllPlain
      (s :: r.stretchesFrom quote n (offset + 1) previous? false (u ++ w))) :
    GoTogether quote [] (r.valueFrom 0 (offset + 1) previous? [] u).1
      (s :: r.stretchesFrom quote n (offset + 1) previous? false (u ++ w)) := by
  have own : '@'.toUInt8 ∉ u.take n := code ▸ plain s List.mem_cons_self isMasked
  have behind := agree (.masked own) length fun k member => plain k (.tail s member)
  rw [← code] at behind
  refine behind.masked isMasked ?_
  rintro ⟨c, member, begins, -⟩
  have later := le_start_of_mem_codeSpans u c member
  omega

/-- What a byte inside the value leaves to the search for the closing mark. -/
theorem length_behind {b : UInt8}
    (length : r.quotedLength quote 0 (b :: u ++ w) = (b :: u).length) :
    b ≠ quote ∧ r.quotedLength quote
      (if b == '@'.toUInt8 then (r.codeLength? (u ++ w)).getD 0 else 0) (u ++ w) = u.length := by
  rw [List.cons_append, quotedLength_cons, List.length_cons] at length
  split at length
  · cases length
  · next other => exact ⟨mt beq_iff_eq.mpr other, by omega⟩

/-- At an at sign with code behind it, which is the same in the value unless it is masked. -/
theorem cons_code (apart : '@'.toUInt8 ≠ quote)
    (agree : ScansAgree r quote w (offset + 1) (some '@'.toUInt8) u)
    (code : r.codeLength? (u ++ w) = some n)
    (same : isAddress previous? u = false → r.codeLength? u = some n)
    (length : r.quotedLength quote n (u ++ w) = u.length)
    (plain : Stretch.AllPlain
      (r.stretchesFrom quote 0 offset previous? false ('@'.toUInt8 :: (u ++ w)))) :
    GoTogether quote [] (r.valueFrom 0 offset previous? [] ('@'.toUInt8 :: u)).1
      (r.stretchesFrom quote 0 offset previous? false ('@'.toUInt8 :: (u ++ w))) := by
  have bound : n ≤ u.length := length ▸ codeLength?_le_quotedLength quote code
  have ahead : (u ++ w).head? = u.head? := by
    cases u with
    | nil => exact absurd bound (Nat.not_le.mpr (codeLength?_pos code))
    | cons c u => rfl
  have address : isAddress previous? (u ++ w) = isAddress previous? u := by
    rw [isAddress, isAddress, ahead]
  rw [stretchesFrom_code _ _ _ apart code, address, List.take_append_of_le_length bound] at plain ⊢
  cases masks : isAddress previous? u with
  | true =>
    have move : r.valueMove offset previous? '@'.toUInt8 u = none := by
      rw [valueMove_at, masks]
      rfl
    rw [masks] at plain
    exact (goTogether_literal move (agree.behindMasked rfl rfl rfl length plain)).of_ne apart
  | false =>
    have behind := agree (.together n u) length fun k member => plain k (.tail _ member)
    rw [valueFrom_cons, valueMove_code offset masks (same masks)]
    refine behind.code (literalText_codePart offset u n _) (codeSpans_codePart offset u n _) ?_ ?_
    · refine ⟨Nat.le_refl _, ?_⟩
      rw [Stretch.stop, List.length_take, Nat.min_eq_left bound]
      change offset + 1 + n ≤ offset + n + 1
      omega
    · intro k member
      have bounds := stretchesFrom_bounds apart _ k member
      change offset + n + 1 ≤ k.start
      omega

/-- At an at sign without code behind it: it escapes another one, or is literal. -/
theorem cons_noCode (apart : '@'.toUInt8 ≠ quote)
    (agree : ScansAgree r quote w (offset + 1) (some '@'.toUInt8) u)
    (code : r.codeLength? (u ++ w) = none)
    (same : isAddress previous? u = false → r.codeLength? u = none)
    (length : r.quotedLength quote 0 (u ++ w) = u.length)
    (plain : Stretch.AllPlain
      (r.stretchesFrom quote 0 offset previous? false ('@'.toUInt8 :: (u ++ w)))) :
    GoTogether quote [] (r.valueFrom 0 offset previous? [] ('@'.toUInt8 :: u)).1
      (r.stretchesFrom quote 0 offset previous? false ('@'.toUInt8 :: (u ++ w))) := by
  rw [stretchesFrom_noCode _ _ _ apart code, Bool.not_false, Bool.true_and] at plain ⊢
  by_cases escapes : u.head? = some '@'.toUInt8
  · rcases List.head?_eq_some_iff.mp escapes with ⟨rest, rfl⟩
    rw [valueFrom_cons, valueMove_escape]
    exact (agree (.escaped rest) length plain).literal [] rfl rfl
  · have noEscape : ((u ++ w).head? == some '@'.toUInt8) = false := by
      rw [beq_eq_false_iff_ne]
      cases u with
      | nil =>
        intro first
        rcases List.head?_eq_some_iff.mp first with ⟨rest, rfl⟩
        rw [List.nil_append, quotedLength_cons, if_neg (mt eq_of_beq apart), List.length_nil]
          at length
        omega
      | cons c u => exact escapes
    have move : r.valueMove offset previous? '@'.toUInt8 u = none := by
      rw [valueMove_at]
      split
      · rfl
      · next noAddress =>
        rw [if_neg (mt eq_of_beq escapes), same (Bool.eq_false_iff.mpr noAddress)]
        rfl
    rw [noEscape] at plain ⊢
    exact (goTogether_literal move (agree (.together 0 u) length plain)).of_ne apart

/-- At an at sign where both scans look. -/
theorem cons_at (apart : '@'.toUInt8 ≠ quote)
    (agree : ScansAgree r quote w (offset + 1) (some '@'.toUInt8) u)
    (length : r.quotedLength quote 0 ('@'.toUInt8 :: u ++ w) = ('@'.toUInt8 :: u).length)
    (plain : Stretch.AllPlain
      (r.stretchesFrom quote 0 offset previous? false ('@'.toUInt8 :: u ++ w))) :
    GoTogether quote [] (r.valueFrom 0 offset previous? [] ('@'.toUInt8 :: u)).1
      (r.stretchesFrom quote 0 offset previous? false ('@'.toUInt8 :: u ++ w)) := by
  have behind := (length_behind length).2
  rw [if_pos (beq_self_eq_true _)] at behind
  have inside (n : Nat) (code : r.codeLength? (u ++ w) = some n) : n ≤ u.length := by
    rw [code, Option.getD_some] at behind
    exact behind ▸ codeLength?_le_quotedLength quote code
  by_cases swallows : isAddress previous? u = false ∧ r.codeLength? u = some u.length
  · exact goTogether_swallowed apart length swallows.1 swallows.2
  have same (noAddress : isAddress previous? u = false) :
      r.codeLength? u = r.codeLength? (u ++ w) := by
    rcases codeLength?_cut inside with same | all
    · exact same
    · exact absurd ⟨noAddress, all⟩ swallows
  cases code : r.codeLength? (u ++ w) with
  | some n =>
    rw [code] at behind same
    exact agree.cons_code apart code same behind plain
  | none =>
    rw [code] at behind same
    exact agree.cons_noCode apart code same behind plain

/-- At the second at sign of two, which the division passes over. -/
theorem cons_escaped (apart : '@'.toUInt8 ≠ quote)
    (agree : ScansAgree r quote w (offset + 1) (some '@'.toUInt8) u)
    (length : r.quotedLength quote 0 ('@'.toUInt8 :: u ++ w) = ('@'.toUInt8 :: u).length)
    (plain : Stretch.AllPlain
      (r.stretchesFrom quote 0 offset previous? true ('@'.toUInt8 :: u ++ w))) :
    GoTogether quote [] (r.valueFrom 1 offset previous? [] ('@'.toUInt8 :: u)).1
      (r.stretchesFrom quote 0 offset previous? true ('@'.toUInt8 :: u ++ w)) := by
  have behind := (length_behind length).2
  rw [if_pos (beq_self_eq_true _)] at behind
  rw [List.cons_append] at plain ⊢
  rw [valueFrom]
  cases code : r.codeLength? (u ++ w) with
  | some n =>
    rw [code, Option.getD_some] at behind
    rw [stretchesFrom_code _ _ _ apart code] at plain ⊢
    have bound : n ≤ u.length := behind ▸ codeLength?_le_quotedLength quote code
    exact agree.behindMasked rfl (List.take_append_of_le_length bound) rfl behind plain
  | none =>
    rw [code, Option.getD_none] at behind
    rw [stretchesFrom_noCode _ _ _ apart code] at plain ⊢
    exact agree (.together 0 u) behind plain

/-- At a byte of a value where the scan for its end and the one for its parts both look. -/
theorem cons {b : UInt8} (apart : '@'.toUInt8 ≠ quote)
    (agree : ScansAgree r quote w (offset + 1) (some b) u) :
    ScansAgree r quote w offset previous? (b :: u) := by
  have looked (length : r.quotedLength quote 0 (b :: u ++ w) = (b :: u).length)
      (plain : Stretch.AllPlain (r.stretchesFrom quote 0 offset previous? false (b :: u ++ w))) :
      GoTogether quote [] (r.valueFrom 0 offset previous? [] (b :: u)).1
        (r.stretchesFrom quote 0 offset previous? false (b :: u ++ w)) := by
    by_cases isAt : b = '@'.toUInt8
    · subst isAt
      exact agree.cons_at apart length plain
    · have behind := length_behind length
      rw [if_neg (mt eq_of_beq isAt)] at behind
      rw [List.cons_append, stretchesFrom_plain _ _ _ _ behind.1 isAt] at plain ⊢
      have own := agree (.together 0 u) behind.2 plain
      exact (goTogether_literal (valueMove_of_ne isAt offset previous? u) own).of_ne behind.1
  intro skip skip' escaped rest step length plain
  cases step with
  | escaped => exact agree.cons_escaped apart length plain
  | together =>
    cases skip with
    | zero => exact looked length plain
    | succ skip =>
      rw [List.cons_append, quotedLength, List.length_cons] at length
      exact agree (.together skip u) (by omega) plain
  | masked own =>
    cases skip with
    | zero => exact looked length plain
    | succ n =>
      rw [List.cons_append, quotedLength, List.length_cons] at length
      rw [List.take_succ_cons, List.mem_cons, not_or] at own
      exact goTogether_literal (valueMove_of_ne (Ne.symm own.1) offset previous? u)
        (agree (.masked own.2) (by omega) plain)

end ScansAgree

/-- The two scans go together over every value. -/
theorem scansAgree (apart : '@'.toUInt8 ≠ quote) (w u : Text) :
    ∀ (offset : Nat) (previous? : Option UInt8), ScansAgree r quote w offset previous? u := by
  induction u with
  | nil =>
    intro offset previous?
    exact ScansAgree.nil apart w offset previous?
  | cons b u ih =>
    intro offset previous?
    exact (ih (offset + 1) (some b)).cons apart

end Reading

/-! ## Attributes -/

/-- A quoted value stands between two marks, or ends with the file, and its parts tile it. -/
structure Attribute.QuotedAt (file : Nat) (content : Text) (a : Attribute) (quote : UInt8)
    (opening stop : Nat) : Prop where
  opens : content[opening]? = some quote
  closes : content[stop]? = some quote ∨ stop = content.length
  ends : a.span.stop = min (stop + 1) content.length
  tiled : Span.Tiles file (opening + 1) (a.value.map ValuePart.span) stop

namespace Reading

/-- The stretches of the quoted value whose opening mark is at an offset of a content. -/
def stretchesAt (r : Reading) (content : Text) (quote : UInt8) (opening : Nat) : List Stretch :=
  r.stretchesFrom quote 0 (opening + 1) none false (content.drop (opening + 1))

/-- What is known about the value of an attribute if it is quoted. -/
def MarksTold (r : Reading) (content : Text) (a : Attribute) : Prop :=
  ∀ quote, a.quote? = some quote → ∃ opening stop,
    a.QuotedAt r.file content quote opening stop
      ∧ (∀ i, opening < i → i < stop → content[i]? = some quote →
          ∃ s ∈ r.stretchesAt content quote opening, s.start < i ∧ i < s.stop)
      ∧ (Stretch.AllPlain (r.stretchesAt content quote opening) →
          GoTogether quote [] a.value (r.stretchesAt content quote opening))

variable {r : Reading} {content t : Text} {offset : Nat} {a : Attribute}

/-- A value that is read behind a quotation mark. -/
theorem marksTold_quoted {quote : UInt8} {rest : Text} (apart : '@'.toUInt8 ≠ quote)
    (ahead : content.drop offset = quote :: rest) (marked : a.quote? = some quote)
    (value : a.value = (r.value (offset + 1) (rest.take (r.quotedLength quote 0 rest))).1)
    (ends : a.span.stop = offset + min (r.quotedLength quote 0 rest + 2) (rest.length + 1)) :
    r.MarksTold content a := by
  have stands : Text.StandsAt content offset (quote :: rest) := ahead ▸ .of_drop content offset
  have whole := length_of_drop ahead (List.cons_ne_nil quote rest)
  rw [List.length_cons] at whole
  have behind : content.drop (offset + 1) = rest := by
    rw [← List.drop_drop, ahead]
    rfl
  have bounded := (r.quotedLength_addsUp quote).le_length rest 0
  have parts := r.value_partsRead (stands.tail.take (r.quotedLength quote 0 rest))
  rw [List.length_take, Nat.min_eq_left bounded, ← value] at parts
  intro q same
  rw [marked] at same
  cases same
  refine ⟨offset, offset + 1 + r.quotedLength quote 0 rest, ⟨?_, ?_, ?_, parts.2⟩, ?_, ?_⟩
  · exact stands.getElem? List.getElem?_cons_zero
  · by_cases inside : r.quotedLength quote 0 rest < rest.length
    · exact .inl (stands.tail.getElem? (getElem?_quotedLength r quote rest 0 inside))
    · exact .inr (by omega)
  · omega
  · intro i first inside mark
    rcases Nat.exists_eq_add_of_le first with ⟨k, rfl⟩
    rw [stretchesAt, behind]
    apply mark_in_stretch apart rest (offset + 1) (by omega) _ (Nat.zero_le k)
    rw [← behind, List.getElem?_drop]
    exact mark
  · rw [stretchesAt, behind, value]
    intro plain
    have agree := scansAgree (r := r) apart (rest.drop (r.quotedLength quote 0 rest))
      (rest.take (r.quotedLength quote 0 rest)) (offset + 1) none (.together 0 _)
    rw [List.take_append_drop, List.length_take, Nat.min_eq_left bounded] at agree
    exact agree rfl plain

theorem marksTold_of_none (unquoted : a.quote? = none) : r.MarksTold content a := by
  intro quote marked
  rw [unquoted] at marked
  cases marked

theorem attribute'_marksTold (ahead : content.drop offset = t) (a : Attribute)
    (read : (r.attribute' offset t).attribute? = some a) : r.MarksTold content a := by
  unfold attribute' at read
  dsimp only at read
  split at read
  · cases read
  split at read
  · cases read
    exact marksTold_of_none rfl
  · generalize valueStart : nameLength t + Scan.blank (t.drop (nameLength t)) + 1 +
      Scan.blank (t.drop (nameLength t + Scan.blank (t.drop (nameLength t)) + 1)) = start at read
    have aheadValue : content.drop (offset + start) = t.drop start := by
      rw [← ahead, List.drop_drop]
    generalize t.drop start = value at read aheadValue
    cases read
    cases value with
    | nil => exact marksTold_of_none rfl
    | cons quote rest =>
      by_cases marks : (quote == '"'.toUInt8 || quote == '\''.toUInt8) = true
      · have apart : '@'.toUInt8 ≠ quote := by
          rintro rfl
          cases marks
        refine marksTold_quoted apart aheadValue ?_ ?_ ?_
        · simp only [attributeValue, if_pos marks]
        · simp only [attributeValue, if_pos marks]
        · simp only [attributeValue, if_pos marks, List.length_cons]
          exact (Nat.add_assoc _ _ _).symm
      · refine marksTold_of_none ?_
        simp only [attributeValue, if_neg marks]

theorem attributeCode_marksTold (content : Text) (a : Attribute)
    (read : (r.attributeCode offset t).attribute? = some a) : r.MarksTold content a := by
  unfold attributeCode at read
  split at read
  · cases read
  split at read
  · cases read
  · cases read
    exact marksTold_of_none rfl

theorem startTag_marksTold (ahead : content.drop offset = t) :
    ∀ a ∈ (r.startTag offset t).tag.attributes, r.MarksTold content a := by
  refine r.attributes_forall ?_ ?_ _ _ _ (List.drop_drop.symm.trans (congrArg _ ahead))
  · intro _ _ _ _
    exact attributeCode_marksTold content
  · intro _ _ here _
    exact attribute'_marksTold here

end Reading

/-! ## Trees -/

def Node.attributes : Node → List Attribute
  | .element _ tag _ _ => tag.attributes
  | _ => []

/-- Every quoted value of a tree stands between its marks, and each quotation mark in it is stepped
over with code.  If no masked stretch holds an at sign of its own, then whatever is stepped over is
code of the value or masked, and the text of the value holds a quotation mark exactly if something
that is stepped over outside of its code does. -/
theorem marks_in_text_iff (file : SourceFile) (options : ParserOptions) :
    let r := (Grammar.ofOptions file.id options).toReading
    ∀ n ∈ (parse file options).body, n.Every fun k => ∀ a ∈ k.attributes, ∀ quote,
      a.quote? = some quote → ∃ opening stop, a.QuotedAt file.id file.content quote opening stop
        ∧ (∀ i, opening < i → i < stop → file.content[i]? = some quote →
            ∃ s ∈ r.stretchesAt file.content quote opening, s.start < i ∧ i < s.stop)
        ∧ (Stretch.AllPlain (r.stretchesAt file.content quote opening) →
            (∀ s ∈ r.stretchesAt file.content quote opening,
              s.isMasked = true ∨ s.Inside (codeSpans a.value))
            ∧ ((∃ span t, .text span t ∈ a.value ∧ quote ∈ t) ↔
                ∃ s ∈ r.stretchesAt file.content quote opening,
                  quote ∈ s.code ∧ ¬ s.Inside (codeSpans a.value))) := by
  intro r n member
  have told : n.Every (Node.Obeys
      { tag := fun _ tag => ∀ a ∈ tag.attributes, r.MarksTold file.content a }) := by
    apply parse_obeys file options _ n member
    intro m b rest ahead
    constructor
    · intro _ _ _
      exact Reading.startTag_marksTold ahead
    · intro _ _
      trivial
  refine told.imp ?_
  intro k obeys a among quote marked
  have known : r.MarksTold file.content a := by
    cases k with
    | element => exact obeys.choose_spec a among
    | _ => cases among
  rcases known quote marked with ⟨opening, stop, placed, stepped, together⟩
  refine ⟨opening, stop, placed, stepped, fun plain => ⟨(together plain).covered, ?_⟩⟩
  have iff := (together plain).marked
  rw [mem_literalText] at iff
  rw [iff]
  exact or_iff_right List.not_mem_nil

/-- An address in a value does no harm, and a mark in the code behind it is code.  Where a call
stands behind the at sign of an address, or behind an escaped one, the marks in it are text, although
the first of them should have ended the value. -/
theorem marks_in_text_iff_address :
    let attributes (content : Text) :=
      (parse (SourceFile.ofContent 0 "page.quill" content .none) {}).body.flatMap Node.attributes
    let holdsMark (a : Attribute) := ∃ span t, .text span t ∈ a.value ∧ '"'.toUInt8 ∈ t
    (∃ a ∈ attributes "<a href=\"me@x.org@(f(\"z\"))\">",
        a.quote? = some '"'.toUInt8 ∧ ¬ holdsMark a)
      ∧ (∃ a ∈ attributes "<a href=\"me@f(\"z\")\">",
        a.quote? = some '"'.toUInt8 ∧ holdsMark a)
      ∧ (∃ a ∈ attributes "<a href=\"@@f(\"z\")\">",
        a.quote? = some '"'.toUInt8 ∧ holdsMark a) := by
  intro attributes holdsMark
  have told {content : Text} {a : Attribute} (among : a ∈ attributes content)
      (marked : a.quote? = some '"'.toUInt8) (opening : Nat)
      (first : a.value.head?.map (ValuePart.span · |>.start) = some (opening + 1))
      (plain : Stretch.AllPlain ((Grammar.ofOptions 0 {}).toReading.stretchesAt
        (SourceFile.ofContent 0 "page.quill" content .none).content '"'.toUInt8 opening)) :
      holdsMark a ↔ ∃ s ∈ (Grammar.ofOptions 0 {}).toReading.stretchesAt
        (SourceFile.ofContent 0 "page.quill" content .none).content '"'.toUInt8 opening,
        '"'.toUInt8 ∈ s.code ∧ ¬ s.Inside (codeSpans a.value) := by
    rcases List.mem_flatMap.mp among with ⟨n, member, inside⟩
    obtain ⟨start, stop, placed, -, told⟩ :=
      (marks_in_text_iff (.ofContent 0 "page.quill" content .none) {} n member).self a inside _
        marked
    have same : start = opening := by
      have tiled := placed.tiled
      cases value : a.value with
      | nil =>
        rw [value] at first
        cases first
      | cons p parts =>
        rw [value] at first tiled
        exact Nat.succ.inj (tiled.2.1.symm.trans (Option.some.inj first))
    subst same
    exact (told plain).2
  have address : ⟨⟨0, 3, 27⟩, "href",
      [.text ⟨0, 9, 17⟩ "me@x.org", .code ⟨0, 17, 26⟩ "f(\"z\")" true], false, some '"'.toUInt8,
      ⟨0, 3, 7⟩⟩ ∈ attributes "<a href=\"me@x.org@(f(\"z\"))\">" := by
    decide +kernel
  have call : ⟨⟨0, 3, 19⟩, "href", [.text ⟨0, 9, 18⟩ "me@f(\"z\")"], false, some '"'.toUInt8,
      ⟨0, 3, 7⟩⟩ ∈ attributes "<a href=\"me@f(\"z\")\">" := by
    decide +kernel
  have escaped : ⟨⟨0, 3, 18⟩, "href", [.transition ⟨0, 9, 11⟩, .text ⟨0, 11, 17⟩ "f(\"z\")"], false,
      some '"'.toUInt8, ⟨0, 3, 7⟩⟩ ∈ attributes "<a href=\"@@f(\"z\")\">" := by
    decide +kernel
  refine ⟨⟨_, address, rfl, ?_⟩, ⟨_, call, rfl, ?_⟩, ⟨_, escaped, rfl, ?_⟩⟩
  · rw [told address rfl 8 rfl (by decide +kernel)]
    decide +kernel
  · rw [told call rfl 8 rfl (by decide +kernel)]
    decide +kernel
  · rw [told escaped rfl 8 rfl (by decide +kernel)]
    decide +kernel

end Syntax

end TemplateCompiler
