import TemplateCompiler.Syntax.Scan

/-!
# Scanned lengths stay inside the text

The scanning functions only measure.  A parser that passes over the bytes they report stays inside
its text only if no reported length exceeds the text that was looked at, and a delimiter that was
found really stands at the reported offset.  Both facts are proved here for every scanning
function, without any assumption about the text.

Most of the functions recurse on the text and add one for each byte, so the bound is an induction
along the recursion.  The statement scanner jumps instead; its bound is assembled from those of the
blocks, blanks and keywords it jumps over.
-/

namespace TemplateCompiler

namespace Scan

/-! ## Runs of bytes -/

theorem run_le_length (p : UInt8 → Bool) (t : Text) : run p t ≤ t.length :=
  (List.takeWhile_sublist p).length_le

theorem identifier_le_length (t : Text) : identifier t ≤ t.length := by
  unfold identifier
  split
  · exact run_le_length isIdentifierPart t
  · exact Nat.zero_le _

theorem line_le_length (t : Text) : line t ≤ t.length := run_le_length _ t

theorem blank_le_length (t : Text) : blank t ≤ t.length := run_le_length _ t

theorem take_run (p : UInt8 → Bool) (t : Text) : t.take (run p t) = t.takeWhile p := by
  induction t with
  | nil => rfl
  | cons b t ih =>
    by_cases holds : p b = true
    · simp only [run, List.takeWhile_cons, holds, if_true, List.length_cons, List.take_succ_cons]
      exact congrArg (b :: ·) ih
    · simp only [run, List.takeWhile_cons, holds, Bool.false_eq_true, if_false, List.length_nil,
        List.take_zero]

/-- The bytes of a run satisfy its test. -/
theorem all_take_run (p : UInt8 → Bool) (t : Text) : (t.take (run p t)).all p = true := by
  rw [take_run]
  exact List.all_takeWhile

/-! ## Delimiters -/

/-- A closing delimiter stands at the offset at which it was found.  Wherever the scan goes on, the
delimiter stands one byte further in the longer text. -/
theorem getElem?_of_closingFrom {opening closing : UInt8} {t : Text} :
    ∀ {skip : Nat} {depth : Int} {k : Nat},
      closingFrom opening closing skip depth t = some k → t[k]? = some closing := by
  induction t with
  | nil =>
    intro skip depth k found
    cases skip <;> simp only [closingFrom, reduceCtorEq] at found
  | cons b t ih =>
    have behind : ∀ {skip : Nat} {depth : Int} {k : Nat},
        (closingFrom opening closing skip depth t).map (· + 1) = some k →
          (b :: t)[k]? = some closing := by
      intro skip depth k found
      rcases Option.map_eq_some_iff.mp found with ⟨j, foundBehind, rfl⟩
      simpa only [List.getElem?_cons_succ] using ih foundBehind
    intro skip depth k found
    cases skip with
    | succ skip => exact behind (by simpa only [closingFrom] using found)
    | zero =>
      simp only [closingFrom] at found
      split at found
      · exact behind found
      split at found
      · exact behind found
      split at found
      · exact behind found
      split at found
      · exact behind found
      split at found
      · next isClosing =>
        split at found
        · have same : b = closing := by simpa only [beq_iff_eq] using isClosing
          cases found
          simp only [List.getElem?_cons_zero, same]
        · exact behind found
      · exact behind found

theorem closing?_lt_length {opening closing : UInt8} {t : Text} {k : Nat}
    (found : closing? opening closing t = some k) : k < t.length :=
  (List.getElem?_eq_some_iff.mp (getElem?_of_closingFrom found)).1

/-! ## Lengths that are added up -/

/-- A length that is added up byte by byte: it ends at a byte that is looked at, or goes on behind
that byte after passing over some others. -/
structure AddsUp (length : Nat → Text → Nat) : Prop where
  nil : ∀ skip, length skip [] = 0
  passed : ∀ skip b t, length (skip + 1) (b :: t) = 1 + length skip t
  looked : ∀ b t, length 0 (b :: t) = 0 ∨ ∃ skip, length 0 (b :: t) = 1 + length skip t

namespace AddsUp

variable {length : Nat → Text → Nat}

theorem le_length (adds : AddsUp length) (t : Text) : ∀ skip, length skip t ≤ t.length := by
  induction t with
  | nil =>
    intro skip
    rw [adds.nil]
    exact Nat.zero_le _
  | cons b t ih =>
    intro skip
    rw [List.length_cons]
    cases skip with
    | succ skip =>
      have bound := ih skip
      rw [adds.passed]
      omega
    | zero =>
      rcases adds.looked b t with ends | ⟨skip, goes⟩
      · rw [ends]
        exact Nat.zero_le _
      · have bound := ih skip
        rw [goes]
        omega

/-- What is passed over is counted. -/
theorem min_skip_le (adds : AddsUp length) (t : Text) :
    ∀ skip, min skip t.length ≤ length skip t := by
  induction t with
  | nil =>
    intro skip
    rw [List.length_nil, Nat.min_zero]
    exact Nat.zero_le _
  | cons b t ih =>
    intro skip
    cases skip with
    | zero =>
      rw [Nat.zero_min]
      exact Nat.zero_le _
    | succ skip =>
      have bound := ih skip
      rw [adds.passed, List.length_cons]
      omega

end AddsUp

/-! ## Implicit expressions -/

/-- How accesses go on at a byte: what is passed over.  They end where nothing is. -/
def accessMove (forgiving : Bool) (b : UInt8) (t : Text) : Option Nat :=
  if b == '('.toUInt8 then closingParenthesis? (b :: t)
  else if b == '['.toUInt8 then closingBracket? (b :: t)
  else if b == '.'.toUInt8 && startsWithByte isIdentifierStart t then some (identifier t)
  else if b == '?'.toUInt8 || (b == '!'.toUInt8 && forgiving) then
    if t.head? == some '.'.toUInt8 && startsWithByte isIdentifierStart t.tail then
      some (1 + identifier t.tail)
    else none
  else none

theorem accesses_cons (forgiving : Bool) (b : UInt8) (t : Text) :
    accesses forgiving 0 (b :: t) =
      match accessMove forgiving b t with
      | none => 0
      | some skip => 1 + accesses forgiving skip t := by
  rw [accesses.eq_def, accessMove]
  dsimp only
  split
  · cases closingParenthesis? (b :: t) <;> rfl
  split
  · cases closingBracket? (b :: t) <;> rfl
  split
  · rfl
  split
  · cases t with
    | nil => rfl
    | cons c rest =>
      change (if (c == '.'.toUInt8 && startsWithByte isIdentifierStart rest) = true then _ else _) =
        match (if (some c == some '.'.toUInt8 && startsWithByte isIdentifierStart rest) = true then
          some (1 + identifier rest) else none) with
        | none => 0
        | some skip => 1 + accesses forgiving skip (c :: rest)
      rw [Option.some_beq_some]
      split <;> rfl
  · rfl

theorem accesses_addsUp (forgiving : Bool) : AddsUp (accesses forgiving) where
  nil skip := by cases skip <;> rfl
  passed _ _ _ := rfl
  looked b t := by
    rw [accesses_cons]
    cases accessMove forgiving b t with
    | none => exact .inl rfl
    | some skip => exact .inr ⟨skip, rfl⟩

theorem implicitStart_le_length (t : Text) : implicitStart t ≤ t.length := by
  have bound := identifier_le_length t
  simp only [implicitStart]
  split
  · split
    · next b rest ahead =>
      split
      · have rested := identifier_le_length rest
        have measured := congrArg List.length ahead
        rw [List.length_drop, List.length_cons] at measured
        omega
      · exact bound
    · exact bound
  · exact bound

theorem implicit_le_length (forgiving : Bool) (t : Text) : implicit forgiving t ≤ t.length := by
  have first := implicitStart_le_length t
  have rest := (accesses_addsUp forgiving).le_length (t.drop (implicitStart t)) 0
  rw [List.length_drop] at rest
  simp only [implicit]
  omega

/-! ## Statements -/

theorem block_le_length {t : Text} {n : Nat} (found : block t = .closed n) : n ≤ t.length := by
  simp only [block] at found
  split at found
  · cases found
  · split at found
    · cases found
    · split at found
      · cases found
      · next closed =>
        cases found
        have inside := closing?_lt_length closed
        rw [List.length_drop] at inside
        omega

theorem trailingCondition?_le_length {t : Text} {n : Nat}
    (found : trailingCondition? t = some n) : n ≤ t.length := by
  simp only [trailingCondition?] at found
  split at found
  · cases found
    exact Nat.zero_le _
  · rcases Option.map_eq_some_iff.mp found with ⟨k, closed, rfl⟩
    have inside := closing?_lt_length closed
    rw [List.length_drop] at inside
    split
    · next semicolon =>
      have present : (t.drop (blank t + k + 1)).head? = some ';'.toUInt8 := by
        simpa only [beq_iff_eq] using semicolon
      rw [List.head?_drop] at present
      have bound := (List.getElem?_eq_some_iff.mp present).1
      omega
    · omega

/-- A word that an identifier spells takes no more bytes than the text has. -/
theorem length_of_take_identifier {t word : Text} (same : t.take (identifier t) = word) :
    word.length ≤ t.length := by
  rw [← same, List.length_take]
  exact Nat.min_le_right _ _

theorem statementFrom_le_length (keyword : Text) :
    ∀ (rounds : Nat) (t : Text), (statementFrom keyword rounds t).1 ≤ t.length := by
  intro rounds
  induction rounds with
  | zero => intro t; exact Nat.zero_le _
  | succ rounds ih =>
    intro t
    rw [statementFrom]
    split
    · exact Nat.le_refl _
    · exact line_le_length t
    · next n closed =>
      have inBlock := block_le_length closed
      dsimp only
      generalize wordEq : (((t.drop n).drop (blank (t.drop n))).take
        (identifier ((t.drop n).drop (blank (t.drop n))))) = word
      have inWord := length_of_take_identifier wordEq
      have inBlank := blank_le_length (t.drop n)
      rw [List.length_drop] at inBlank
      rw [List.length_drop, List.length_drop] at inWord
      split
      · exact inBlock
      split
      · split
        · exact Nat.le_refl _
        · exact inBlock
        · next k trailing =>
          have inTrailing := trailingCondition?_le_length trailing
          rw [List.length_drop] at inTrailing
          omega
      · generalize afterEq : n + blank (t.drop n) + word.length = after
        have inAfter : after ≤ t.length := by omega
        have inGap := blank_le_length (t.drop after)
        rw [List.length_drop] at inGap
        split
        · next otherwise =>
          have isIf : ((t.drop after).drop (blank (t.drop after))).take
              (identifier ((t.drop after).drop (blank (t.drop after)))) = Text.ofString "if" := by
            rw [Bool.and_eq_true, beq_iff_eq, beq_iff_eq] at otherwise
            exact otherwise.2
          have inIf := length_of_take_identifier isIf
          have two : (Text.ofString "if").length = 2 := by decide
          rw [List.length_drop, List.length_drop, two] at inIf
          have inRest := ih (t.drop (after + (blank (t.drop after) + 2)))
          rw [List.length_drop] at inRest
          dsimp only
          omega
        · have inRest := ih (t.drop (after + 0))
          rw [List.length_drop] at inRest
          dsimp only
          omega

theorem statement_le_length (keyword t : Text) : (statement keyword t).1 ≤ t.length :=
  statementFrom_le_length keyword _ t

end Scan

end TemplateCompiler
