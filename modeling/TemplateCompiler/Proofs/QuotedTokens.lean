import TemplateCompiler.Proofs.ScanBounds
import TemplateCompiler.Syntax.DirectiveLine

/-!
# Quoted tokens of directives

A text in double quotation marks ends with the first mark that no backslash escapes.  Backslashes
pair up from the left, so whether a byte is escaped is read off the bytes before it, by
`escapedAfter`, and `MarkAt` says where a mark stands that is not.

The scan for the closing mark runs over line ends, and a literal that is not closed takes the rest of
the text.  `token_quoted` says what the reader of a directive makes of that: it takes the text up to
the first mark, if this stands on the line.  Where there is no mark at all, the end of the file is
taken for one if the file ends on the line with an escaped mark; otherwise the token is refused.
-/

namespace TemplateCompiler

namespace Scan

/-- Whether the byte behind a text is escaped, where its first byte is or is not.  A backslash
escapes the next byte unless it is escaped itself. -/
def escapedAfter (escaped : Bool) (t : Text) : Bool :=
  t.foldl (fun escaped b => !escaped && b == '\\'.toUInt8) escaped

/-- A quotation mark stands at an offset of a text and is not escaped. -/
def MarkAt (quote : UInt8) (escaped : Bool) (t : Text) (k : Nat) : Prop :=
  t[k]? = some quote ∧ escapedAfter escaped (t.take k) = false

theorem markAt_zero {quote b : UInt8} {escaped : Bool} {t : Text} :
    MarkAt quote escaped (b :: t) 0 ↔ b = quote ∧ escaped = false := by
  simp [MarkAt, escapedAfter]

theorem markAt_succ {quote b : UInt8} {escaped : Bool} {t : Text} {k : Nat} :
    MarkAt quote escaped (b :: t) (k + 1) ↔
      MarkAt quote (!escaped && b == '\\'.toUInt8) t k := by
  simp [MarkAt, escapedAfter]

/-- The marks of a text whose first byte is none are those behind it. -/
theorem forall_not_markAt {quote b : UInt8} {escaped : Bool} {t : Text} {n : Nat}
    (plain : ¬ (b = quote ∧ escaped = false)) :
    (∀ k < n + 1, ¬ MarkAt quote escaped (b :: t) k) ↔
      ∀ k < n, ¬ MarkAt quote (!escaped && b == '\\'.toUInt8) t k := by
  constructor
  · intro none k below mark
    exact none (k + 1) (Nat.succ_lt_succ below) (markAt_succ.mpr mark)
  · intro none k below mark
    cases k with
    | zero => exact plain (markAt_zero.mp mark)
    | succ k => exact none k (Nat.lt_of_succ_lt_succ below) (markAt_succ.mp mark)

/-- The rest of a literal ends behind its first mark, or takes everything if there is none. -/
inductive EndsAtMark (quote : UInt8) (escaped : Bool) (t : Text) : Nat → Prop
  | closed {k : Nat} (mark : MarkAt quote escaped t k) (first : ∀ j < k, ¬ MarkAt quote escaped t j) :
      EndsAtMark quote escaped t (k + 1)
  | unclosed (none : ∀ j < t.length, ¬ MarkAt quote escaped t j) :
      EndsAtMark quote escaped t t.length

theorem EndsAtMark.cons {quote b : UInt8} {escaped next : Bool} {t : Text} {n : Nat}
    (plain : ¬ (b = quote ∧ escaped = false)) (state : (!escaped && b == '\\'.toUInt8) = next)
    (behind : EndsAtMark quote next t n) : EndsAtMark quote escaped (b :: t) (1 + n) := by
  subst state
  rw [Nat.add_comm]
  cases behind with
  | closed mark first =>
    exact .closed (markAt_succ.mpr mark) ((forall_not_markAt plain).mpr first)
  | unclosed none => exact .unclosed ((forall_not_markAt plain).mpr none)

theorem EndsAtMark.eq {quote : UInt8} {escaped : Bool} {t : Text} {n m : Nat}
    (first : EndsAtMark quote escaped t n) (second : EndsAtMark quote escaped t m) : n = m := by
  have inside {k : Nat} (mark : MarkAt quote escaped t k) : k < t.length :=
    (List.getElem?_eq_some_iff.mp mark.1).1
  cases first with
  | @closed k mark none =>
    cases second with
    | @closed j mark' none' =>
      rcases Nat.lt_trichotomy k j with below | rfl | above
      · exact absurd mark (none' k below)
      · rfl
      · exact absurd mark' (none j above)
    | unclosed none' => exact absurd mark (none' k (inside mark))
  | unclosed none =>
    cases second with
    | @closed j mark' _ => exact absurd mark' (none j (inside mark'))
    | unclosed => rfl

/-- Only single quotation marks end a literal at a line end. -/
theorem literalRest_endsAtMark {quote : UInt8} (lines : quote ≠ '\''.toUInt8)
    (letter : quote ≠ '\\'.toUInt8) (t : Text) :
    ∀ escaped, EndsAtMark quote escaped t (literalRest quote escaped t) := by
  induction t with
  | nil =>
    intro escaped
    have nothing : literalRest quote escaped [] = 0 := by cases escaped <;> rfl
    rw [nothing]
    exact .unclosed nofun
  | cons b t ih =>
    intro escaped
    cases escaped with
    | true => exact .cons (by simp) rfl (ih false)
    | false =>
      rw [literalRest]
      split
      · next backslash =>
        refine .cons ?_ backslash (ih true)
        rintro ⟨rfl, -⟩
        exact letter (eq_of_beq backslash)
      · next plain =>
        split
        · next closes => exact .closed (markAt_zero.mpr ⟨eq_of_beq closes, rfl⟩) nofun
        · next other =>
          rw [if_neg (by simp [lines])]
          refine .cons ?_ (Bool.eq_false_iff.mpr plain) (ih false)
          rintro ⟨rfl, -⟩
          exact other (beq_self_eq_true b)

end Scan

namespace Syntax

namespace TokenScan

/-- The first mark that is not escaped closes a text behind its opening mark, and stands on the
line. -/
structure ClosedAt (rest : Text) (k : Nat) : Prop where
  onLine : k < Scan.line rest
  mark : Scan.MarkAt '"'.toUInt8 false rest k
  first : ∀ j < k, ¬ Scan.MarkAt '"'.toUInt8 false rest j

/-- Behind the opening mark the file ends on the line, with a mark that is escaped like all marks
before it. -/
structure EndsEscaped (rest : Text) : Prop where
  line : Scan.line rest = rest.length
  last : rest.getLast? = some '"'.toUInt8
  unclosed : ∀ j < rest.length, ¬ Scan.MarkAt '"'.toUInt8 false rest j

/-- What is asked of the rest of a literal of `n` bytes before it is taken for a token. -/
structure Accepted (rest : Text) (n : Nat) : Prop where
  onLine : n ≤ Scan.line rest
  last : (('"'.toUInt8 :: rest).take (n + 1)).getLast? = some '"'.toUInt8
  nonempty : n ≠ 0

theorem token_eq_of_accepted (kind : DirectiveKind) {rest : Text} {n : Nat}
    (length : Scan.literalRest '"'.toUInt8 false rest = n) :
    (Accepted rest n → token .string kind ('"'.toUInt8 :: rest) = .ok (n + 1))
      ∧ (¬ Accepted rest n →
        token .string kind ('"'.toUInt8 :: rest)
          = .error ⟨.unterminatedString, 1 + Scan.line rest⟩) := by
  have line : Scan.line ('"'.toUInt8 :: rest) = 1 + Scan.line rest := by
    rw [Scan.line, Scan.run, List.takeWhile_cons_of_pos rfl, List.length_cons, Nat.add_comm]
    rfl
  have literal : Scan.literal ('"'.toUInt8 :: rest) = n + 1 := by
    rw [Scan.literal, length, Nat.add_comm]
  change (_ → string kind _ = _) ∧ (_ → string kind _ = _)
  unfold string
  rw [if_pos (by rfl), line, literal]
  dsimp only
  constructor
  · intro accepted
    have below := accepted.onLine
    rw [if_neg]
    simp only [Bool.or_eq_true, decide_eq_true_eq, bne_iff_ne, beq_iff_eq]
    rintro ((beyond | other) | alone)
    · omega
    · exact other accepted.last
    · exact accepted.nonempty (by omega)
  · intro refused
    rw [if_pos]
    apply Decidable.byContradiction
    intro fine
    simp only [Bool.or_eq_true, decide_eq_true_eq, bne_iff_ne, beq_iff_eq, not_or] at fine
    refine refused ⟨by omega, Decidable.not_not.mp fine.1.2, by omega⟩

/-- A literal is taken for a token if it is closed on the line, or if the file ends as if it were. -/
theorem accepted_iff {rest : Text} {n : Nat} (ends : Scan.EndsAtMark '"'.toUInt8 false rest n) :
    Accepted rest n ↔ (∃ k, ClosedAt rest k ∧ n = k + 1) ∨ (EndsEscaped rest ∧ n = rest.length) := by
  constructor
  · rintro ⟨onLine, last, nonempty⟩
    cases ends with
    | closed mark first => exact .inl ⟨_, ⟨onLine, mark, first⟩, rfl⟩
    | unclosed none =>
      refine .inr ⟨⟨Nat.le_antisymm (Scan.line_le_length rest) onLine, ?_, none⟩, rfl⟩
      cases rest with
      | nil => exact absurd rfl nonempty
      | cons b rest => simpa using last
  · rintro (⟨k, closed, rfl⟩ | ⟨escaped, rfl⟩)
    · refine ⟨closed.onLine, ?_, Nat.succ_ne_zero k⟩
      rw [List.getLast?_take]
      simp [closed.mark.1]
    · have last := escaped.last
      cases rest with
      | nil => cases last
      | cons b rest => exact ⟨Nat.le_of_eq escaped.line.symm, by simpa using last, nofun⟩

/-- A token that starts with a quotation mark ends behind the first mark that is not escaped, if this
stands on the line.  If there is none at all, it ends with the file where this ends on the line with
a mark, though that is escaped.  Otherwise the token is refused because it is not closed. -/
theorem token_quoted (kind : DirectiveKind) (rest : Text) :
    (∀ n, token .string kind ('"'.toUInt8 :: rest) = .ok n ↔
      (∃ k, ClosedAt rest k ∧ n = k + 2) ∨ (EndsEscaped rest ∧ n = rest.length + 1))
    ∧ ∀ fault, token .string kind ('"'.toUInt8 :: rest) = .error fault →
        fault = ⟨.unterminatedString, 1 + Scan.line rest⟩ := by
  have ends : Scan.EndsAtMark '"'.toUInt8 false rest _ :=
    Scan.literalRest_endsAtMark (by decide) (by decide) rest false
  generalize length : Scan.literalRest '"'.toUInt8 false rest = n at ends
  rcases token_eq_of_accepted kind length with ⟨taken, refused⟩
  by_cases accepted : Accepted rest n
  · rw [taken accepted]
    refine ⟨fun m => ⟨?_, ?_⟩, nofun⟩
    · rintro ⟨rfl⟩
      rcases (accepted_iff ends).mp accepted with ⟨k, closed, rfl⟩ | ⟨escaped, rfl⟩
      · exact .inl ⟨k, closed, rfl⟩
      · exact .inr ⟨escaped, rfl⟩
    · rintro (⟨k, closed, rfl⟩ | ⟨escaped, rfl⟩)
      · rw [ends.eq (.closed closed.mark closed.first)]
      · rw [ends.eq (.unclosed escaped.unclosed)]
  · rw [refused accepted]
    refine ⟨fun m => ⟨nofun, ?_⟩, fun fault same => (Except.error.inj same).symm⟩
    rintro (⟨k, closed, rfl⟩ | ⟨escaped, rfl⟩)
    · refine absurd ((accepted_iff ends).mpr (.inl ⟨k, closed, ?_⟩)) accepted
      exact ends.eq (.closed closed.mark closed.first)
    · refine absurd ((accepted_iff ends).mpr (.inr ⟨escaped, ?_⟩)) accepted
      exact ends.eq (.unclosed escaped.unclosed)

/-- At the end of the file, an escaped mark is taken for the closing one. -/
example : token .string .singleLine [0x22, 0x61, 0x5C, 0x22] = .ok 4 := rfl

end TokenScan

end Syntax

end TemplateCompiler
