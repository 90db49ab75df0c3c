import TemplateCompiler.Proofs.ScanBounds

/-!
# Scanning a text that is cut off

What the scanning functions find in a text is compared with what they find in its front `u`, where
the rest `w` is cut off.  A literal or an identifier ends with the front at the latest.  A delimiter
that closes inside the front is found there.  The converse fails at the very end: whether an
apostrophe opens a character literal is decided by the bytes behind it, so a delimiter that a
literal hides in the text can close at the last byte of the front.  Code that is longer in the front
than in the text therefore takes all of the front, and the cut uncovers its end
(`Scan.found_in_front`).
-/

namespace TemplateCompiler

namespace Scan

/-! ## Runs and literals -/

theorem run_cut (p : UInt8 → Bool) (u w : Text) : run p u = min (run p (u ++ w)) u.length := by
  induction u with
  | nil => exact (Nat.min_zero _).symm
  | cons b u ih =>
    rw [run, run] at *
    rw [List.cons_append, List.takeWhile_cons, List.takeWhile_cons]
    cases p b with
    | true =>
      simp only [if_true, List.length_cons]
      omega
    | false => exact (Nat.zero_min _).symm

theorem literalRest_cut (quote : UInt8) (escaped : Bool) (u w : Text) :
    literalRest quote escaped u = min (literalRest quote escaped (u ++ w)) u.length := by
  induction u generalizing escaped with
  | nil =>
    cases escaped <;> exact (Nat.min_zero _).symm
  | cons b u ih =>
    have behind (escaped : Bool) : 1 + literalRest quote escaped u =
        min (1 + literalRest quote escaped (u ++ w)) (b :: u).length := by
      rw [ih escaped, List.length_cons]
      omega
    rw [List.cons_append]
    cases escaped with
    | true => exact behind false
    | false =>
      rw [literalRest, literalRest]
      split
      · exact behind true
      split
      · rw [List.length_cons]
        omega
      split
      · exact (Nat.zero_min _).symm
      · exact behind false

theorem literal_cut (b : UInt8) (u w : Text) :
    literal (b :: u) = min (literal (b :: (u ++ w))) (b :: u).length := by
  rw [literal, literal, literalRest_cut b false u w, List.length_cons]
  omega

theorem identifier_cut (u w : Text) : identifier u = min (identifier (u ++ w)) u.length := by
  cases u with
  | nil => exact (Nat.min_zero _).symm
  | cons b u =>
    have first : startsWithByte isIdentifierStart (b :: u ++ w) =
      startsWithByte isIdentifierStart (b :: u) := rfl
    rw [identifier, identifier, first]
    split
    · exact run_cut _ _ _
    · exact (Nat.zero_min _).symm

theorem line_cut (u w : Text) : line u = min (line (u ++ w)) u.length := run_cut _ u w

theorem identifier_pos {t : Text} (starts : startsWithByte isIdentifierStart t = true) :
    0 < identifier t := by
  cases t with
  | nil => cases starts
  | cons b t =>
    have first : isIdentifierStart b = true := starts
    have part : isIdentifierPart b = true := by
      rw [isIdentifierPart, first, Bool.true_or]
    rw [identifier, if_pos starts, run, List.takeWhile_cons, if_pos part]
    exact Nat.succ_pos _

/-! ## Character literals -/

theorem isCharacterLiteral_append {t : Text} (front : isCharacterLiteral t = true) (w : Text) :
    isCharacterLiteral (t ++ w) = true := by
  match t with
  | [] | [_] | [_, _] => cases front
  | _ :: b :: c :: d :: rest => exact front
  | [_, b, c] =>
    simp only [isCharacterLiteral, List.head?_nil, Bool.or_eq_true] at front
    simp only [isCharacterLiteral, List.cons_append, List.nil_append, Bool.or_eq_true]
    rcases front with plain | escaped
    · exact .inl plain
    · simp at escaped

theorem literal_pos (b : UInt8) (t : Text) : 0 < literal (b :: t) := by
  rw [literal]
  omega

/-- A literal goes on behind its quote unless a line feed follows. -/
theorem one_lt_literal {quote b : UInt8} (t : Text) (noFeed : b ≠ 0x0A) :
    1 < literal (quote :: b :: t) := by
  rw [literal, literalRest]
  split
  · omega
  split
  · omega
  split
  · next feed =>
    rw [Bool.and_eq_true, beq_iff_eq] at feed
    exact absurd feed.1 noFeed
  · omega

theorem literal_feed (t : Text) : literal ('\''.toUInt8 :: 0x0A :: t) = 1 := rfl

/-- A character literal that the front does not show: a line feed ends it at once, or it takes more
than the front. -/
theorem literal_of_isCharacterLiteral_cut {u w : Text}
    (whole : isCharacterLiteral ('\''.toUInt8 :: (u ++ w)) = true)
    (front : isCharacterLiteral ('\''.toUInt8 :: u) = false) :
    u = [0x0A] ∧ literal ('\''.toUInt8 :: (u ++ w)) = 1
      ∨ u.length < literal ('\''.toUInt8 :: (u ++ w)) := by
  match u with
  | [] => exact .inr (literal_pos _ _)
  | [b] =>
    by_cases feed : b = 0x0A
    · subst feed
      exact .inl ⟨rfl, literal_feed w⟩
    · exact .inr (one_lt_literal _ feed)
  | [b, c] =>
    simp only [isCharacterLiteral, List.head?_nil, Bool.or_eq_false_iff] at front
    simp only [List.cons_append, List.nil_append, isCharacterLiteral, front.1, Bool.false_or,
      Bool.and_eq_true, beq_iff_eq] at whole
    rcases whole with ⟨rfl, closes⟩
    cases w with
    | nil => cases closes
    | cons d w =>
      cases Option.some.inj closes
      exact .inr (Nat.lt_of_lt_of_eq (show 2 < 4 by decide) rfl)
  | b :: c :: d :: rest =>
    rw [show isCharacterLiteral ('\''.toUInt8 :: (b :: c :: d :: rest ++ w)) =
      isCharacterLiteral ('\''.toUInt8 :: b :: c :: d :: rest) from rfl, front] at whole
    cases whole

/-- The cut takes the closing quote off a character literal, so that the delimiter in it is
uncovered: an apostrophe comes next, and the front ends with an apostrophe and the delimiter or its
escape. -/
structure Uncovers (closing : UInt8) (u w : Text) : Prop where
  quote : w.head? = some '\''.toUInt8
  opened : ['\''.toUInt8, closing] <:+ u ∨ ['\''.toUInt8, '\\'.toUInt8, closing] <:+ u

theorem Uncovers.behind {closing : UInt8} {u w : Text} (uncovers : Uncovers closing u w)
    (t : Text) : Uncovers closing (t ++ u) w where
  quote := uncovers.quote
  opened := uncovers.opened.imp (·.trans (List.suffix_append t u))
    (·.trans (List.suffix_append t u))

/-- A delimiter in a character literal that the front does not show is the last byte of the
front. -/
theorem uncovers_of_isCharacterLiteral_cut {closing : UInt8} {u w : Text} {j : Nat}
    (plain : closing ≠ '\\'.toUInt8)
    (whole : isCharacterLiteral ('\''.toUInt8 :: (u ++ w)) = true)
    (front : isCharacterLiteral ('\''.toUInt8 :: u) = false) (stands : u[j]? = some closing) :
    j + 1 = u.length ∧ Uncovers closing ('\''.toUInt8 :: u) w := by
  match u, j with
  | [], _ => cases stands
  | [b], 0 =>
    cases stands
    cases w with
    | nil => cases whole
    | cons c w =>
      simp only [List.cons_append, List.nil_append, isCharacterLiteral,
        beq_eq_false_iff_ne.mpr plain, Bool.false_and, Bool.or_false, Bool.and_eq_true,
        beq_iff_eq] at whole
      exact ⟨rfl, congrArg some whole.2, .inl (List.suffix_refl _)⟩
  | [b, c], j =>
    simp only [isCharacterLiteral, List.head?_nil, Bool.or_eq_false_iff] at front
    simp only [List.cons_append, List.nil_append, isCharacterLiteral, front.1, Bool.false_or,
      Bool.and_eq_true, beq_iff_eq] at whole
    rcases whole with ⟨rfl, closes⟩
    match j with
    | 0 => exact absurd (Option.some.inj stands).symm plain
    | 1 =>
      cases stands
      exact ⟨rfl, closes, .inr (List.suffix_refl _)⟩
  | b :: c :: d :: rest, _ =>
    rw [show isCharacterLiteral ('\''.toUInt8 :: (b :: c :: d :: rest ++ w)) =
      isCharacterLiteral ('\''.toUInt8 :: b :: c :: d :: rest) from rfl, front] at whole
    cases whole

/-! ## Delimiters -/

/-- Delimiters that have nothing to do with character literals and comments. -/
structure AreDelimiters (opening closing : UInt8) : Prop where
  opening_ne : opening ≠ '\''.toUInt8
  closing_ne : closing ≠ '\''.toUInt8
  closing_ne_escape : closing ≠ '\\'.toUInt8
  closing_ne_slash : closing ≠ '/'.toUInt8

/-- What a search that is cut off asks of its delimiters: an apostrophe does not open what a line
feed closes. -/
def Unfed (opening closing : UInt8) : Prop := opening = '\''.toUInt8 → closing ≠ 0x0A

theorem AreDelimiters.unfed {opening closing : UInt8} (apart : AreDelimiters opening closing) :
    Unfed opening closing := fun quote => absurd quote apart.opening_ne

theorem areDelimiters_parentheses : AreDelimiters '('.toUInt8 ')'.toUInt8 :=
  ⟨by decide, by decide, by decide, by decide⟩

theorem areDelimiters_brackets : AreDelimiters '['.toUInt8 ']'.toUInt8 :=
  ⟨by decide, by decide, by decide, by decide⟩

section Closing

variable {opening closing : UInt8}

/-- How the search for a delimiter goes on at a byte: what is passed over, and how many delimiters
are open.  It does not go on where the delimiter is found. -/
def closingMove (opening closing : UInt8) (depth : Int) (b : UInt8) (t : Text) :
    Option (Nat × Int) :=
  if b == '"'.toUInt8 then some (literal (b :: t) - 1, depth)
  else if b == '\''.toUInt8 && isCharacterLiteral (b :: t) then some (literal (b :: t) - 1, depth)
  else if b == '/'.toUInt8 && t.head? == some '/'.toUInt8 then some (line (b :: t), depth)
  else if b == opening then some (0, depth + 1)
  else if b == closing then if depth == 1 then none else some (0, depth - 1)
  else some (0, depth)

theorem closingFrom_cons (depth : Int) (b : UInt8) (t : Text) :
    closingFrom opening closing 0 depth (b :: t) =
      match closingMove opening closing depth b t with
      | none => some 0
      | some (skip, depth) => (closingFrom opening closing skip depth t).map (· + 1) := by
  rw [closingFrom, closingMove]
  split
  · rfl
  split
  · rfl
  split
  · rfl
  split
  · rfl
  split
  · split <;> rfl
  · rfl

theorem skip_le_of_closingFrom {t : Text} : ∀ {skip : Nat} {depth : Int} {k : Nat},
    closingFrom opening closing skip depth t = some k → skip ≤ k := by
  induction t with
  | nil =>
    intro skip depth k found
    cases skip <;> cases found
  | cons b t ih =>
    intro skip depth k found
    cases skip with
    | zero => exact Nat.zero_le k
    | succ skip =>
      rw [closingFrom] at found
      rcases Option.map_eq_some_iff.mp found with ⟨j, behind, rfl⟩
      exact Nat.succ_le_succ (ih behind)

/-- Nothing is found where all is passed over. -/
theorem closingFrom_of_length_le {t : Text} {skip : Nat} (depth : Int) (all : t.length ≤ skip) :
    closingFrom opening closing skip depth t = none := by
  cases found : closingFrom opening closing skip depth t with
  | none => rfl
  | some k =>
    have inside := (List.getElem?_eq_some_iff.mp (getElem?_of_closingFrom found)).1
    have passed := skip_le_of_closingFrom found
    omega

theorem closingFrom_min (skip : Nat) (depth : Int) (t : Text) :
    closingFrom opening closing (min skip t.length) depth t =
      closingFrom opening closing skip depth t := by
  by_cases inside : skip ≤ t.length
  · rw [Nat.min_eq_left inside]
  · have beyond : t.length ≤ skip := Nat.le_of_not_le inside
    rw [Nat.min_eq_right beyond, closingFrom_of_length_le _ (Nat.le_refl _),
      closingFrom_of_length_le _ beyond]

/-- Passing over the same part of a text finds the same. -/
theorem closingFrom_congr {t : Text} {skip skip' : Nat}
    (same : min skip' t.length = min skip t.length) (depth : Int) :
    closingFrom opening closing skip' depth t = closingFrom opening closing skip depth t := by
  rw [← closingFrom_min, same, closingFrom_min]

/-- A delimiter that is found at a byte is found there in the front. -/
theorem closingMove_cut_of_none {depth : Int} {b : UInt8} {u w : Text}
    (here : closingMove opening closing depth b (u ++ w) = none) :
    closingMove opening closing depth b u = none := by
  rw [closingMove] at here ⊢
  split at here
  · cases here
  · next noString =>
    rw [if_neg noString]
    split at here
    · cases here
    · next noCharacter =>
      rw [if_neg fun front => noCharacter ?_]
      · split at here
        · cases here
        · next noComment =>
          rw [if_neg fun front => noComment ?_]
          · exact here
          · cases u with
            | nil => simp at front
            | cons c u => exact front
      · rw [Bool.and_eq_true] at front ⊢
        exact ⟨front.1, isCharacterLiteral_append front.2 w⟩

theorem literal_sub_one_cut (b : UInt8) (u w : Text) :
    min (literal (b :: u) - 1) u.length = min (literal (b :: (u ++ w)) - 1) u.length := by
  rw [literal_cut b u w, List.length_cons]
  omega

/-- Where a delimiter closes does not depend on what follows it. -/
theorem closingMove_none_congr (apart : AreDelimiters opening closing) {depth : Int} {b : UInt8}
    {t : Text} (here : closingMove opening closing depth b t = none) (t' : Text) :
    closingMove opening closing depth b t' = none := by
  rw [closingMove] at here ⊢
  split at here
  · cases here
  next noString =>
  split at here
  · cases here
  split at here
  · cases here
  split at here
  · cases here
  next notOpening =>
  split at here
  · next isClosing =>
    split at here
    · next last =>
      have same : b = closing := eq_of_beq isClosing
      rw [if_neg noString, if_neg, if_neg, if_neg notOpening, if_pos isClosing, if_pos last]
      · rw [same, beq_eq_false_iff_ne.mpr apart.closing_ne_slash, Bool.false_and]
        exact Bool.false_ne_true
      · rw [same, beq_eq_false_iff_ne.mpr apart.closing_ne, Bool.false_and]
        exact Bool.false_ne_true
    · cases here
  · cases here

/-- An apostrophe that opens no character literal is passed over. -/
theorem closingMove_apostrophe (opens : opening ≠ '\''.toUInt8) (closes : closing ≠ '\''.toUInt8)
    (depth : Int) {t : Text} (plain : isCharacterLiteral ('\''.toUInt8 :: t) = false) :
    closingMove opening closing depth '\''.toUInt8 t = some (0, depth) := by
  rw [closingMove, plain, beq_eq_false_iff_ne.mpr opens.symm, beq_eq_false_iff_ne.mpr closes.symm]
  rfl

theorem closingMove_characterLiteral (opening closing : UInt8) (depth : Int) {t : Text}
    (literally : isCharacterLiteral ('\''.toUInt8 :: t) = true) :
    closingMove opening closing depth '\''.toUInt8 t =
      some (literal ('\''.toUInt8 :: t) - 1, depth) := by
  rw [closingMove, literally]
  rfl

/-- At a byte with more behind it, the search goes on alike in the text and in its front, unless a
character literal is cut off. -/
theorem closingMove_cut (depth : Int) (b c : UInt8) (u w : Text) :
    (∃ skip skip' depth', closingMove opening closing depth b (c :: u ++ w) = some (skip, depth')
        ∧ closingMove opening closing depth b (c :: u) = some (skip', depth')
        ∧ min skip' (c :: u).length = min skip (c :: u).length)
      ∨ closingMove opening closing depth b (c :: u ++ w) = none
      ∨ b = '\''.toUInt8 ∧ isCharacterLiteral ('\''.toUInt8 :: (c :: u ++ w)) = true
        ∧ isCharacterLiteral ('\''.toUInt8 :: c :: u) = false := by
  by_cases cutOff : b = '\''.toUInt8 ∧ isCharacterLiteral ('\''.toUInt8 :: (c :: u ++ w)) = true
      ∧ isCharacterLiteral ('\''.toUInt8 :: c :: u) = false
  · exact .inr (.inr cutOff)
  · have literally : (b == '\''.toUInt8 && isCharacterLiteral (b :: (c :: u ++ w))) =
        (b == '\''.toUInt8 && isCharacterLiteral (b :: c :: u)) := by
      by_cases apostrophe : b = '\''.toUInt8
      · subst apostrophe
        cases front : isCharacterLiteral ('\''.toUInt8 :: c :: u) with
        | true => exact congrArg (_ && ·) (isCharacterLiteral_append front w)
        | false =>
          rw [Bool.eq_false_iff.mpr fun whole => cutOff ⟨rfl, whole, front⟩]
      · rw [beq_eq_false_iff_ne.mpr apostrophe, Bool.false_and, Bool.false_and]
    have ahead : (c :: u ++ w).head? = (c :: u).head? := rfl
    rw [closingMove, closingMove, literally, ahead]
    split
    · exact .inl ⟨_, _, _, rfl, rfl, literal_sub_one_cut b (c :: u) w⟩
    split
    · exact .inl ⟨_, _, _, rfl, rfl, literal_sub_one_cut b (c :: u) w⟩
    split
    · refine .inl ⟨_, _, _, rfl, rfl, ?_⟩
      rw [line_cut (b :: c :: u) w, List.length_cons]
      change min (min (line (b :: (c :: u ++ w))) _) _ = _
      omega
    split
    · exact .inl ⟨_, _, _, rfl, rfl, rfl⟩
    split
    · split
      · exact .inr (.inl rfl)
      · exact .inl ⟨_, _, _, rfl, rfl, rfl⟩
    · exact .inl ⟨_, _, _, rfl, rfl, rfl⟩

/-- A delimiter that closes inside the front closes there when the rest is cut off.  A literal that
the front does not show ends at a line feed, which is then the delimiter itself, or it takes more
than the front. -/
theorem closingFrom_cut (unfed : Unfed opening closing) (w : Text) (u : Text) :
    ∀ {skip : Nat} {depth : Int} {k : Nat},
      closingFrom opening closing skip depth (u ++ w) = some k → k < u.length →
        closingFrom opening closing skip depth u = some k := by
  induction u with
  | nil =>
    intro skip depth k _ inside
    cases inside
  | cons b u ih =>
    intro skip depth k found inside
    cases skip with
    | succ skip =>
      rw [List.cons_append, closingFrom] at found
      rcases Option.map_eq_some_iff.mp found with ⟨j, behind, rfl⟩
      rw [closingFrom, ih behind (Nat.lt_of_succ_lt_succ inside)]
      rfl
    | zero =>
      rw [List.cons_append, closingFrom_cons] at found
      rw [closingFrom_cons]
      cases here : closingMove opening closing depth b (u ++ w) with
      | none =>
        rw [here] at found
        rw [closingMove_cut_of_none here]
        exact found
      | some move =>
        rcases move with ⟨skip, depth'⟩
        rw [here] at found
        rcases Option.map_eq_some_iff.mp found with ⟨j, behind, rfl⟩
        have near : j < u.length := Nat.lt_of_succ_lt_succ inside
        cases u with
        | nil => cases near
        | cons c u =>
          rcases closingMove_cut depth b c u w with
            ⟨skip₁, skip', depth₁, whole, front, same⟩ | whole | ⟨rfl, literally, plain⟩
          · rw [here] at whole
            cases whole
            rw [front]
            dsimp only
            rw [closingFrom_congr same, ih behind near]
            rfl
          · rw [here] at whole
            cases whole
          · rw [closingMove_characterLiteral _ _ depth literally] at here
            cases here
            rcases literal_of_isCharacterLiteral_cut literally plain with ⟨single, ends⟩ | beyond
            · rw [ends] at behind
              rw [single] at near behind ih
              cases Nat.lt_one_iff.mp near
              have feed : 0x0A = closing := Option.some.inj (getElem?_of_closingFrom behind)
              have opens : opening ≠ '\''.toUInt8 := fun quote => unfed quote feed.symm
              have closes : closing ≠ '\''.toUInt8 := feed ▸ by decide
              rw [closingMove_apostrophe opens closes depth plain, single]
              dsimp only
              rw [ih behind near]
              rfl
            · have passed := skip_le_of_closingFrom behind
              omega

/-- A delimiter that closes in the front closes in the text, unless it is uncovered there. -/
theorem closingFrom_of_cut (apart : AreDelimiters opening closing) (w : Text) (u : Text) :
    ∀ {skip : Nat} {depth : Int} {k : Nat},
      closingFrom opening closing skip depth u = some k →
        closingFrom opening closing skip depth (u ++ w) = some k
          ∨ k + 1 = u.length ∧ Uncovers closing u w := by
  induction u with
  | nil =>
    intro skip depth k found
    cases skip <;> cases found
  | cons b u ih =>
    have further {skip : Nat} {depth : Int} {j : Nat}
        (behind : closingFrom opening closing skip depth u = some j) :
        (closingFrom opening closing skip depth (u ++ w)).map (· + 1) = some (j + 1)
          ∨ j + 1 + 1 = (b :: u).length ∧ Uncovers closing (b :: u) w := by
      rcases ih behind with same | ⟨last, uncovers⟩
      · exact .inl (congrArg (Option.map (· + 1)) same)
      · exact .inr ⟨congrArg (· + 1) last, uncovers.behind [b]⟩
    intro skip depth k found
    cases skip with
    | succ skip =>
      rw [closingFrom] at found
      rcases Option.map_eq_some_iff.mp found with ⟨j, behind, rfl⟩
      rw [List.cons_append, closingFrom]
      exact further behind
    | zero =>
      rw [closingFrom_cons] at found
      rw [List.cons_append, closingFrom_cons]
      cases here : closingMove opening closing depth b u with
      | none =>
        rw [here] at found
        rw [closingMove_none_congr apart here (u ++ w)]
        exact .inl found
      | some move =>
        rcases move with ⟨skip, depth'⟩
        rw [here] at found
        rcases Option.map_eq_some_iff.mp found with ⟨j, behind, rfl⟩
        cases u with
        | nil => cases skip <;> cases behind
        | cons c u =>
          rcases closingMove_cut depth b c u w with
            ⟨skip₁, skip', depth₁, whole, front, same⟩ | whole | ⟨rfl, literally, plain⟩
          · rw [here] at front
            cases front
            rw [whole]
            dsimp only
            rw [closingFrom_congr same] at behind
            exact further behind
          · rw [closingMove_cut_of_none whole] at here
            cases here
          · rw [closingMove_apostrophe apart.opening_ne apart.closing_ne depth plain] at here
            cases here
            have uncovered := uncovers_of_isCharacterLiteral_cut apart.closing_ne_escape literally
              plain (getElem?_of_closingFrom behind)
            exact .inr ⟨congrArg (· + 1) uncovered.1, uncovered.2⟩

end Closing

/-! ## Implicit expressions -/

theorem identifier_cut_of_le {u w : Text}
    (starts : startsWithByte isIdentifierStart (u ++ w) = true)
    (inside : identifier (u ++ w) ≤ u.length) :
    startsWithByte isIdentifierStart u = true ∧ identifier u = identifier (u ++ w) := by
  refine ⟨?_, (identifier_cut u w).trans (Nat.min_eq_left inside)⟩
  cases u with
  | nil => exact absurd inside (Nat.not_le.mpr (identifier_pos starts))
  | cons c u => exact starts

theorem startsWithByte_append {p : UInt8 → Bool} {u : Text} (starts : startsWithByte p u = true)
    (w : Text) : startsWithByte p (u ++ w) = true := by
  cases u with
  | nil => cases starts
  | cons c u => exact starts

/-- Where accesses go on inside the front, they do so when the rest is cut off. -/
theorem accessMove_cut {forgiving : Bool} {b : UInt8} {u w : Text} {skip : Nat}
    (whole : accessMove forgiving b (u ++ w) = some skip) (inside : skip ≤ u.length) :
    accessMove forgiving b u = some skip := by
  rw [accessMove] at whole ⊢
  split
  · next opens =>
    rw [if_pos opens] at whole
    exact closingFrom_cut areDelimiters_parentheses.unfed w (b :: u) whole
      (Nat.lt_succ_of_le inside)
  · next noCall =>
    rw [if_neg noCall] at whole
    split
    · next opens =>
      rw [if_pos opens] at whole
      exact closingFrom_cut areDelimiters_brackets.unfed w (b :: u) whole
        (Nat.lt_succ_of_le inside)
    · next noIndex =>
      rw [if_neg noIndex] at whole
      split at whole
      · next member =>
        rw [Bool.and_eq_true] at member
        cases whole
        rcases identifier_cut_of_le member.2 inside with ⟨starts, same⟩
        rw [member.1, starts, same]
        rfl
      · next noMember =>
        have noMember : ¬ (b == '.'.toUInt8 && startsWithByte isIdentifierStart u) = true := by
          rw [Bool.and_eq_true] at noMember ⊢
          exact fun both => noMember ⟨both.1, startsWithByte_append both.2 w⟩
        rw [if_neg noMember]
        split at whole
        · next conditional =>
          rw [if_pos conditional]
          split at whole
          · next dotted =>
            rw [Bool.and_eq_true] at dotted
            cases whole
            cases u with
            | nil =>
              rw [List.length_nil] at inside
              omega
            | cons c u =>
              have bound : identifier (u ++ w) ≤ u.length := by
                change 1 + identifier (u ++ w) ≤ u.length + 1 at inside
                omega
              rcases identifier_cut_of_le dotted.2 bound with ⟨starts, same⟩
              change (if (some c == some '.'.toUInt8 && startsWithByte isIdentifierStart u) = true
                then some (1 + identifier u) else none) = some (1 + identifier (u ++ w))
              rw [starts, same, if_pos]
              rw [Bool.and_true]
              exact dotted.1
          · cases whole
        · cases whole

/-- The cut uncovers the end of a call or of an indexer. -/
def UncoversEnd (u w : Text) : Prop := Uncovers ')'.toUInt8 u w ∨ Uncovers ']'.toUInt8 u w

theorem UncoversEnd.behind {u w : Text} (uncovers : UncoversEnd u w) (t : Text) :
    UncoversEnd (t ++ u) w :=
  uncovers.imp (Uncovers.behind · t) (Uncovers.behind · t)

/-- Where accesses end, they end when the rest is cut off, unless that uncovers their end; then they
take all of the front. -/
theorem accessMove_cut_of_none {forgiving : Bool} {b : UInt8} {u w : Text}
    (whole : accessMove forgiving b (u ++ w) = none) :
    accessMove forgiving b u = none
      ∨ accessMove forgiving b u = some u.length ∧ UncoversEnd (b :: u) w := by
  have delimited {opening closing : UInt8} (apart : AreDelimiters opening closing)
      (unclosed : closing? opening closing (b :: (u ++ w)) = none) :
      closing? opening closing (b :: u) = none
        ∨ closing? opening closing (b :: u) = some u.length ∧ Uncovers closing (b :: u) w := by
    cases front : closing? opening closing (b :: u) with
    | none => exact .inl rfl
    | some k =>
      rcases closingFrom_of_cut apart w (b :: u) front with closed | ⟨last, uncovers⟩
      · rw [closing?, ← List.cons_append, closed] at unclosed
        cases unclosed
      · exact .inr ⟨congrArg some (Nat.succ.inj last), uncovers⟩
  rw [accessMove] at whole ⊢
  split
  · next opens =>
    rw [if_pos opens] at whole
    exact (delimited areDelimiters_parentheses whole).imp id (And.imp id .inl)
  · next noCall =>
    rw [if_neg noCall] at whole
    split
    · next opens =>
      rw [if_pos opens] at whole
      exact (delimited areDelimiters_brackets whole).imp id (And.imp id .inr)
    · next noIndex =>
      rw [if_neg noIndex] at whole
      split at whole
      · cases whole
      · next noMember =>
        have noMember : ¬ (b == '.'.toUInt8 && startsWithByte isIdentifierStart u) = true := by
          rw [Bool.and_eq_true] at noMember ⊢
          exact fun both => noMember ⟨both.1, startsWithByte_append both.2 w⟩
        rw [if_neg noMember]
        split at whole
        · next conditional =>
          rw [if_pos conditional]
          split at whole
          · cases whole
          · next undotted =>
            refine .inl (if_neg ?_)
            cases u with
            | nil => exact Bool.false_ne_true
            | cons c u =>
              rw [Bool.and_eq_true] at undotted ⊢
              exact fun both => undotted ⟨both.1, startsWithByte_append both.2 w⟩
        · next plain => exact .inl (if_neg plain)

theorem accessMove_le {forgiving : Bool} {b : UInt8} {t : Text} {skip : Nat}
    (goes : accessMove forgiving b t = some skip) : skip ≤ t.length := by
  rw [accessMove] at goes
  split at goes
  · exact Nat.le_of_lt_succ (closing?_lt_length goes)
  split at goes
  · exact Nat.le_of_lt_succ (closing?_lt_length goes)
  split at goes
  · cases goes
    exact identifier_le_length t
  split at goes
  · split at goes
    · next dotted =>
      cases goes
      cases t with
      | nil => cases dotted
      | cons c t =>
        have bound := identifier_le_length t
        change 1 + identifier t ≤ t.length + 1
        omega
    · cases goes
  · cases goes

/-- Accesses that pass over a whole text take it. -/
theorem accesses_length (forgiving : Bool) (t : Text) : accesses forgiving t.length t = t.length :=
  Nat.le_antisymm ((accesses_addsUp forgiving).le_length t t.length)
    (by simpa only [Nat.min_self] using (accesses_addsUp forgiving).min_skip_le t t.length)

/-- Accesses that stay inside the front are the same when the rest is cut off, unless that uncovers
their end; then they take all of it. -/
theorem accesses_cut (forgiving : Bool) (w : Text) (u : Text) :
    ∀ (skip : Nat), accesses forgiving skip (u ++ w) ≤ u.length →
      accesses forgiving skip u = accesses forgiving skip (u ++ w)
        ∨ accesses forgiving skip u = u.length ∧ UncoversEnd u w := by
  induction u with
  | nil =>
    intro skip inside
    refine .inl ?_
    rw [Nat.le_zero.mp inside]
    cases skip <;> rfl
  | cons b u ih =>
    have behind {skip : Nat} (inside : 1 + accesses forgiving skip (u ++ w) ≤ (b :: u).length) :
        1 + accesses forgiving skip u = 1 + accesses forgiving skip (u ++ w)
          ∨ 1 + accesses forgiving skip u = (b :: u).length ∧ UncoversEnd (b :: u) w := by
      rw [List.length_cons] at inside ⊢
      rcases ih skip (Nat.le_of_add_le_add_left (Nat.add_comm u.length 1 ▸ inside)) with
        same | ⟨all, uncovers⟩
      · exact .inl (congrArg (1 + ·) same)
      · exact .inr ⟨by rw [all, Nat.add_comm], uncovers.behind [b]⟩
    intro skip inside
    cases skip with
    | succ skip =>
      rw [List.cons_append, accesses] at inside ⊢
      exact behind inside
    | zero =>
      rw [List.cons_append, accesses_cons] at inside ⊢
      rw [accesses_cons]
      cases whole : accessMove forgiving b (u ++ w) with
      | some skip =>
        rw [whole] at inside
        have passed := (accesses_addsUp forgiving).min_skip_le (u ++ w) skip
        rw [Nat.min_eq_left (accessMove_le whole)] at passed
        have bound : skip ≤ u.length := by
          change 1 + accesses forgiving skip (u ++ w) ≤ u.length + 1 at inside
          omega
        rw [accessMove_cut whole bound]
        exact behind inside
      | none =>
        rcases accessMove_cut_of_none whole with front | ⟨front, uncovers⟩
        · rw [front]
          exact .inl rfl
        · rw [front]
          dsimp only
          rw [accesses_length, List.length_cons, Nat.add_comm]
          exact .inr ⟨rfl, uncovers⟩

theorem identifier_le_implicitStart (t : Text) : identifier t ≤ implicitStart t := by
  simp only [implicitStart]
  split
  · split
    · split
      · omega
      · exact Nat.le_refl _
    · exact Nat.le_refl _
  · exact Nat.le_refl _

theorem implicitStart_cut {u w : Text} (inside : implicitStart (u ++ w) ≤ u.length) :
    implicitStart u = implicitStart (u ++ w) := by
  have bound := Nat.le_trans (identifier_le_implicitStart (u ++ w)) inside
  have same : identifier u = identifier (u ++ w) :=
    (identifier_cut u w).trans (Nat.min_eq_left bound)
  simp only [implicitStart, same] at inside ⊢
  rw [List.take_append_of_le_length bound, List.drop_append_of_le_length bound] at inside ⊢
  generalize identifier (u ++ w) = n at bound inside ⊢
  split
  · next waits =>
    rw [if_pos waits] at inside
    cases ahead : u.drop n with
    | nil =>
      rw [ahead, List.nil_append] at inside
      rw [List.nil_append]
      have whole : u.length = n := Nat.le_antisymm (List.drop_eq_nil_iff.mp ahead) bound
      cases w with
      | nil => rfl
      | cons b rest =>
        dsimp only at inside ⊢
        split
        · next goes =>
          rw [if_pos goes] at inside
          omega
        · rfl
    | cons b rest =>
      rw [ahead, List.cons_append] at inside
      rw [List.cons_append]
      dsimp only at inside ⊢
      have measured := congrArg List.length ahead
      rw [List.length_drop, List.length_cons] at measured
      by_cases goes : (b == 0x20 && startsWithByte isIdentifierStart (rest ++ w)) = true
      · rw [if_pos goes] at inside ⊢
        rw [Bool.and_eq_true] at goes
        rcases identifier_cut_of_le goes.2 (by omega) with ⟨starts, same⟩
        rw [starts, same, goes.1]
        rfl
      · rw [if_neg goes, if_neg]
        rw [Bool.and_eq_true] at goes ⊢
        exact fun both => goes ⟨both.1, startsWithByte_append both.2 w⟩
  · rfl

/-- An implicit expression that stays inside the front is the same when the rest is cut off, unless
that uncovers the end of a call or of an indexer; then it takes all of the front. -/
theorem implicit_cut {forgiving : Bool} {u w : Text}
    (inside : implicit forgiving (u ++ w) ≤ u.length) :
    implicit forgiving u = implicit forgiving (u ++ w)
      ∨ implicit forgiving u = u.length ∧ UncoversEnd u w := by
  rw [implicit] at inside
  have bound : implicitStart (u ++ w) ≤ u.length := by omega
  rw [implicit, implicit, implicitStart_cut bound]
  rw [List.drop_append_of_le_length bound] at inside ⊢
  have rest := accesses_cut forgiving w (u.drop (implicitStart (u ++ w))) 0
  rw [List.length_drop] at rest
  rcases rest (by omega) with same | ⟨all, uncovers⟩
  · exact .inl (congrArg (implicitStart (u ++ w) + ·) same)
  · have whole := uncovers.behind (u.take (implicitStart (u ++ w)))
    rw [List.take_append_drop] at whole
    exact .inr ⟨by omega, whole⟩

/-! ## Code in the front of a text -/

theorem drop_eq_front_append (s : Text) {i n : Nat} (ordered : i ≤ n) :
    s.drop i = (s.take n).drop i ++ s.drop n := by
  have rest : (s.drop i).drop (n - i) = s.drop n := by
    rw [List.drop_drop, Nat.add_sub_cancel' ordered]
  rw [List.drop_take, ← rest, List.take_append_drop]

theorem length_front_of_drop_ne_nil {s : Text} {n : Nat} (more : s.drop n ≠ []) (i : Nat) :
    ((s.take n).drop i).length = n - i := by
  have inside : n < s.length := Nat.lt_of_not_le fun all => more (List.drop_eq_nil_of_le all)
  rw [List.length_drop, List.length_take, Nat.min_eq_left (Nat.le_of_lt inside)]

/-- What is found at an offset of a text is found when only the first `n` bytes are visible, if it
ends there.  For a delimiter this holds unless an apostrophe opens what a line feed closes.  An
implicit expression can also take all that is visible, but only where the end of a call or of an
indexer is uncovered: in the text, it stands in a character literal, whose closing quote comes
next. -/
theorem found_in_front (s : Text) (i n : Nat) :
    (∀ {opening closing : UInt8}, Unfed opening closing → ∀ {k : Nat},
        closing? opening closing (s.drop i) = some k → i + k < n →
          closing? opening closing ((s.take n).drop i) = some k) ∧
      ∀ {forgiving : Bool}, i + implicit forgiving (s.drop i) ≤ n →
        implicit forgiving ((s.take n).drop i) = implicit forgiving (s.drop i) ∨
          i + implicit forgiving ((s.take n).drop i) = n ∧
            UncoversEnd ((s.take n).drop i) (s.drop n) := by
  constructor
  · intro opening closing unfed k found inside
    have ordered : i ≤ n := by omega
    have within : k < ((s.take n).drop i).length := by
      have bound := closing?_lt_length found
      rw [List.length_drop] at bound ⊢
      rw [List.length_take]
      omega
    rw [drop_eq_front_append s ordered] at found
    exact closingFrom_cut unfed (s.drop n) _ found within
  · intro forgiving inside
    have ordered : i ≤ n := by omega
    have within : implicit forgiving (s.drop i) ≤ ((s.take n).drop i).length := by
      have bound := implicit_le_length forgiving (s.drop i)
      rw [List.length_drop] at bound ⊢
      rw [List.length_take]
      omega
    rw [drop_eq_front_append s ordered] at within ⊢
    rcases implicit_cut within with same | ⟨all, uncovers⟩
    · exact .inl same
    · have more : s.drop n ≠ [] := by
        intro none
        have quote := uncovers.elim Uncovers.quote Uncovers.quote
        rw [none] at quote
        cases quote
      exact .inr ⟨by rw [all, length_front_of_drop_ne_nil more, Nat.add_sub_cancel' ordered],
        uncovers⟩

/-- An attribute value in quotation marks, from offset 9 up to offset 22, in its document. -/
def quotedLink : Text := "<a href='@f(\" @g( '\"')'>x</a>"

/-- The call of `g` ends with the value, and its parenthesis is found there.  The call of `f` is not
closed in the document, where the last parenthesis stands in a character literal; nor is it in a
front that ends before that parenthesis, but in the value it is. -/
theorem found_in_front_of_link :
    closing? '('.toUInt8 ')'.toUInt8 ((quotedLink.take 22).drop 16) = some 5 ∧
      implicit false (quotedLink.drop 10) = 1 ∧
      implicit false ((quotedLink.take 21).drop 10) = implicit false (quotedLink.drop 10) ∧
      10 + implicit false ((quotedLink.take 22).drop 10) = 22 ∧
      UncoversEnd ((quotedLink.take 22).drop 10) (quotedLink.drop 22) := by
  have closed := (found_in_front quotedLink 16 22).1 areDelimiters_parentheses.unfed
    (show closing? _ _ _ = some 5 by decide) (by decide)
  have unclosed := (found_in_front quotedLink 10 21).2 (show _ + implicit false _ ≤ _ by decide)
  have uncovered := (found_in_front quotedLink 10 22).2 (show _ + implicit false _ ≤ _ by decide)
  exact ⟨closed, by decide, unclosed.resolve_right fun all => absurd all.1 (by decide),
    uncovered.resolve_left (by decide)⟩

/-- Without the exceptions this fails: for an apostrophe and a line feed as delimiters, and for the
call of `f` in an attribute value. -/
theorem not_always_found_in_front :
    (¬∀ (s : Text) (i n : Nat) (opening closing : UInt8) (k : Nat), n ≤ s.length →
        closing? opening closing (s.drop i) = some k → i + k < n →
          closing? opening closing ((s.take n).drop i) = some k) ∧
      ¬∀ (s : Text) (i n : Nat) (forgiving : Bool), n ≤ s.length →
        i + implicit forgiving (s.drop i) ≤ n →
          implicit forgiving ((s.take n).drop i) = implicit forgiving (s.drop i) := by
  constructor
  · intro always
    have found := always "'ab'\n'" 0 5 '\''.toUInt8 0x0A 4 (by decide) (by decide) (by decide)
    revert found
    decide
  · intro always
    have same := always quotedLink 10 22 false (by decide) (by decide)
    revert same
    decide

end Scan

end TemplateCompiler
