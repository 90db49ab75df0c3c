import TemplateCompiler.Proofs.ScanBounds
import TemplateCompiler.Syntax.DirectiveLine

/-!
# Where directives end

An at sign between letters or digits is read as one of an address.  Behind a directive this happens
only if the directive ends with a letter or a digit, right before an at sign.  A directive on a line
ends with the line, and one with a block ends with a brace; tokens that cannot be read leave the rest
of the line to the directive.  So the only directives that an address can follow are those whose
block is missing.
-/

namespace TemplateCompiler

namespace Scan

theorem head?_drop_run (p : UInt8 → Bool) (t : Text) {b : UInt8}
    (next : (t.drop (run p t)).head? = some b) : p b = false := by
  induction t with
  | nil => simp at next
  | cons c t ih =>
    cases holds : p c with
    | true =>
      rw [run, List.takeWhile_cons_of_pos holds] at next
      exact ih next
    | false =>
      rw [run, List.takeWhile_cons_of_neg (by simp [holds])] at next
      cases next
      exact holds

theorem isAlphanumeric_of_isSpace {b : UInt8} (blank : isSpace b = true) :
    isAlphanumeric b = false := by
  simp only [isSpace, Bool.or_eq_true, beq_iff_eq] at blank
  rcases blank with (((rfl | rfl) | rfl) | rfl) | rfl <;> rfl

end Scan

/-- Whether an at sign stands at an offset between letters or digits, as in an address. -/
def Text.addressAt (t : Text) : Nat → Bool
  | 0 => false
  | n + 1 =>
    t[n]?.any Scan.isAlphanumeric && t[n + 1]? == some '@'.toUInt8
      && t[n + 2]?.any Scan.isAlphanumeric

theorem Text.addressAt_succ {t : Text} {n : Nat} :
    t.addressAt (n + 1) = true ↔ t[n]?.any Scan.isAlphanumeric = true
      ∧ t[n + 1]? = some '@'.toUInt8 ∧ t[n + 2]?.any Scan.isAlphanumeric = true := by
  simp only [addressAt, Bool.and_eq_true, beq_iff_eq, and_assoc]

/-- Behind the start of a text, only the text decides. -/
theorem Text.addressAt_drop {content t : Text} {start : Nat} (ahead : content.drop start = t)
    (n : Nat) : content.addressAt (start + (n + 1)) = t.addressAt (n + 1) := by
  have bytes (k : Nat) : content[start + k]? = t[k]? := by rw [← ahead, List.getElem?_drop]
  change content.addressAt (start + n + 1) = _
  rw [addressAt, addressAt, bytes n, Nat.add_assoc, bytes (n + 1), Nat.add_assoc, bytes (n + 2)]

/-- No at sign stands behind the end of a text. -/
theorem Text.addressAt_length (t : Text) {stop : Nat} (behind : t.length ≤ stop) :
    t.addressAt stop = false := by
  cases stop with
  | zero => rfl
  | succ n =>
    apply Bool.eq_false_iff.mpr
    intro address
    have sign := (addressAt_succ.mp address).2.1
    rw [List.getElem?_eq_none behind] at sign
    cases sign

/-- The text behind the start of an address. -/
theorem Text.drop_of_addressAt {t : Text} {offset : Nat} (address : t.addressAt offset = true) :
    ∃ c rest, t.drop offset = '@'.toUInt8 :: c :: rest ∧ Scan.isAlphanumeric c = true := by
  cases offset with
  | zero => cases address
  | succ n =>
    rcases addressAt_succ.mp address with ⟨-, sign, next⟩
    cases behind : t[n + 2]? with
    | none =>
      rw [behind] at next
      cases next
    | some c =>
      rw [behind] at next
      rcases List.getElem?_eq_some_iff.mp sign with ⟨inside, here⟩
      rcases List.getElem?_eq_some_iff.mp behind with ⟨inside', there⟩
      refine ⟨c, t.drop (n + 3), ?_, next⟩
      rw [List.drop_eq_getElem_cons inside, List.drop_eq_getElem_cons inside', here, there]

/-- What was found stands at the offset at which it was found. -/
theorem Text.getElem?_of_indexOf? {p t : Text} :
    ∀ {k : Nat}, Text.indexOf? p t = some k → ∀ i, i < p.length → t[k + i]? = p[i]? := by
  induction t with
  | nil =>
    intro k found i inside
    rw [Text.indexOf?] at found
    split at found
    · next nothing =>
      rw [List.isEmpty_iff.mp nothing] at inside
      cases inside
    · cases found
  | cons b t ih =>
    intro k found i inside
    rw [Text.indexOf?] at found
    split at found
    · next starts =>
      cases found
      rcases List.isPrefixOf_iff_prefix.mp starts with ⟨rest, same⟩
      rw [Nat.zero_add, ← same, List.getElem?_append_left inside]
    · rcases Option.map_eq_some_iff.mp found with ⟨j, foundBehind, rfl⟩
      rw [Nat.add_right_comm, List.getElem?_cons_succ]
      exact ih foundBehind i inside

namespace Syntax.Reading

/-- A line does not end before an at sign. -/
theorem head?_drop_line (t : Text) : (t.drop (Scan.line t)).head? ≠ some '@'.toUInt8 := by
  intro sign
  cases Scan.head?_drop_run _ t sign

/-- Tokens that cannot be read leave off at the end of the line or at a brace. -/
theorem head?_drop_tokens (r : Reading) (d : DirectiveDescriptor) (slots : List DirectiveSlot) :
    ∀ (offset : Nat) (t : Text), (r.tokens d slots offset t).isComplete = false →
      (t.drop (r.tokens d slots offset t).length).head? ≠ some '@'.toUInt8 := by
  induction slots with
  | nil =>
    intro offset t incomplete
    cases incomplete
  | cons slot slots ih =>
    intro offset t
    unfold tokens
    dsimp only
    split
    · next ended =>
      split
      · intro incomplete
        cases incomplete
      · intro _ sign
        dsimp only at sign
        generalize t.drop (Scan.run Scan.isHorizontalSpace t) = rest at ended sign
        cases rest with
        | nil => cases sign
        | cons b rest =>
          cases sign
          simp only [atTokenEnd, Bool.or_eq_true, Bool.and_eq_true, beq_iff_eq] at ended
          rcases ended with feed | ⟨-, brace⟩
          · exact absurd feed (by decide)
          · exact absurd brace (by decide)
    split
    · intro _
      dsimp only
      rw [← List.drop_drop]
      exact head?_drop_line _
    · intro incomplete
      dsimp only at incomplete ⊢
      rw [Nat.add_assoc, ← List.drop_drop, ← List.drop_drop]
      exact ih _ _ incomplete

/-- What is left on a line does not end before an at sign. -/
theorem head?_drop_trailing (t : Text) :
    (t.drop (if Scan.startsWithByte (fun b => b != 0x0A && b != 0x0D) t then Scan.line t
      else 0)).head? ≠ some '@'.toUInt8 := by
  split
  · exact head?_drop_line t
  · next ended =>
    intro sign
    cases t with
    | nil => cases sign
    | cons b t =>
      cases sign
      exact ended rfl

/-- A directive on a line that ends before an at sign ends with the line. -/
theorem getElem?_lineEnding (r : Reading) (keyword : Text) (offset : Nat) (t : Text)
    (sign : t[(r.lineEnding keyword offset t).1]? = some '@'.toUInt8) :
    ∃ k, (r.lineEnding keyword offset t).1 = k + 1 ∧ t[k]? = some 0x0A := by
  rw [← List.head?_drop] at sign
  unfold lineEnding at sign ⊢
  dsimp only at sign ⊢
  generalize (if (t.drop (Scan.run Scan.isHorizontalSpace t)).head? == some ';'.toUInt8 then _
    else _ : Nat) = gap at sign ⊢
  have trailing := head?_drop_trailing (t.drop gap)
  rw [List.drop_drop] at trailing
  generalize (if Scan.startsWithByte _ (t.drop gap) then _ else _ : Nat) = length
    at sign trailing ⊢
  split at sign
  · next feed =>
    rw [if_pos feed]
    refine ⟨_, rfl, ?_⟩
    rw [← List.head?_drop]
    exact beq_iff_eq.mp feed
  · exact absurd sign trailing

/-- A directive that ends before an at sign ends with no letter or digit, or its block is missing. -/
theorem directiveBody_apart {r : Reading} {d : DirectiveDescriptor} {offset n : Nat} {t code : Text}
    {found : List Diagnostic} (done : r.directiveBody d offset t = .done n code found)
    (sign : t[n]? = some '@'.toUInt8) :
    (∃ k b, n = k + 1 ∧ t[k]? = some b ∧ Scan.isAlphanumeric b = false)
      ∨ (found.any fun f => f.code == .missingBlock) = true := by
  unfold directiveBody at done
  split at done
  · cases done
    rcases getElem?_lineEnding r d.keyword offset t sign with ⟨k, ends, feed⟩
    exact Or.inl ⟨k, _, ends, feed, rfl⟩
  dsimp only at done
  split at done
  · cases done
    exact Or.inr rfl
  split at done
  · cases done
  split at done
  · next k closed =>
    cases done
    have brace := Scan.getElem?_of_closingFrom closed
    rw [List.getElem?_drop] at brace
    exact Or.inl ⟨_, _, rfl, brace, rfl⟩
  · cases done
    rw [List.getElem?_eq_none (Nat.le_refl _)] at sign
    cases sign

end Syntax.Reading

end TemplateCompiler
