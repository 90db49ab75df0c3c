import TemplateCompiler.Source.File

/-!
# Normalizing content again

Normalizing takes one byte order mark off and drops each carriage return before a line feed, both
once.  So a second mark stays, and of two carriage returns before a line feed the first one stays
before it.  `normalize_settles_iff` says that these are the only contents whose normal form has a
mark or a pair left, and the only ones that normalizing again changes.

Of composing it is assumed that the text at hand has to be composed only once, and that it neither
makes nor removes marks and pairs.  This is true of every text that is its own composed form, so of
texts of characters that neither decompose nor count as marks (`compose_of_inert`), with any
ill-formed bytes among them.  For these it has to be shown that a text is written back as it was
read.
-/

namespace TemplateCompiler

namespace Text

/-! ## Characters and their bytes -/

theorem toNat_ofNat_of_valid {n : Nat} (valid : n.isValidChar) : (Char.ofNat n).val.toNat = n := by
  rw [Char.ofNat, dif_pos valid]
  rfl

theorem ofNat_eq_of_toNat {n : Nat} {b : UInt8} (same : n = b.toNat) : UInt8.ofNat n = b := by
  rw [same, UInt8.ofNat_toNat]

theorem ofChar_ofTwo {b c : UInt8} (lead : 0xC2 ≤ b.toNat ∧ b.toNat ≤ 0xDF)
    (next : 0x80 ≤ c.toNat ∧ c.toNat ≤ 0xBF) :
    ofChar (Glyph.ofTwo b c).char = [b, c] := by
  have value := toNat_ofNat_of_valid
    (.inl (by omega) : (b.toNat % 32 * 64 + c.toNat % 64).isValidChar)
  unfold ofChar Glyph.ofTwo String.utf8EncodeChar
  dsimp only
  rw [value, if_neg (by omega), if_pos (by omega), ofNat_eq_of_toNat (b := b) (by omega),
    ofNat_eq_of_toNat (b := c) (by omega)]

theorem ofChar_ofThree {b c d : UInt8} (lead : 0xE0 ≤ b.toNat ∧ b.toNat ≤ 0xEF)
    (next : 0x80 ≤ c.toNat ∧ c.toNat ≤ 0xBF) (last : 0x80 ≤ d.toNat ∧ d.toNat ≤ 0xBF)
    (long : b.toNat = 0xE0 → 0xA0 ≤ c.toNat) (single : b.toNat = 0xED → c.toNat ≤ 0x9F) :
    ofChar (Glyph.ofThree b c d).char = [b, c, d] := by
  have value := toNat_ofNat_of_valid
    (by unfold Nat.isValidChar; omega :
      (b.toNat % 16 * 4096 + c.toNat % 64 * 64 + d.toNat % 64).isValidChar)
  unfold ofChar Glyph.ofThree String.utf8EncodeChar
  dsimp only
  rw [value, if_neg (by omega), if_neg (by omega), if_pos (by omega),
    ofNat_eq_of_toNat (b := b) (by omega), ofNat_eq_of_toNat (b := c) (by omega),
    ofNat_eq_of_toNat (b := d) (by omega)]

theorem ofChar_ofFour {b c d e : UInt8} (lead : 0xF0 ≤ b.toNat ∧ b.toNat ≤ 0xF4)
    (next : 0x80 ≤ c.toNat ∧ c.toNat ≤ 0xBF) (third : 0x80 ≤ d.toNat ∧ d.toNat ≤ 0xBF)
    (last : 0x80 ≤ e.toNat ∧ e.toNat ≤ 0xBF)
    (long : b.toNat = 0xF0 → 0x90 ≤ c.toNat) (small : b.toNat = 0xF4 → c.toNat ≤ 0x8F) :
    ofChar (Glyph.ofFour b c d e).char = [b, c, d, e] := by
  have value := toNat_ofNat_of_valid
    (by unfold Nat.isValidChar; omega :
      (b.toNat % 8 * 262144 + c.toNat % 64 * 4096 + d.toNat % 64 * 64 + e.toNat % 64).isValidChar)
  unfold ofChar Glyph.ofFour String.utf8EncodeChar
  dsimp only
  rw [value, if_neg (by omega), if_neg (by omega), if_neg (by omega),
    ofNat_eq_of_toNat (b := b) (by omega), ofNat_eq_of_toNat (b := c) (by omega),
    ofNat_eq_of_toNat (b := d) (by omega), ofNat_eq_of_toNat (b := e) (by omega)]

/-- The bytes that may follow a leading byte are continuation bytes, and fewer of them where the
character would be too small, too large or a surrogate. -/
theorem bounds_leadingByte? {b low high : UInt8} {count : Nat}
    (leads : leadingByte? b = some (count, low, high)) :
    0x80 ≤ low.toNat ∧ high.toNat ≤ 0xBF
      ∧ (count = 2 → 0xC2 ≤ b.toNat ∧ b.toNat ≤ 0xDF)
      ∧ (count = 3 → (0xE0 ≤ b.toNat ∧ b.toNat ≤ 0xEF) ∧ (b.toNat = 0xE0 → 0xA0 ≤ low.toNat)
        ∧ (b.toNat = 0xED → high.toNat ≤ 0x9F))
      ∧ (count = 4 → (0xF0 ≤ b.toNat ∧ b.toNat ≤ 0xF4) ∧ (b.toNat = 0xF0 → 0x90 ≤ low.toNat)
        ∧ (b.toNat = 0xF4 → high.toNat ≤ 0x8F)) := by
  have every : ∀ n : Fin 256, ∀ r ∈ leadingByte? (UInt8.ofNat n),
      0x80 ≤ r.2.1.toNat ∧ r.2.2.toNat ≤ 0xBF
        ∧ (r.1 = 2 → 0xC2 ≤ n.val ∧ n.val ≤ 0xDF)
        ∧ (r.1 = 3 → (0xE0 ≤ n.val ∧ n.val ≤ 0xEF) ∧ (n.val = 0xE0 → 0xA0 ≤ r.2.1.toNat)
          ∧ (n.val = 0xED → r.2.2.toNat ≤ 0x9F))
        ∧ (r.1 = 4 → (0xF0 ≤ n.val ∧ n.val ≤ 0xF4) ∧ (n.val = 0xF0 → 0x90 ≤ r.2.1.toNat)
          ∧ (n.val = 0xF4 → r.2.2.toNat ≤ 0x8F)) := by
    decide +kernel
  refine every b.toFin (count, low, high) ?_
  change leadingByte? (UInt8.ofNat b.toNat) = _
  rw [UInt8.ofNat_toNat, leads]

theorem isContinuation_iff (b : UInt8) :
    isContinuation b = true ↔ 0x80 ≤ b.toNat ∧ b.toNat ≤ 0xBF := by
  unfold isContinuation
  rw [Bool.and_eq_true, decide_eq_true_iff, decide_eq_true_iff]
  rfl

theorem ofByte_illFormed_or (b : UInt8) :
    (Glyph.ofByte b).illFormed = true ∨ ofChar (Glyph.ofByte b).char = (Glyph.ofByte b).bytes := by
  unfold Glyph.ofByte
  split
  · next ascii =>
    right
    have small : b.toNat < 0x80 := UInt8.lt_iff_toNat_lt.mp ascii
    have value := toNat_ofNat_of_valid (.inl (by omega) : b.toNat.isValidChar)
    unfold ofChar String.utf8EncodeChar
    dsimp only
    rw [value, if_pos (by omega), UInt8.ofNat_toNat]
  · left
    rfl

/-- A glyph stands for an ill-formed byte, or its character is written as it was read. -/
theorem ofChar_char_glyphAt (b : UInt8) (rest : Text) :
    (glyphAt b rest).illFormed = true
      ∨ ofChar (glyphAt b rest).char = (glyphAt b rest).bytes := by
  unfold glyphAt
  split
  · next low high c _ leads =>
    rcases bounds_leadingByte? leads with ⟨least, greatest, two, -, -⟩
    split
    · next within =>
      rw [Bool.and_eq_true, decide_eq_true_iff, decide_eq_true_iff, UInt8.le_iff_toNat_le,
        UInt8.le_iff_toNat_le] at within
      exact .inr (ofChar_ofTwo (two rfl) ⟨by omega, by omega⟩)
    · exact ofByte_illFormed_or b
  · next low high c d _ leads =>
    rcases bounds_leadingByte? leads with ⟨least, greatest, -, three, -⟩
    rcases three rfl with ⟨lead, long, single⟩
    split
    · next within =>
      rw [Bool.and_eq_true, Bool.and_eq_true, decide_eq_true_iff, decide_eq_true_iff,
        isContinuation_iff, UInt8.le_iff_toNat_le, UInt8.le_iff_toNat_le] at within
      rcases within with ⟨⟨above, below⟩, last⟩
      exact .inr (ofChar_ofThree lead ⟨by omega, by omega⟩ last (by omega) (by omega))
    · exact ofByte_illFormed_or b
  · next low high c d e _ leads =>
    rcases bounds_leadingByte? leads with ⟨least, greatest, -, -, four⟩
    rcases four rfl with ⟨lead, long, small⟩
    split
    · next within =>
      rw [Bool.and_eq_true, Bool.and_eq_true, Bool.and_eq_true, decide_eq_true_iff,
        decide_eq_true_iff, isContinuation_iff, isContinuation_iff, UInt8.le_iff_toNat_le,
        UInt8.le_iff_toNat_le] at within
      rcases within with ⟨⟨⟨above, below⟩, third⟩, last⟩
      exact .inr (ofChar_ofFour lead ⟨by omega, by omega⟩ third last (by omega) (by omega))
    · exact ofByte_illFormed_or b
  · exact ofByte_illFormed_or b

/-- A glyph holds the bytes it was read from. -/
theorem bytes_glyphAt_append (b : UInt8) (rest : Text) :
    (glyphAt b rest).bytes ++ rest.drop ((glyphAt b rest).bytes.length - 1) = b :: rest := by
  have single : (Glyph.ofByte b).bytes ++ rest.drop ((Glyph.ofByte b).bytes.length - 1)
      = b :: rest := by
    unfold Glyph.ofByte
    split <;> rfl
  unfold glyphAt
  split
  · split
    · rfl
    · exact single
  · split
    · rfl
    · exact single
  · split
    · rfl
    · exact single
  · exact single

theorem flatMap_bytes_glyphsFrom (t : Text) :
    ∀ skip, (glyphsFrom skip t).flatMap Glyph.bytes = t.drop skip := by
  induction t with
  | nil => intro skip; cases skip <;> rfl
  | cons b t ih =>
    intro skip
    cases skip with
    | zero =>
      change (glyphAt b t).bytes ++ (glyphsFrom _ t).flatMap Glyph.bytes = b :: t
      rw [ih, bytes_glyphAt_append]
    | succ skip => exact ih skip

theorem flatMap_bytes_glyphs (t : Text) : t.glyphs.flatMap Glyph.bytes = t :=
  flatMap_bytes_glyphsFrom t 0

theorem illFormed_or_written {t : Text} : ∀ skip, ∀ g ∈ glyphsFrom skip t,
    g.illFormed = true ∨ ofChar g.char = g.bytes := by
  induction t with
  | nil => intro skip g h; cases skip <;> cases h
  | cons b t ih =>
    intro skip
    cases skip with
    | zero => exact List.forall_mem_cons.mpr ⟨ofChar_char_glyphAt b t, ih _⟩
    | succ skip => exact ih skip

/-! ## Characters that composing leaves alone -/

/-- A character that composing leaves alone wherever it stands: it does not decompose and is joined
with no other. -/
structure Inert (c : Char) : Prop where
  unmarked : isMark c = false
  whole : decomposeChar c = [c]

theorem Inert.combiningClass {c : Char} (inert : Inert c) : combiningClass c = 0 := by
  have unmarked := inert.unmarked
  unfold isMark at unmarked
  exact bne_eq_false_iff_eq.mp (Bool.or_eq_false_iff.mp unmarked).1

/-- No character before the first capital letter with an accent decomposes or is a mark. -/
theorem Inert.of_small {c : Char} (small : c.toNat < 0xC0) : Inert c := by
  constructor
  · have base : Text.combiningClass c = 0 := if_pos (by omega)
    rw [isMark, base, decide_eq_false (by omega)]
    rfl
  · have once : decomposeOnce c.toNat = [c.toNat] := if_pos small
    unfold decomposeChar decomposeFully
    rw [once]
    dsimp only
    rw [if_pos (beq_self_eq_true c.toNat)]
    exact congrArg ([·]) (Char.ofNat_toNat c)

theorem decomposeChars_of_inert {cs : List Char} (inert : ∀ c ∈ cs, Inert c) :
    ∀ count, decomposeChars count cs = cs := by
  induction cs with
  | nil => exact fun _ => rfl
  | cons c cs ih =>
    rcases List.forall_mem_cons.mp inert with ⟨first, rest⟩
    intro count
    unfold decomposeChars
    dsimp only
    rw [first.whole, ih rest]
    have none : leadingMarks [c] = 0 := by
      rw [leadingMarks, List.takeWhile_cons_of_neg (by simp [first.unmarked])]
      rfl
    rw [none]
    rfl

theorem orderRuns_of_inert {cs : List Char} (inert : ∀ c ∈ cs, Inert c) :
    orderRuns [] cs = cs := by
  induction cs with
  | nil => rfl
  | cons c cs ih =>
    rcases List.forall_mem_cons.mp inert with ⟨first, rest⟩
    rw [orderRuns, first.combiningClass]
    exact congrArg (c :: ·) (ih rest)

theorem joinMarks_of_inert {cs : List Char} (inert : ∀ c ∈ cs, Inert c) :
    ∀ base, joinMarks base [] 0 cs = base.toList ++ cs := by
  induction cs with
  | nil => exact fun base => rfl
  | cons c cs ih =>
    rcases List.forall_mem_cons.mp inert with ⟨first, rest⟩
    intro base
    unfold joinMarks
    dsimp only
    rw [first.combiningClass, first.unmarked]
    cases base with
    | none => exact ih rest (some c)
    | some b => exact congrArg (b :: ·) (ih rest (some c))

theorem composeChars_of_inert {cs : List Char} (inert : ∀ c ∈ cs, Inert c) :
    composeChars cs = cs := by
  rw [composeChars, decomposeChars_of_inert inert, orderRuns_of_inert inert,
    joinMarks_of_inert inert]
  rfl

theorem composeGlyphs_of_inert {gs : List Glyph}
    (written : ∀ g ∈ gs, g.illFormed = true ∨ ofChar g.char = g.bytes)
    (inert : ∀ g ∈ gs, g.illFormed = true ∨ Inert g.char) :
    ∀ run : List Char, (∀ c ∈ run, Inert c) →
      composeGlyphs run gs = ofChars run.reverse ++ gs.flatMap Glyph.bytes := by
  induction gs with
  | nil =>
    intro run plain
    have apart : ∀ c ∈ run.reverse, Inert c := fun c h => plain c (List.mem_reverse.mp h)
    rw [composeGlyphs, composeChars_of_inert apart, List.flatMap_nil, List.append_nil]
  | cons g gs ih =>
    intro run plain
    have apart : ∀ c ∈ run.reverse, Inert c := fun c h => plain c (List.mem_reverse.mp h)
    rcases List.forall_mem_cons.mp written with ⟨here, behind⟩
    rcases List.forall_mem_cons.mp inert with ⟨first, rest⟩
    unfold composeGlyphs
    rw [composeChars_of_inert apart]
    split
    · rfl
    · split
      · rw [ih behind rest [] (by simp)]
        simp [ofChars]
      · next formed =>
        have kept := here.resolve_left formed
        have inertHere := first.resolve_left formed
        rw [ih behind rest (g.char :: run) (List.forall_mem_cons.mpr ⟨inertHere, plain⟩)]
        simp [ofChars, kept]

theorem compose_of_inert {t : Text} (inert : ∀ g ∈ t.glyphs, g.illFormed = true ∨ Inert g.char) :
    t.compose = t := by
  unfold compose
  split
  · rfl
  · refine (composeGlyphs_of_inert (illFormed_or_written 0) inert [] (by simp)).trans ?_
    exact flatMap_bytes_glyphs t

end Text

namespace Normalization

def pair : Text := [0x0D, 0x0A]

def doubledPair : Text := [0x0D, 0x0D, 0x0A]

/-! ## Line ends -/

theorem foldLineEnds_pair (t : Text) :
    foldLineEnds (0x0D :: 0x0A :: t) = 0x0A :: foldLineEnds t := rfl

theorem foldLineEnds_cons {b : UInt8} {t : Text} (apart : ¬ (b = 0x0D ∧ t.head? = some 0x0A)) :
    foldLineEnds (b :: t) = b :: foldLineEnds t := by
  rw [foldLineEnds, if_neg]
  change ¬ (b == 0x0D && t.head? == some 0x0A) = true
  simpa using apart

/-- At the front of a text stands a pair that is folded, or a byte that is kept. -/
theorem pair_or_apart (b : UInt8) (t : Text) :
    (∃ rest, b = 0x0D ∧ t = 0x0A :: rest) ∨ ¬ (b = 0x0D ∧ t.head? = some 0x0A) := by
  by_cases folds : b = 0x0D ∧ t.head? = some 0x0A
  · rcases folds with ⟨rfl, feed⟩
    rcases List.head?_eq_some_iff.mp feed with ⟨rest, rfl⟩
    exact .inl ⟨rest, rfl, rfl⟩
  · exact .inr folds

/-- Folding keeps a text in front that has no line ends in it. -/
theorem prefix_foldLineEnds {front : Text} (plain : ∀ b ∈ front, b ≠ 0x0D ∧ b ≠ 0x0A) :
    ∀ t : Text, front <+: foldLineEnds t ↔ front <+: t := by
  induction front with
  | nil => simp
  | cons a front ih =>
    rcases List.forall_mem_cons.mp plain with ⟨first, rest⟩
    intro t
    cases t with
    | nil => rfl
    | cons b t =>
      rcases pair_or_apart b t with ⟨behind, rfl, rfl⟩ | apart
      · rw [foldLineEnds_pair, List.cons_prefix_cons, List.cons_prefix_cons]
        exact iff_of_false (fun same => first.2 same.1) (fun same => first.1 same.1)
      · rw [foldLineEnds_cons apart, List.cons_prefix_cons, List.cons_prefix_cons, ih rest]

/-- A line feed comes to the front from there or from behind a carriage return. -/
theorem head?_foldLineEnds (t : Text) :
    (foldLineEnds t).head? = some 0x0A ↔ t.head? = some 0x0A ∨ pair <+: t := by
  cases t with
  | nil => simp [foldLineEnds, pair]
  | cons b t =>
    rcases pair_or_apart b t with ⟨rest, rfl, rfl⟩ | apart
    · simp [foldLineEnds_pair, pair]
    · rw [foldLineEnds_cons apart]
      refine (or_iff_left ?_).symm
      intro front
      rcases front with ⟨rest, same⟩
      cases same
      exact apart ⟨rfl, rfl⟩

/-- A pair is left where two carriage returns stood before a line feed. -/
theorem pair_infix_foldLineEnds (t : Text) : pair <:+: foldLineEnds t ↔ doubledPair <:+: t := by
  induction t with
  | nil => simp [foldLineEnds, pair, doubledPair]
  | cons b t ih =>
    rcases pair_or_apart b t with ⟨rest, rfl, rfl⟩ | apart
    · have other : ¬ doubledPair <+: 0x0D :: 0x0A :: rest := by
        rintro ⟨_, same⟩
        cases same
      rw [List.infix_cons_iff, or_iff_right other, ← ih]
      rfl
    · have here : pair <+: b :: foldLineEnds t ↔ doubledPair <+: b :: t := by
        have feed : [0x0A] <+: foldLineEnds t ↔ t.head? = some 0x0A ∨ pair <+: t := by
          rw [← head?_foldLineEnds]
          cases foldLineEnds t <;> simp [eq_comm]
        rw [pair, doubledPair, List.cons_prefix_cons, List.cons_prefix_cons, feed]
        constructor
        · rintro ⟨rfl, front | front⟩
          · exact absurd ⟨rfl, front⟩ apart
          · exact ⟨rfl, front⟩
        · rintro ⟨rfl, front⟩
          exact ⟨rfl, .inr front⟩
      rw [foldLineEnds_cons apart, List.infix_cons_iff, List.infix_cons_iff, here, ih]

/-- Folding changes a text exactly if there is a pair in it. -/
theorem foldLineEnds_eq_self_iff (t : Text) : foldLineEnds t = t ↔ ¬ pair <:+: t := by
  induction t with
  | nil => simp [foldLineEnds, pair]
  | cons b t ih =>
    rcases pair_or_apart b t with ⟨rest, rfl, rfl⟩ | apart
    · refine iff_of_false ?_ (not_not_intro ⟨[], rest, rfl⟩)
      rw [foldLineEnds_pair]
      nofun
    · have other : ¬ pair <+: b :: t := by
        rintro ⟨_, same⟩
        cases same
        exact apart ⟨rfl, rfl⟩
      rw [foldLineEnds_cons apart, List.infix_cons_iff, or_iff_right other, ← ih]
      exact List.cons_eq_cons.trans (and_iff_right rfl)

theorem foldLineEnds_sublist (t : Text) : (foldLineEnds t).Sublist t := by
  induction t with
  | nil => exact .slnil
  | cons b t ih =>
    unfold foldLineEnds
    split
    · exact ih.cons b
    · exact ih.cons_cons b

/-! ## Marks -/

theorem dropStart_of_unmarked {content : Text}
    (unmarked : content.startsWith byteOrderMark = false) :
    content.dropStart byteOrderMark = content := by
  unfold Text.dropStart Text.stripStart?
  rw [unmarked]
  rfl

theorem dropStart_of_marked (rest : Text) :
    Text.dropStart (byteOrderMark ++ rest) byteOrderMark = rest := rfl

/-- A content has a mark in front or not. -/
theorem marked_or_unmarked (content : Text) :
    (∃ rest, content = byteOrderMark ++ rest) ∨ content.startsWith byteOrderMark = false := by
  cases marked : content.startsWith byteOrderMark with
  | false => exact .inr rfl
  | true =>
    rcases List.isPrefixOf_iff_prefix.mp marked with ⟨rest, same⟩
    exact .inl ⟨rest, same.symm⟩

theorem byteOrderMark_plain : ∀ b ∈ byteOrderMark, b ≠ 0x0D ∧ b ≠ 0x0A := by
  simp [byteOrderMark]

/-- Behind a mark that was dropped there is another one if there were two. -/
theorem startsWith_dropStart (content : Text) :
    (content.dropStart byteOrderMark).startsWith byteOrderMark
      = content.startsWith (byteOrderMark ++ byteOrderMark) := by
  rcases marked_or_unmarked content with ⟨rest, rfl⟩ | unmarked
  · rw [dropStart_of_marked]
    rfl
  · rw [dropStart_of_unmarked unmarked, unmarked]
    apply Eq.symm
    apply Bool.eq_false_iff.mpr
    intro twice
    have once : byteOrderMark <+: content :=
      (List.prefix_append _ _).trans (List.isPrefixOf_iff_prefix.mp twice)
    rw [Text.startsWith, List.isPrefixOf_iff_prefix.mpr once] at unmarked
    cases unmarked

theorem doubledPair_infix_dropStart (content : Text) :
    doubledPair <:+: content.dropStart byteOrderMark ↔ doubledPair <:+: content := by
  rcases marked_or_unmarked content with ⟨rest, rfl⟩ | unmarked
  · rw [dropStart_of_marked]
    have other (a : UInt8) (t : Text) (kept : a ≠ 0x0D) :
        doubledPair <:+: a :: t ↔ doubledPair <:+: t := by
      rw [List.infix_cons_iff, doubledPair, List.cons_prefix_cons]
      exact or_iff_right fun front => kept front.1.symm
    change _ ↔ doubledPair <:+: 0xEF :: 0xBB :: 0xBF :: rest
    rw [other _ _ (by decide), other _ _ (by decide), other _ _ (by decide)]
  · rw [dropStart_of_unmarked unmarked]

/-! ## Composed characters -/

/-- A text has to be composed only once, and composing it neither makes nor removes a mark in front
and pairs. -/
structure ComposesCleanly (t : Text) : Prop where
  once : t.compose.compose = t.compose
  mark : t.compose.startsWith byteOrderMark = t.startsWith byteOrderMark
  pairs : pair <:+: t.compose ↔ pair <:+: t

theorem ComposesCleanly.of_composed {t : Text} (same : t.compose = t) : ComposesCleanly t := by
  refine ⟨?_, ?_, ?_⟩
  · rw [same, same]
  · rw [same]
  · rw [same]

theorem ComposesCleanly.of_ascii {t : Text} (ascii : t.all (· < 0x80) = true) :
    ComposesCleanly t :=
  .of_composed (if_pos ascii)

theorem ComposesCleanly.of_inert {t : Text}
    (inert : ∀ g ∈ t.glyphs, g.illFormed = true ∨ Text.Inert g.char) : ComposesCleanly t :=
  .of_composed (Text.compose_of_inert inert)

/-! ## Normalizing -/

/-- Normalizing once is enough for a content without a second mark behind the first and without a
doubled carriage return before a line feed. -/
structure OnceEnough (content : Text) : Prop where
  mark : content.startsWith (byteOrderMark ++ byteOrderMark) = false
  pairs : ¬ doubledPair <:+: content

/-- The changes of normalizing are none exactly if each of them is. -/
theorem changes_eq_none_iff : ∀ marked folded composed : Bool,
    (FileFlags.when marked .hadByteOrderMark).union
        ((FileFlags.when folded .foldedLineEnds).union (FileFlags.when composed .composed)) = .none
      ↔ marked = false ∧ folded = false ∧ composed = false := by
  decide

/-- Nothing has to be changed exactly if there is no mark, no pair and nothing to compose. -/
theorem normalize_eq_self_iff (t : Text) : normalize t = (t, .none) ↔
    t.startsWith byteOrderMark = false ∧ ¬ pair <:+: t ∧ t.compose = t := by
  constructor
  · intro same
    have changes := congrArg Prod.snd same
    unfold normalize at changes
    rcases (changes_eq_none_iff _ _ _).mp changes with ⟨unmarked, length, composed⟩
    rw [dropStart_of_unmarked unmarked, bne_eq_false_iff_eq] at length
    have unfolded := (foldLineEnds_sublist t).eq_of_length length
    rw [dropStart_of_unmarked unmarked, unfolded, bne_eq_false_iff_eq] at composed
    exact ⟨unmarked, (foldLineEnds_eq_self_iff t).mp unfolded, composed⟩
  · rintro ⟨unmarked, unpaired, composed⟩
    have unfolded := (foldLineEnds_eq_self_iff t).mpr unpaired
    unfold normalize
    dsimp only
    rw [dropStart_of_unmarked unmarked, unfolded, composed, unmarked, bne_self_eq_false,
      bne_self_eq_false]
    rfl

/-- Normalizing leaves a mark in front of the second mark only, and pairs of doubled carriage
returns only.  It changes its own result exactly if it leaves one of them, and otherwise a file that
is made from the result is that of the content. -/
theorem normalize_settles_iff (content : Text)
    (cleanly : ComposesCleanly (foldLineEnds (content.dropStart byteOrderMark))) :
    let normal := (normalize content).1
    (normal.startsWith byteOrderMark = true
        ↔ content.startsWith (byteOrderMark ++ byteOrderMark) = true)
      ∧ (pair <:+: normal ↔ doubledPair <:+: content)
      ∧ (normalize normal = (normal, .none) ↔ OnceEnough content)
      ∧ (OnceEnough content → ∀ id path flags,
        let again := SourceFile.ofContent id path normal flags
        again.content = normal ∧ again.flags = flags
          ∧ again.digest = (SourceFile.ofContent id path content flags).digest) := by
  intro normal
  have marks : normal.startsWith byteOrderMark
      = content.startsWith (byteOrderMark ++ byteOrderMark) := by
    rw [← startsWith_dropStart]
    refine cleanly.mark.trans ?_
    rw [Bool.eq_iff_iff]
    exact List.isPrefixOf_iff_prefix.trans ((prefix_foldLineEnds byteOrderMark_plain _).trans
      List.isPrefixOf_iff_prefix.symm)
  have pairs : pair <:+: normal ↔ doubledPair <:+: content := by
    rw [← doubledPair_infix_dropStart, ← pair_infix_foldLineEnds]
    exact cleanly.pairs
  have settled : normalize normal = (normal, .none) ↔ OnceEnough content := by
    rw [normalize_eq_self_iff, marks, pairs]
    exact ⟨fun same => ⟨same.1, same.2.1⟩, fun once => ⟨once.mark, once.pairs, cleanly.once⟩⟩
  refine ⟨Bool.eq_iff_iff.mp marks, pairs, settled, fun once id path flags => ?_⟩
  have same := settled.mpr once
  have none : ∀ f : FileFlags, f.union .none = f := by
    rintro ⟨bits⟩
    exact congrArg FileFlags.mk (UInt8.or_zero)
  unfold SourceFile.ofContent
  rw [same]
  exact ⟨rfl, none flags, rfl⟩

/-- One carriage return of two stays before the line feed, and is taken off the next time. -/
theorem normalize_settles_iff_doubled :
    let content : Text := [0x0D, 0x0D, 0x0A]
    ComposesCleanly (foldLineEnds (content.dropStart byteOrderMark))
      ∧ pair <:+: (normalize content).1
      ∧ normalize (normalize content).1 ≠ ((normalize content).1, .none) := by
  intro content
  have cleanly : ComposesCleanly (foldLineEnds (content.dropStart byteOrderMark)) :=
    .of_ascii (by decide)
  have doubled : doubledPair <:+: content := List.infix_rfl
  rcases normalize_settles_iff content cleanly with ⟨-, pairs, settled, -⟩
  exact ⟨cleanly, pairs.mpr doubled, fun same => (settled.mp same).pairs doubled⟩

end Normalization

end TemplateCompiler
