import TemplateCompiler.Text.Case

/-!
# Letters of one byte

Comparing texts without regard to case goes by the characters of both, and a character may take
several bytes.  Where one of the texts consists of small letters of ASCII and the other one has as
many bytes, the comparison is one of bytes (`Text.equalFold_iff_of_lower`): texts that agree have as
many characters as bytes, so every character takes one, and ill-formed bytes agree with no letter.
-/

namespace TemplateCompiler

namespace Text

/-! ## Characters of one byte -/

theorem glyphAt_of_ascii {b : UInt8} (ascii : b < 0x80) (rest : Text) :
    glyphAt b rest = .ofByte b := by
  have single : leadingByte? b = none := by
    unfold leadingByte?
    grind
  unfold glyphAt
  rw [single]

theorem length_bytes_ofByte (b : UInt8) : (Glyph.ofByte b).bytes.length = 1 := by
  unfold Glyph.ofByte
  split <;> rfl

/-- A glyph that was not read from a single byte was read from several. -/
theorem glyphAt_single_or (b : UInt8) (rest : Text) :
    glyphAt b rest = .ofByte b ∨ 2 ≤ (glyphAt b rest).bytes.length ∧ 0 < rest.length := by
  unfold glyphAt
  split
  · split
    · exact .inr ⟨Nat.le_refl 2, Nat.succ_pos _⟩
    · exact .inl rfl
  · split
    · exact .inr ⟨Nat.le_succ 2, Nat.succ_pos _⟩
    · exact .inl rfl
  · split
    · exact .inr ⟨(by decide : 2 ≤ 4), Nat.succ_pos _⟩
    · exact .inl rfl
  · exact .inl rfl

theorem glyphs_cons_of_single {b : UInt8} {t : Text} (single : glyphAt b t = .ofByte b) :
    glyphs (b :: t) = .ofByte b :: t.glyphs := by
  change glyphAt b t :: glyphsFrom ((glyphAt b t).bytes.length - 1) t = _
  rw [single, length_bytes_ofByte]
  rfl

theorem chars_cons_of_ascii {b : UInt8} (ascii : b < 0x80) (t : Text) :
    chars (b :: t) = Char.ofNat b.toNat :: t.chars := by
  rw [chars, glyphs_cons_of_single (glyphAt_of_ascii ascii t), List.map_cons, Glyph.ofByte,
    if_pos ascii]
  rfl

theorem chars_ne_nil {t : Text} (given : t ≠ []) : t.chars ≠ [] := by
  cases t with
  | nil => exact absurd rfl given
  | cons b t => exact List.cons_ne_nil _ _

theorem glyphs_of_ascii {t : Text} (ascii : ∀ b ∈ t, b < 0x80) :
    t.glyphs = t.map Glyph.ofByte := by
  induction t with
  | nil => rfl
  | cons b t ih =>
    have both := List.forall_mem_cons.mp ascii
    rw [glyphs_cons_of_single (glyphAt_of_ascii both.1 t), ih both.2, List.map_cons]

theorem length_glyphsFrom_le (t : Text) :
    ∀ skip : Nat, (glyphsFrom skip t).length + min skip t.length ≤ t.length := by
  induction t with
  | nil =>
    intro skip
    cases skip <;> exact Nat.le_of_eq (by simp [glyphsFrom])
  | cons b t ih =>
    intro skip
    cases skip with
    | zero =>
      have rest := ih ((glyphAt b t).bytes.length - 1)
      simp only [glyphsFrom, List.length_cons]
      omega
    | succ skip =>
      have rest := ih skip
      simp only [glyphsFrom, List.length_cons]
      omega

/-- A text with as many glyphs as bytes has glyphs of single bytes only. -/
theorem glyphs_of_length {t : Text} (all : t.glyphs.length = t.length) :
    t.glyphs = t.map Glyph.ofByte := by
  induction t with
  | nil => rfl
  | cons b t ih =>
    rcases glyphAt_single_or b t with single | ⟨several, behind⟩
    · rw [glyphs_cons_of_single single] at all ⊢
      rw [ih (Nat.succ.inj all), List.map_cons]
    · have count : (glyphsFrom ((glyphAt b t).bytes.length - 1) t).length = t.length :=
        Nat.succ.inj all
      have bound := length_glyphsFrom_le t ((glyphAt b t).bytes.length - 1)
      omega

/-! ## Letter case of characters of one byte -/

/-- A table leaves the characters outside its entries alone. -/
theorem MapTable.apply_of_outside {table : MapTable} {c : Char}
    (outside : ∀ s ∈ table.shifts.toList, c.toNat < s.low ∨ s.high < c.toNat) :
    table.apply c = c := by
  have missing : (table.shifts.find? fun s =>
      s.low ≤ c.toNat && c.toNat ≤ s.high && (c.toNat - s.low) % s.step == 0) = none := by
    rw [Array.find?_eq_none]
    intro s member
    have apart := outside s (Array.mem_toList_iff.mpr member)
    simp only [Bool.and_eq_true, decide_eq_true_eq]
    omega
  unfold apply
  dsimp only
  rw [missing]

theorem foldChar_replacement : foldChar replacement = replacement := by
  have large : ¬ replacement.toNat < 0x80 := by decide
  rw [foldChar, if_neg large]
  apply MapTable.apply_of_outside
  decide +kernel

/-- A byte with an upper-case letter in lower case. -/
def lowerByte (b : UInt8) : UInt8 := if 0x41 ≤ b && b ≤ 0x5A then b + 0x20 else b

/-- Characters of one byte are folded as letters of ASCII are. -/
theorem foldChar_ofByte (b : UInt8) :
    foldChar (Glyph.ofByte b).char
      = if b < 0x80 then Char.ofNat (lowerByte b).toNat else replacement := by
  unfold Glyph.ofByte
  split
  · next ascii =>
    have lower : ∀ n : Fin 0x80, foldChar (Char.ofNat n)
        = Char.ofNat (lowerByte (UInt8.ofNat n)).toNat := by decide
    have here := lower ⟨b.toNat, UInt8.lt_iff_toNat_lt.mp ascii⟩
    rwa [UInt8.ofNat_toNat] at here
  · exact foldChar_replacement

theorem lowerByte_lt_iff (b : UInt8) : lowerByte b < 0x80 ↔ b < 0x80 := by
  unfold lowerByte
  split
  · next upper =>
    simp only [Bool.and_eq_true, decide_eq_true_eq, UInt8.le_iff_toNat_le] at upper
    rw [UInt8.lt_iff_toNat_lt, UInt8.lt_iff_toNat_lt, UInt8.toNat_add]
    change (0x41 ≤ _ ∧ _ ≤ 0x5A) at upper
    change (_ + 0x20) % 256 < 0x80 ↔ _ < 0x80
    omega
  · exact Iff.rfl

theorem toNat_ofNat_of_ascii {b : UInt8} (ascii : b < 0x80) :
    (Char.ofNat b.toNat).toNat = b.toNat := by
  have small : b.toNat < 0x80 := UInt8.lt_iff_toNat_lt.mp ascii
  rw [Char.ofNat, dif_pos (.inl (by omega))]
  rfl

theorem ofNat_toNat_inj {b c : UInt8} (first : b < 0x80) (second : c < 0x80)
    (same : Char.ofNat b.toNat = Char.ofNat c.toNat) : b = c := by
  have codes := congrArg Char.toNat same
  rwa [toNat_ofNat_of_ascii first, toNat_ofNat_of_ascii second, UInt8.toNat_inj] at codes

theorem foldChar_ofByte_eq_iff (b : UInt8) {c : UInt8} (small : c < 0x80) :
    foldChar (Glyph.ofByte b).char = Char.ofNat c.toNat ↔ lowerByte b = c := by
  rw [foldChar_ofByte]
  by_cases ascii : b < 0x80
  · rw [if_pos ascii]
    constructor
    · exact ofNat_toNat_inj ((lowerByte_lt_iff b).mpr ascii) small
    · intro same
      rw [same]
  · rw [if_neg ascii]
    constructor
    · intro same
      have code := congrArg Char.toNat same
      rw [toNat_ofNat_of_ascii small] at code
      have large : replacement.toNat = 0xFFFD := by decide
      have bound := c.toNat_lt
      omega
    · intro same
      exact absurd ((lowerByte_lt_iff b).mp (same ▸ small)) ascii

theorem map_eq_map_iff {α β γ : Type} {f : α → γ} {g : β → γ} {h : α → β} {s : List β}
    (each : ∀ a, ∀ b ∈ s, f a = g b ↔ h a = b) :
    ∀ {t : List α}, t.map f = s.map g ↔ t.map h = s := by
  induction s with
  | nil => intro t; rw [List.map_nil, List.map_eq_nil_iff, List.map_eq_nil_iff]
  | cons b s ih =>
    obtain ⟨here, rest⟩ := List.forall_mem_cons.mp (fun c member a => each a c member)
    intro t
    cases t with
    | nil => exact iff_of_false (List.cons_ne_nil _ _).symm (List.cons_ne_nil _ _).symm
    | cons a t =>
      simp only [List.map_cons, List.cons.injEq, here a, ih fun a c member => rest c member a]

theorem foldKey_of_glyphs {t : Text} (single : t.glyphs = t.map Glyph.ofByte) :
    t.foldKey = t.map fun b => foldChar (Glyph.ofByte b).char := by
  rw [foldKey, chars, single, List.map_map, List.map_map]
  rfl

/-- Comparing with small letters of ASCII without regard to case is comparing the bytes in lower
case. -/
theorem equalFold_iff_of_lower {s t : Text} (lower : ∀ c ∈ s, c < 0x80 ∧ lowerByte c = c)
    (long : t.length = s.length) : t.equalFold s = true ↔ t.map lowerByte = s := by
  have ascii : ∀ c ∈ s, c < 0x80 := fun c member => (lower c member).1
  have key : s.foldKey = s.map fun c => Char.ofNat c.toNat := by
    rw [foldKey_of_glyphs (glyphs_of_ascii ascii)]
    apply List.map_congr_left
    intro c member
    rw [foldChar_ofByte_eq_iff c (ascii c member)]
    exact (lower c member).2
  have bytes (single : t.glyphs = t.map Glyph.ofByte) :
      t.foldKey = s.foldKey ↔ t.map lowerByte = s := by
    rw [foldKey_of_glyphs single, key]
    exact map_eq_map_iff fun b c member => foldChar_ofByte_eq_iff b (ascii c member)
  rw [equalFold, beq_iff_eq]
  constructor
  · intro same
    have count := congrArg List.length same
    rw [key, foldKey, chars, List.length_map, List.length_map, List.length_map, ← long] at count
    exact (bytes (glyphs_of_length count)).mp same
  · intro same
    have small : ∀ b ∈ t, b < 0x80 := by
      intro b member
      rw [← lowerByte_lt_iff]
      exact ascii _ (same ▸ List.mem_map_of_mem member)
    exact (bytes (glyphs_of_ascii small)).mpr same

end Text

end TemplateCompiler
