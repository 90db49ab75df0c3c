import Mathlib.Algebra.Order.Ring.Int
import TemplateCompiler.Proofs.CleanPath
import TemplateCompiler.Source.File

/-!
# Positions in files

A file keeps the offsets of its line feeds, and finds from them the line and the column of an
offset and the text of a line.  Both are compared with the lines that the content has when it is
cut at its line feeds: `lineStart` and `lineEnd` are the offsets where a line starts and where its
line feed stands.  So a position leads back to its offset, positions have the order of their
offsets, and the lines put together give the content (`FileSet.positions_exact`).

Lines and columns are words.  A file of fewer bytes than the largest word keeps them from wrapping
around.
-/

namespace TemplateCompiler

namespace Text

/-! ## The lines of a text -/

theorem lines_feed (t : Text) : lines (0x0A :: t) = [] :: lines t := splitOnByte_self _ t

/-- A byte that is no line feed belongs to the first line. -/
theorem lines_of_ne {b : UInt8} (other : b ≠ 0x0A) (t : Text) :
    ∃ first rest, lines t = first :: rest ∧ lines (b :: t) = (b :: first) :: rest := by
  cases parts : lines t with
  | nil => exact absurd parts (splitOnByte_ne_nil _ t)
  | cons first rest => exact ⟨first, rest, rfl, splitOnByte_of_ne other parts⟩

theorem length_lines (t : Text) : t.lines.length = t.count 0x0A + 1 := by
  induction t with
  | nil => rfl
  | cons b t ih =>
    by_cases feed : b = 0x0A
    · subst feed
      rw [lines_feed, List.length_cons, ih, List.count_cons_self]
    · obtain ⟨first, rest, parts, longer⟩ := lines_of_ne feed t
      rw [longer, List.count_cons_of_ne feed, ← ih, parts]
      rfl

theorem join_lines (t : Text) : join [0x0A] t.lines = t := by
  induction t with
  | nil => rfl
  | cons b t ih =>
    by_cases feed : b = 0x0A
    · subst feed
      cases parts : lines t with
      | nil => exact absurd parts (splitOnByte_ne_nil _ t)
      | cons first rest =>
        rw [lines_feed, parts, join, ← parts, ih]
        · rfl
        · intro impossible
          cases impossible
    · obtain ⟨first, rest, parts, longer⟩ := lines_of_ne feed t
      rw [parts] at ih
      rw [longer]
      cases rest with
      | nil => exact congrArg (b :: ·) ih
      | cons second rest => exact congrArg (b :: ·) ih

/-! ## Where lines start and end -/

/-- The offset where a line starts, counted from zero. -/
def lineStart (t : Text) (n : Nat) : Nat := ((t.lines.take n).map fun l => l.length + 1).sum

/-- The line of a number, counted from zero; empty if there is none. -/
def lineAt (t : Text) (n : Nat) : Text := (t.lines[n]?).getD []

/-- The offset where a line ends: that of its line feed, or the end of the text. -/
def lineEnd (t : Text) (n : Nat) : Nat := t.lineStart n + (t.lineAt n).length

@[simp]
theorem lineStart_zero (t : Text) : t.lineStart 0 = 0 := rfl

theorem lineStart_feed (t : Text) (n : Nat) :
    lineStart (0x0A :: t) (n + 1) = t.lineStart n + 1 := by
  rw [lineStart, lines_feed, List.take_succ_cons, List.map_cons, List.sum_cons, Nat.add_comm]
  rfl

theorem lineAt_feed (t : Text) (n : Nat) : lineAt (0x0A :: t) (n + 1) = t.lineAt n := by
  rw [lineAt, lines_feed, List.getElem?_cons_succ]
  rfl

theorem lineAt_feed_zero (t : Text) : lineAt (0x0A :: t) 0 = [] := by
  rw [lineAt, lines_feed]
  rfl

section

variable {b : UInt8} (other : b ≠ 0x0A) (t : Text)

include other

theorem lineStart_of_ne (n : Nat) : lineStart (b :: t) (n + 1) = t.lineStart (n + 1) + 1 := by
  obtain ⟨first, rest, parts, longer⟩ := lines_of_ne other t
  simp only [lineStart, parts, longer, List.take_succ_cons, List.map_cons, List.sum_cons,
    List.length_cons]
  omega

theorem lineAt_of_ne (n : Nat) : lineAt (b :: t) (n + 1) = t.lineAt (n + 1) := by
  obtain ⟨first, rest, parts, longer⟩ := lines_of_ne other t
  rw [lineAt, lineAt, parts, longer, List.getElem?_cons_succ, List.getElem?_cons_succ]

theorem lineAt_of_ne_zero : lineAt (b :: t) 0 = b :: t.lineAt 0 := by
  obtain ⟨first, rest, parts, longer⟩ := lines_of_ne other t
  rw [lineAt, lineAt, parts, longer]
  rfl

/-- One byte in front moves the ends of all lines. -/
theorem lineEnd_of_ne (n : Nat) : lineEnd (b :: t) n = t.lineEnd n + 1 := by
  unfold lineEnd
  cases n with
  | zero => rw [lineAt_of_ne_zero other, List.length_cons, lineStart_zero, lineStart_zero]; omega
  | succ n => rw [lineStart_of_ne other, lineAt_of_ne other]; omega

end

theorem lineEnd_feed (t : Text) (n : Nat) : lineEnd (0x0A :: t) (n + 1) = t.lineEnd n + 1 := by
  unfold lineEnd
  rw [lineStart_feed, lineAt_feed]
  omega

theorem lineEnd_feed_zero (t : Text) : lineEnd (0x0A :: t) 0 = 0 := by
  rw [lineEnd, lineAt_feed_zero]
  rfl

/-- The next line starts behind the line feed. -/
theorem lineStart_succ {t : Text} {n : Nat} (known : n < t.lines.length) :
    t.lineStart (n + 1) = t.lineEnd n + 1 := by
  rw [lineStart, List.take_add_one, List.getElem?_eq_getElem known, List.map_append,
    List.sum_append, lineEnd, lineAt, List.getElem?_eq_getElem known]
  rfl

/-- The last line ends with the text. -/
theorem lineEnd_last (t : Text) : t.lineEnd (t.count 0x0A) = t.length := by
  induction t with
  | nil => rfl
  | cons b t ih =>
    by_cases feed : b = 0x0A
    · subst feed
      rw [List.count_cons_self, lineEnd_feed, ih, List.length_cons]
    · rw [List.count_cons_of_ne feed, lineEnd_of_ne feed, ih, List.length_cons]

theorem lineEnd_le {t : Text} : ∀ {n : Nat}, n ≤ t.count 0x0A → t.lineEnd n ≤ t.length := by
  induction t with
  | nil =>
    intro n known
    rw [Nat.le_zero.mp known]
    exact Nat.le_refl 0
  | cons b t ih =>
    intro n known
    by_cases feed : b = 0x0A
    · subst feed
      rw [List.count_cons_self] at known
      cases n with
      | zero => rw [lineEnd_feed_zero]; exact Nat.zero_le _
      | succ n =>
        rw [lineEnd_feed]
        exact Nat.succ_le_succ (ih (Nat.le_of_succ_le_succ known))
    · rw [List.count_cons_of_ne feed] at known
      rw [lineEnd_of_ne feed]
      exact Nat.succ_le_succ (ih known)

/-- A line is what stands between its start and its end. -/
theorem slice_line {t : Text} :
    ∀ {n : Nat}, n < t.lines.length → t.slice (t.lineStart n) (t.lineEnd n) = t.lineAt n := by
  induction t with
  | nil =>
    intro n known
    obtain rfl : n = 0 := Nat.lt_one_iff.mp known
    rfl
  | cons b t ih =>
    have shifted (start stop : Nat) :
        slice (b :: t) (start + 1) (stop + 1) = slice t start stop := by
      rw [slice, slice, List.drop_succ_cons, Nat.add_sub_add_right]
    intro n known
    by_cases feed : b = 0x0A
    · subst feed
      cases n with
      | zero => rw [lineEnd_feed_zero, lineAt_feed_zero]; rfl
      | succ n =>
        rw [lines_feed, List.length_cons, Nat.add_lt_add_iff_right] at known
        rw [lineStart_feed, lineEnd_feed, lineAt_feed, shifted, ih known]
    · have same : (lines (b :: t)).length = (lines t).length := by
        rw [length_lines, length_lines, List.count_cons_of_ne feed]
      rw [same] at known
      cases n with
      | zero =>
        have first := ih known
        rw [lineStart_zero, slice, List.drop_zero, Nat.sub_zero] at first
        rw [lineStart_zero, lineEnd_of_ne feed, lineAt_of_ne_zero feed, slice, List.drop_zero,
          Nat.sub_zero, List.take_succ_cons, first]
      | succ n =>
        rw [lineStart_of_ne feed, lineEnd_of_ne feed, lineAt_of_ne feed, shifted, ih known]

/-! ## Offsets and lines -/

/-- An offset is on the line that as many line feeds are before, and not before its start. -/
theorem lineStart_count_le (t : Text) : ∀ n : Nat, t.lineStart ((t.take n).count 0x0A) ≤ n := by
  induction t with
  | nil =>
    intro n
    rw [List.take_nil]
    exact Nat.zero_le n
  | cons b t ih =>
    intro n
    cases n with
    | zero => exact Nat.le_refl 0
    | succ n =>
      have bound := ih n
      rw [List.take_succ_cons]
      by_cases feed : b = 0x0A
      · subst feed
        rw [List.count_cons_self, lineStart_feed]
        omega
      · rw [List.count_cons_of_ne feed]
        cases before : (t.take n).count 0x0A with
        | zero => exact Nat.zero_le _
        | succ k =>
          rw [before] at bound
          rw [lineStart_of_ne feed]
          omega

theorem le_lineEnd_count {t : Text} :
    ∀ {n : Nat}, n ≤ t.length → n ≤ t.lineEnd ((t.take n).count 0x0A) := by
  induction t with
  | nil =>
    intro n inside
    rw [Nat.le_zero.mp inside]
    exact Nat.zero_le _
  | cons b t ih =>
    intro n inside
    cases n with
    | zero => exact Nat.zero_le _
    | succ n =>
      have bound := ih (Nat.le_of_succ_le_succ inside)
      rw [List.take_succ_cons]
      by_cases feed : b = 0x0A
      · subst feed
        rw [List.count_cons_self, lineEnd_feed]
        omega
      · rw [List.count_cons_of_ne feed, lineEnd_of_ne feed]
        omega

end Text

/-! ## Line feeds -/

theorem length_lineFeedsFrom (t : Text) :
    ∀ start : Nat, (lineFeedsFrom start t).length = t.count 0x0A := by
  induction t with
  | nil => intro start; rfl
  | cons b t ih =>
    intro start
    rw [lineFeedsFrom, List.count_cons]
    change (if b == 0x0A then _ else _ : List Nat).length = _
    split
    · rw [List.length_cons, ih]
    · exact ih _

/-- All but the last line have their line feeds at their ends. -/
theorem getElem?_lineFeedsFrom (t : Text) :
    ∀ start n : Nat, (lineFeedsFrom start t)[n]?
      = if n < t.count 0x0A then some (start + t.lineEnd n) else none := by
  induction t with
  | nil => intro start n; rfl
  | cons b t ih =>
    intro start n
    rw [lineFeedsFrom]
    change (if b == 0x0A then _ else _ : List Nat)[n]? = _
    by_cases feed : b = 0x0A
    · subst feed
      rw [if_pos (beq_self_eq_true _), List.count_cons_self]
      cases n with
      | zero => rw [if_pos (Nat.succ_pos _), Text.lineEnd_feed_zero]; rfl
      | succ n =>
        simp only [List.getElem?_cons_succ, ih, Nat.add_lt_add_iff_right, Text.lineEnd_feed]
        congr 2
        omega
    · rw [if_neg (by simpa using feed), List.count_cons_of_ne feed, ih, Text.lineEnd_of_ne feed]
      congr 2
      omega

theorem le_of_mem_lineFeedsFrom (t : Text) :
    ∀ start : Nat, ∀ k ∈ lineFeedsFrom start t, start ≤ k := by
  induction t with
  | nil => intro start k member; cases member
  | cons b t ih =>
    intro start k member
    have behind : k ∈ lineFeedsFrom (start + 1) t → start ≤ k :=
      fun member => Nat.le_of_succ_le (ih (start + 1) k member)
    rw [lineFeedsFrom] at member
    split at member
    · rcases List.mem_cons.mp member with rfl | member
      · exact Nat.le_refl k
      · exact behind member
    · exact behind member

theorem length_takeWhile_lineFeedsFrom (t : Text) :
    ∀ start n : Nat, ((lineFeedsFrom start t).takeWhile (· < start + n)).length
      = (t.take n).count 0x0A := by
  induction t with
  | nil => intro start n; rw [List.take_nil]; rfl
  | cons b t ih =>
    intro start n
    cases n with
    | zero =>
      rw [List.take_zero, List.count_nil, List.length_eq_zero_iff]
      cases feeds : lineFeedsFrom start (b :: t) with
      | nil => rfl
      | cons k rest =>
        have bound := le_of_mem_lineFeedsFrom (b :: t) start k (feeds ▸ List.mem_cons_self)
        rw [List.takeWhile_cons_of_neg]
        simpa using bound
    | succ n =>
      have later := ih (start + 1) n
      rw [Nat.add_right_comm, Nat.add_assoc start n 1] at later
      rw [lineFeedsFrom, List.take_succ_cons]
      change ((if b == 0x0A then _ else _ : List Nat).takeWhile _).length = _
      by_cases feed : b = 0x0A
      · subst feed
        rw [if_pos (beq_self_eq_true _), List.count_cons_self, List.takeWhile_cons_of_pos,
          List.length_cons, later]
        simp
      · rw [if_neg (by simpa using feed), List.count_cons_of_ne feed, later]

/-! ## Files -/

namespace SourceFile

/-- A file knows where the line feeds of its content are. -/
def Indexed (f : SourceFile) : Prop := f.lineFeeds = lineFeedsFrom 0 f.content

theorem ofContent_indexed (id : Nat) (path content : Text) (flags : FileFlags) :
    (ofContent id path content flags).Indexed := rfl

/-- How many line feeds are before an offset, which is the number of the line that the offset is in.
-/
def feedsBefore (f : SourceFile) (offset : Nat) : Nat := (f.content.take offset).count 0x0A

theorem feedsBefore_mono (f : SourceFile) {a b : Nat} (ordered : a ≤ b) :
    f.feedsBefore a ≤ f.feedsBefore b :=
  (List.take_sublist_take_left ordered).count_le _

theorem feedsBefore_le (f : SourceFile) (offset : Nat) :
    f.feedsBefore offset ≤ f.content.count 0x0A :=
  (List.take_sublist offset f.content).count_le _

theorem line_eq_nil {f : SourceFile} {n : Nat} (beyond : f.lineCount < n) : f.line n = [] := by
  rw [line, if_pos]
  simp [beyond]

variable {f : SourceFile} (indexed : f.Indexed)

include indexed

theorem lineCount_eq : f.lineCount = f.content.count 0x0A + 1 := by
  rw [lineCount, indexed, length_lineFeedsFrom]

theorem lineStart_eq {n : Nat} (known : n ≤ f.content.count 0x0A) :
    f.lineStart n = f.content.lineStart n := by
  cases n with
  | zero => rfl
  | succ n =>
    have before : n < f.content.count 0x0A := known
    rw [lineStart, indexed, getElem?_lineFeedsFrom, if_pos before, Text.lineStart_succ]
    · simp
    · rw [Text.length_lines]
      exact Nat.lt_succ_of_lt before

theorem lineEnd_eq {n : Nat} (known : n ≤ f.content.count 0x0A) :
    (f.lineFeeds[n]?).getD f.content.length = f.content.lineEnd n := by
  rw [indexed, getElem?_lineFeedsFrom]
  split
  · simp
  · have last : n = f.content.count 0x0A := by omega
    rw [last, Text.lineEnd_last]
    rfl

theorem line_succ {n : Nat} (known : n < f.lineCount) : f.line (n + 1) = f.content.lineAt n := by
  rw [lineCount_eq indexed] at known
  have stop := lineEnd_eq indexed (Nat.le_of_lt_succ known)
  have start := lineStart_eq indexed (Nat.le_of_lt_succ known)
  rw [line, if_neg, Nat.add_sub_cancel, stop, start, Text.slice_line]
  · rw [Text.length_lines]
    exact known
  · rw [lineCount_eq indexed]
    simpa using Nat.le_of_lt_succ known

/-- The lines of a file are those of its content. -/
theorem map_line {n : Nat} (known : n ≤ f.lineCount) :
    (List.range' 1 n).map f.line = f.content.lines.take n := by
  have all : f.content.lines.length = f.lineCount := by
    rw [Text.length_lines, lineCount_eq indexed]
  apply List.ext_getElem
  · simp [all, known]
  · intro k inside inside'
    have within : k < f.lineCount := by
      rw [List.length_map, List.length_range'] at inside
      omega
    have here : k < f.content.lines.length := all ▸ within
    rw [List.getElem_map, List.getElem_range', List.getElem_take, Nat.one_mul, Nat.add_comm,
      line_succ indexed within, Text.lineAt, List.getElem?_eq_getElem here, Option.getD_some]

/-! ## Positions -/

theorem position_eq (offset : Nat) : f.position offset =
    ⟨(f.feedsBefore offset).toUInt32 + 1,
      offset.toUInt32 - (f.content.lineStart (f.feedsBefore offset)).toUInt32 + 1⟩ := by
  have before : (f.lineFeeds.takeWhile (· < offset)).length = f.feedsBefore offset := by
    have all := length_takeWhile_lineFeedsFrom f.content 0 offset
    rwa [Nat.zero_add, ← indexed] at all
  rw [position, before, lineStart_eq indexed (f.feedsBefore_le offset)]

theorem toNat_line (offset : Nat) (few : f.lineCount < 2 ^ 32) :
    (f.position offset).line.toNat = f.feedsBefore offset + 1 := by
  have bound := f.feedsBefore_le offset
  rw [lineCount_eq indexed] at few
  rw [position_eq indexed, UInt32.toNat_add, Nat.toUInt32, UInt32.toNat_ofNat']
  change (_ % 2 ^ 32 + 1) % 2 ^ 32 = _
  omega

/-- A column wraps around only if it would be the word behind the largest one. -/
theorem toNat_column {offset : Nat} (word : offset < 2 ^ 32) :
    (f.position offset).column.toNat
      = (offset - f.content.lineStart (f.feedsBefore offset) + 1) % 2 ^ 32 := by
  have bound := f.content.lineStart_count_le offset
  change f.content.lineStart (f.feedsBefore offset) ≤ offset at bound
  simp only [position_eq indexed, UInt32.toNat_add, UInt32.toNat_sub, Nat.toUInt32,
    UInt32.toNat_ofNat']
  change ((2 ^ 32 - _ % 2 ^ 32 + _ % 2 ^ 32) % 2 ^ 32 + 1) % 2 ^ 32 = _
  omega

omit indexed in
theorem count_le_length (f : SourceFile) : f.content.count 0x0A ≤ f.content.length :=
  List.count_le_length

end SourceFile

/-- The order of positions: by line, then by column. -/
def Position.Before (p q : Position) : Prop :=
  p.line < q.line ∨ p.line = q.line ∧ p.column < q.column

/-- A position says where an offset is: on the line that as many line feeds are before, so many
bytes behind its start.  The lines before that one, with their line feeds, lead back to the
offset. -/
structure SourceFile.Locates (f : SourceFile) (offset : Nat) (p : Position) : Prop where
  line : p.line.toNat = (f.content.take offset).count 0x0A + 1
  column : 1 ≤ p.column.toNat
  onLine : p.column.toNat - 1 ≤ (f.line p.line.toNat).length
  back : offset = p.column.toNat - 1
    + ((List.range' 1 (p.line.toNat - 1)).map fun n => (f.line n).length + 1).sum

namespace SourceFile

variable {f : SourceFile} (indexed : f.Indexed) (short : f.content.length < 2 ^ 32 - 1)

include indexed short

/-- Neither the line nor the column of an offset wraps around. -/
theorem position_exact {offset : Nat} (inside : offset ≤ f.content.length) :
    (f.position offset).line.toNat = f.feedsBefore offset + 1
      ∧ (f.position offset).column.toNat
        = offset - f.content.lineStart (f.feedsBefore offset) + 1 := by
  have few := f.count_le_length
  constructor
  · apply toNat_line indexed
    rw [lineCount_eq indexed]
    omega
  · rw [toNat_column indexed (by omega), Nat.mod_eq_of_lt (by omega)]

theorem position_locates {offset : Nat} (inside : offset ≤ f.content.length) :
    f.Locates offset (f.position offset) := by
  obtain ⟨line, column⟩ := position_exact indexed short inside
  have start : f.content.lineStart (f.feedsBefore offset) ≤ offset :=
    f.content.lineStart_count_le offset
  have stop : offset ≤ f.content.lineEnd (f.feedsBefore offset) := Text.le_lineEnd_count inside
  have known : f.feedsBefore offset < f.lineCount := by
    rw [lineCount_eq indexed]
    exact Nat.lt_succ_of_le (f.feedsBefore_le offset)
  refine ⟨line, by omega, ?_, ?_⟩
  · rw [line, column, line_succ indexed known]
    unfold Text.lineEnd at stop
    omega
  · have lengths := congrArg (List.map fun l : Text => l.length + 1)
      (map_line indexed (Nat.le_of_lt known))
    rw [List.map_map] at lengths
    have before := congrArg List.sum lengths
    change _ = f.content.lineStart (f.feedsBefore offset) at before
    rw [line, column, Nat.add_sub_cancel, Nat.add_sub_cancel]
    change _ = _ + (List.map ((fun l : Text => l.length + 1) ∘ f.line) _).sum
    omega

theorem position_before_iff {a b : Nat} (first : a ≤ f.content.length)
    (second : b ≤ f.content.length) :
    (f.position a).Before (f.position b) ↔ a < b := by
  obtain ⟨line, column⟩ := position_exact indexed short first
  obtain ⟨line', column'⟩ := position_exact indexed short second
  have start : f.content.lineStart (f.feedsBefore a) ≤ a := f.content.lineStart_count_le a
  have start' : f.content.lineStart (f.feedsBefore b) ≤ b := f.content.lineStart_count_le b
  have mono : a ≤ b → f.feedsBefore a ≤ f.feedsBefore b := f.feedsBefore_mono
  have mono' : b ≤ a → f.feedsBefore b ≤ f.feedsBefore a := f.feedsBefore_mono
  rw [Position.Before, UInt32.lt_iff_toNat_lt, UInt32.lt_iff_toNat_lt, ← UInt32.toNat_inj, line,
    line', column, column']
  by_cases same : f.feedsBefore a = f.feedsBefore b
  · rw [same] at start ⊢
    omega
  · omega

theorem position_inj {a b : Nat} (first : a ≤ f.content.length) (second : b ≤ f.content.length)
    (same : f.position a = f.position b) : a = b := by
  have place := (position_locates indexed short first).back
  rw [same] at place
  exact place.trans (position_locates indexed short second).back.symm

end SourceFile

/-! ## File sets -/

namespace FileSet

/-- A file set is made by adding files to the empty one. -/
inductive Built : FileSet → Prop
  | empty : Built .empty
  | add {s : FileSet} (built : Built s) (path content : Text) (flags : FileFlags) :
      Built (s.add path content flags).1
  | addRelative {s : FileSet} (built : Built s) (path relative content : Text)
      (flags : FileFlags) : Built (s.addRelative path relative content flags).1

theorem indexed_of_push {s : FileSet} {id : Nat} {f g : SourceFile}
    (others : ∀ k h, s.get? k = some h → h.Indexed) (indexed : f.Indexed)
    (known : (FileSet.mk (s.files.push f)).get? id = some g) : g.Indexed := by
  rw [get?, Array.getElem?_push] at known
  split at known
  · cases known
    exact indexed
  · exact others id g known

/-- All files of a set know where their line feeds are. -/
theorem Built.indexed {s : FileSet} (built : s.Built) :
    ∀ {id : Nat} {f : SourceFile}, s.get? id = some f → f.Indexed := by
  induction built with
  | empty => intro id f known; cases known
  | add built path content flags ih =>
    intro id f known
    exact indexed_of_push (fun k h => ih) (SourceFile.ofContent_indexed _ _ content flags) known
  | @addRelative s _ path relative content flags ih =>
    intro id f known
    have indexed : SourceFile.Indexed
        { SourceFile.ofContent s.size path content flags with
          relative := Path.rooted relative } := rfl
    exact indexed_of_push (fun k h => ih) indexed known

/-- The positions of a span in a file of a set tell exactly where its ends are, in their order,
and the lines of the file are those of its content. -/
theorem positions_exact {files : FileSet} (built : files.Built) {id : Nat} {f : SourceFile}
    (known : files.get? id = some f) (short : f.content.length < 2 ^ 32 - 1) :
    (∀ start stop : Nat, start ≤ f.content.length → stop ≤ f.content.length →
      ∃ p q : Position, files.resolve? ⟨id, start, stop⟩ = some (p, q)
        ∧ f.Locates start p ∧ f.Locates stop q
        ∧ (p = q → start = stop) ∧ (p.Before q ↔ start < stop))
    ∧ f.line 0 = [] ∧ (∀ n, f.content.count 0x0A + 1 < n → f.line n = [])
    ∧ Text.join "\n" ((List.range' 1 (f.content.count 0x0A + 1)).map f.line) = f.content := by
  have indexed := built.indexed known
  have count := SourceFile.lineCount_eq indexed
  refine ⟨?_, rfl, ?_, ?_⟩
  · intro start stop first second
    refine ⟨f.position start, f.position stop, ?_, ?_, ?_, ?_, ?_⟩
    · rw [resolve?, known]
      rfl
    · exact SourceFile.position_locates indexed short first
    · exact SourceFile.position_locates indexed short second
    · exact SourceFile.position_inj indexed short first second
    · exact SourceFile.position_before_iff indexed short first second
  · intro n beyond
    apply SourceFile.line_eq_nil
    rw [count]
    exact beyond
  · rw [SourceFile.map_line indexed (Nat.le_of_eq count.symm), ← Text.length_lines,
      List.take_length]
    exact Text.join_lines f.content

/-- The offset of the second of two line feeds is on the empty line between them. -/
theorem positions_exact_empty_line :
    let files := (FileSet.empty.add "a" "x\n\ny" .none).1
    let f := SourceFile.ofContent 0 "a" "x\n\ny" .none
    files.Built ∧ files.get? 0 = some f ∧ f.content.length < 2 ^ 32 - 1
      ∧ files.resolve? ⟨0, 2, 4⟩ = some (⟨2, 1⟩, ⟨3, 2⟩)
      ∧ f.Locates 2 ⟨2, 1⟩ ∧ f.Locates 4 ⟨3, 2⟩ ∧ f.line 2 = [] ∧ f.line 4 = [] := by
  intro files f
  have built : files.Built := .add .empty _ _ _
  have known : files.get? 0 = some f := rfl
  have length : f.content.length = 4 := by decide +kernel
  have resolved : files.resolve? ⟨0, 2, 4⟩ = some (⟨2, 1⟩, ⟨3, 2⟩) := by decide +kernel
  have short : f.content.length < 2 ^ 32 - 1 := by omega
  obtain ⟨located, -, beyond, -⟩ := positions_exact built known short
  obtain ⟨p, q, same, first, second, -⟩ := located 2 4 (by omega) (by omega)
  cases resolved.symm.trans same
  exact ⟨built, known, short, resolved, first, second, by decide +kernel,
    beyond 4 (by decide +kernel)⟩

end FileSet

end TemplateCompiler
