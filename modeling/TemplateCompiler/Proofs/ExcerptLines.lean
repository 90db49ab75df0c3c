import TemplateCompiler.Proofs.ExactPositions
import TemplateCompiler.Report.Excerpt

/-!
# The lines of an excerpt

The first and the last line of an excerpt are found with words: numbers are added and subtracted
before they are cut back to the lines that a file has.  Where no sum is too large for a word, the
lines are those of the file that are at most so many lines away as the context asks for.  The line
where the span starts is among them, and below it stands the one line of marks
(`excerpt?_shows_around`).

Marks are laid out by columns that are cut back to the end of the line, so a span may lie beyond the
end of the file or end before it starts.  What has to be known is that the column of the start is
not the one that wraps around.
-/

namespace TemplateCompiler

namespace Report

namespace Excerpt

/-- The lines of a text that are at most `around` lines away from one, counted from one. -/
def linesAround (content : Text) (line around : Nat) : List Nat :=
  (List.range' 1 (content.count 0x0A + 1)).filter fun n => line ≤ n + around ∧ n ≤ line + around

def numbered (color : Bool) (columns : Nat) (content : Text) (n : Nat) : Text :=
  gutter color columns (Text.ofNat n) ++ expandTabs (content.lineAt (n - 1)) ++ "\n"

def caretLine (color : Bool) (columns indent tildes : Nat) : Text :=
  gutter color columns [] ++ (Text.replicate indent ' '.toUInt8
    ++ Paint.apply color [.red, .bold] ("^" ++ Text.replicate tildes '~'.toUInt8)) ++ "\n"

/-- The excerpt consists of the lines of a file that are at most `around` lines away from that of
the start of a span, and of a line of marks below this one. -/
def ShowsAround (s : ExcerptStyle) (f : SourceFile) (span : Span) (around : Nat) : Prop :=
  let line := (f.position span.start).line.toNat
  let columns := (Text.ofNat (min (line + around) (f.content.count 0x0A + 1))).length
  let row := numbered s.color columns f.content
  ∃ before after indent tildes,
    linesAround f.content line around = before ++ line :: after
    ∧ excerpt? s f span = some (before.flatMap row
      ++ (row line ++ caretLine s.color columns indent tildes) ++ after.flatMap row)

/-- The number of lines that a context asks for; none if it is negative or no word. -/
def linesAsked (context : Int) : Nat :=
  if 0 ≤ context ∧ context < 2 ^ 32 then context.toNat else 0

/-! ## Words -/

theorem toNat_contextWord (context : Int) :
    (contextWord context).toNat = linesAsked context := by
  by_cases word : 0 ≤ context ∧ context < 2 ^ 32
  · have test : (0 ≤ context && context < 4294967296) = true := by simpa using word
    rw [contextWord, linesAsked, if_pos test, if_pos word, Nat.toUInt32, UInt32.toNat_ofNat']
    omega
  · have test : ¬ (0 ≤ context && context < 4294967296) = true := by simpa using word
    rw [contextWord, linesAsked, if_neg test, if_neg word]
    rfl

theorem toNat_greatest (a b : UInt32) : (greatest a b).toNat = max a.toNat b.toNat := by
  rw [greatest]
  split
  · next ordered => exact (Nat.max_eq_right (UInt32.le_iff_toNat_le.mp ordered)).symm
  · next other =>
    rw [UInt32.le_iff_toNat_le] at other
    omega

theorem toNat_least (a b : UInt32) : (least a b).toNat = min a.toNat b.toNat := by
  rw [least]
  split
  · next ordered => exact (Nat.min_eq_left (UInt32.le_iff_toNat_le.mp ordered)).symm
  · next other =>
    rw [UInt32.le_iff_toNat_le] at other
    omega

variable {f : SourceFile} {line : UInt32} {context : Int}

/-- Where the sum of a line and the context is a word, no step on the way to the bounds wraps
around. -/
theorem bounds_eq (few : f.lineCount < 2 ^ 32) (first : 0 < line.toNat)
    (sum : line.toNat + linesAsked context < 2 ^ 32) :
    (bounds f line context).1.toNat
        = max line.toNat (1 + linesAsked context) - linesAsked context
      ∧ (bounds f line context).2.toNat
        = min (line.toNat + linesAsked context) f.lineCount := by
  have around := toNat_contextWord context
  constructor
  · have behind : (1 + contextWord context).toNat = 1 + linesAsked context := by
      rw [UInt32.toNat_add, around, UInt32.toNat_one]
      omega
    have larger := toNat_greatest line (1 + contextWord context)
    change (greatest line (1 + contextWord context) - contextWord context).toNat = _
    rw [UInt32.toNat_sub, larger, behind, around]
    omega
  · change (least (line + contextWord context) f.lineCount.toUInt32).toNat = _
    rw [toNat_least, UInt32.toNat_add, around, Nat.toUInt32, UInt32.toNat_ofNat',
      Nat.mod_eq_of_lt sum, Nat.mod_eq_of_lt few]

/-! ## The numbers of the lines -/

/-- The numbers between two bounds, as a part of all numbers. -/
theorem filter_range' {first last : Nat} (count : Nat) (low : 1 ≤ first) (ordered : first ≤ last)
    (high : last ≤ count) :
    (List.range' 1 count).filter (fun n => first ≤ n ∧ n ≤ last)
      = List.range' first (last + 1 - first) := by
  have parts : List.range' 1 count = List.range' 1 (first - 1)
      ++ (List.range' first (last + 1 - first) ++ List.range' (last + 1) (count - last)) := by
    have front := @List.range'_append_1 1 (first - 1) (count + 1 - first)
    have behind := @List.range'_append_1 first (last + 1 - first) (count - last)
    rw [show 1 + (first - 1) = first by omega,
      show first - 1 + (count + 1 - first) = count by omega] at front
    rw [show first + (last + 1 - first) = last + 1 by omega,
      show last + 1 - first + (count - last) = count + 1 - first by omega] at behind
    rw [behind, front]
  have below : (List.range' 1 (first - 1)).filter (fun n => first ≤ n ∧ n ≤ last) = [] := by
    rw [List.filter_eq_nil_iff]
    intro n member
    rw [List.mem_range'_1] at member
    simp
    omega
  have within : (List.range' first (last + 1 - first)).filter (fun n => first ≤ n ∧ n ≤ last)
      = List.range' first (last + 1 - first) := by
    rw [List.filter_eq_self]
    intro n member
    rw [List.mem_range'_1] at member
    simp
    omega
  have above : (List.range' (last + 1) (count - last)).filter (fun n => first ≤ n ∧ n ≤ last)
      = [] := by
    rw [List.filter_eq_nil_iff]
    intro n member
    rw [List.mem_range'_1] at member
    simp
    omega
  rw [parts, List.filter_append, List.filter_append, below, within, above, List.nil_append,
    List.append_nil]

theorem linesAround_eq {content : Text} {line around : Nat} (first : 0 < line)
    (last : line ≤ content.count 0x0A + 1) :
    linesAround content line around = List.range' (max line (1 + around) - around)
      (min (line + around) (content.count 0x0A + 1) + 1 - (max line (1 + around) - around)) := by
  rw [← filter_range' (content.count 0x0A + 1) (by omega) (by omega) (Nat.min_le_right _ _),
    linesAround]
  apply List.filter_congr
  intro n member
  rw [List.mem_range'_1] at member
  simp only [decide_eq_decide]
  omega

/-- The line itself is once among the lines around it. -/
theorem linesAround_split {content : Text} {line : Nat} (around : Nat) (first : 0 < line)
    (last : line ≤ content.count 0x0A + 1) :
    ∃ before after, linesAround content line around = before ++ line :: after
      ∧ line ∉ before ∧ line ∉ after := by
  rw [linesAround_eq first last]
  generalize low : max line (1 + around) - around = lower
  generalize high : min (line + around) (content.count 0x0A + 1) = upper
  have front := @List.range'_append_1 lower (line - lower) (upper + 1 - line)
  rw [show lower + (line - lower) = line by omega,
    show line - lower + (upper + 1 - line) = upper + 1 - lower by omega] at front
  refine ⟨List.range' lower (line - lower), List.range' (line + 1) (upper - line), ?_, ?_, ?_⟩
  · rw [← List.range'_succ, show upper - line + 1 = upper + 1 - line by omega, front]
  · rw [List.mem_range'_1]
    omega
  · rw [List.mem_range'_1]
    omega

/-! ## Marks -/

theorem cut?_eq_some {line : Text} {first last : Int} (low : 0 ≤ first) (ordered : first ≤ last)
    (high : last ≤ line.length) :
    cut? line first last = some (line.slice first.toNat last.toNat) := by
  rw [cut?, if_pos ⟨low, ordered, high⟩]

/-- Below every column that has not wrapped around there are marks. -/
theorem marks?_eq_some (color : Bool) (line : Text) {start : Position} (stop : Position)
    (column : 1 ≤ start.column.toNat) :
    ∃ indent tildes, marks? color line start stop = some (Text.replicate indent ' '.toUInt8
      ++ Paint.apply color [.red, .bold] ("^" ++ Text.replicate tildes '~'.toUInt8)) := by
  unfold marks?
  dsimp only
  have within := Int.min_le_right ((start.column.toNat : Int) - 1) line.length
  have high : (if stop.line == start.line then min ((stop.column.toNat : Int) - 1) line.length
      else line.length) ≤ line.length := by
    split
    · exact Int.min_le_right _ _
    · exact Int.le_refl _
  generalize (if stop.line == start.line then min ((stop.column.toNat : Int) - 1) line.length
    else line.length) = last at high ⊢
  rw [cut?_eq_some (Int.le_refl 0) (by omega) within, Option.bind_eq_bind, Option.bind_some]
  by_cases ordered : min ((start.column.toNat : Int) - 1) line.length < last
  · rw [if_pos ordered, cut?_eq_some (by omega) (Int.le_of_lt ordered) high]
    exact ⟨_, _, rfl⟩
  · rw [if_neg ordered]
    exact ⟨_, _, rfl⟩

/-! ## Excerpts -/

theorem mapM_eq_some {α β : Type} {g : α → Option β} {h : α → β} {items : List α}
    (each : ∀ x ∈ items, g x = some (h x)) : items.mapM g = some (items.map h) := by
  induction items with
  | nil => rfl
  | cons x items ih =>
    have both := List.forall_mem_cons.mp each
    rw [List.mapM_cons, both.1, ih both.2]
    rfl

/-- Texts that are made of items, one of them in another way than the others. -/
theorem mapM_flatten {α : Type} {g : α → Option Text} {h : α → Text} {before after : List α} {x : α}
    {here : Text} (front : ∀ y ∈ before, g y = some (h y)) (middle : g x = some here)
    (rest : ∀ y ∈ after, g y = some (h y)) :
    (do let parts ← (before ++ x :: after).mapM g; return parts.flatten)
      = some (before.flatMap h ++ here ++ after.flatMap h) := by
  rw [List.mapM_append, List.mapM_cons, mapM_eq_some front, middle, mapM_eq_some rest]
  simp [List.flatMap_def]

/-- A line is read inside its file: the line feeds before and behind it are known, and it starts
before it ends. -/
structure ReadsInside (f : SourceFile) (n : Nat) : Prop where
  first : 1 ≤ n
  known : n - 1 ≤ f.lineFeeds.length
  ordered : f.lineStart (n - 1) ≤ (f.lineFeeds[n - 1]?).getD f.content.length
  inside : (f.lineFeeds[n - 1]?).getD f.content.length ≤ f.content.length

theorem readsInside {n : Nat} (indexed : f.Indexed) (first : 1 ≤ n) (last : n ≤ f.lineCount) :
    ReadsInside f n := by
  have before : n - 1 ≤ f.content.count 0x0A := by
    have count := SourceFile.lineCount_eq indexed
    omega
  have start := SourceFile.lineStart_eq indexed before
  have stop := SourceFile.lineEnd_eq indexed before
  have known : n - 1 ≤ f.lineFeeds.length := by
    rw [SourceFile.lineCount] at last
    omega
  refine ⟨first, known, ?_, ?_⟩
  · rw [start, stop]
    exact Nat.le_add_right _ _
  · rw [stop]
    exact Text.lineEnd_le before

section

variable (indexed : f.Indexed)

include indexed

theorem mem_linesAround {n around : Nat} :
    n ∈ linesAround f.content line.toNat around ↔
      (1 ≤ n ∧ n ≤ f.lineCount) ∧ line.toNat ≤ n + around ∧ n ≤ line.toNat + around := by
  rw [linesAround, List.mem_filter, List.mem_range'_1, decide_eq_true_eq,
    SourceFile.lineCount_eq indexed]
  omega

/-- The lines that are counted are those around a line of the file. -/
theorem lineNumbers?_eq (few : f.lineCount < 2 ^ 32) (first : 0 < line.toNat)
    (last : line.toNat ≤ f.lineCount) (sum : line.toNat + linesAsked context < 2 ^ 32)
    (stops : min (line.toNat + linesAsked context) f.lineCount < 2 ^ 32 - 1) :
    lineNumbers? f line context
      = some (linesAround f.content line.toNat (linesAsked context)) := by
  have count := SourceFile.lineCount_eq indexed
  obtain ⟨lower, upper⟩ := bounds_eq few first sum
  have ends : ¬ ((bounds f line context).2 == 0xFFFFFFFF) = true := by
    rw [beq_iff_eq, ← UInt32.toNat_inj, upper]
    change ¬ _ = 2 ^ 32 - 1
    omega
  change (if (bounds f line context).2 == 0xFFFFFFFF then none
    else some (List.range' (bounds f line context).1.toNat
      ((bounds f line context).2.toNat + 1 - (bounds f line context).1.toNat))) = _
  rw [if_neg ends, lower, upper, linesAround_eq first (by omega), count]

variable {s : ExcerptStyle} (whole : s.width ≤ 0)

include whole

/-- Lines that are not cut are shown as they are in the content. -/
theorem row_eq {columns n : Nat} (first : 1 ≤ n) (last : n ≤ f.lineCount) :
    row s f columns n = numbered s.color columns f.content n := by
  obtain ⟨n, rfl⟩ := Nat.exists_eq_add_of_le' first
  have known : n < f.lineCount := last
  rw [row, numbered, SourceFile.line_succ indexed known, if_neg (by omega), Nat.add_sub_cancel]

/-- Where no word wraps around on the way, an excerpt shows the lines around the one where its span
starts. -/
theorem showsAround {span : Span} (few : f.lineCount < 2 ^ 32)
    (first : 0 < (f.position span.start).line.toNat)
    (last : (f.position span.start).line.toNat ≤ f.lineCount)
    (column : 1 ≤ (f.position span.start).column.toNat)
    (sum : (f.position span.start).line.toNat + linesAsked s.context < 2 ^ 32)
    (stops : min ((f.position span.start).line.toNat + linesAsked s.context) f.lineCount
      < 2 ^ 32 - 1) :
    ShowsAround s f span (linesAsked s.context) := by
  have count := SourceFile.lineCount_eq indexed
  obtain ⟨-, upper⟩ := bounds_eq few first sum
  have numbers := lineNumbers?_eq indexed few first last sum stops
  obtain ⟨before, after, parts, notBefore, notAfter⟩ :=
    linesAround_split (linesAsked s.context) first (count ▸ last)
  obtain ⟨indent, tildes, marks⟩ := marks?_eq_some s.color
    (f.line (f.position span.start).line.toNat) (f.position span.stop) column
  refine ⟨before, after, indent, tildes, parts, ?_⟩
  generalize width : (Text.ofNat (min ((f.position span.start).line.toNat
    + linesAsked s.context) (f.content.count 0x0A + 1))).length = columns
  have shown : ∀ n ∈
      linesAround f.content (f.position span.start).line.toNat (linesAsked s.context),
      row s f columns n = numbered s.color columns f.content n := by
    intro n member
    obtain ⟨bounds, -⟩ := (mem_linesAround indexed).mp member
    exact row_eq indexed whole bounds.1 bounds.2
  unfold excerpt?
  rw [if_neg (by omega)]
  dsimp only
  rw [numbers, upper, count, width, Option.bind_eq_bind, Option.bind_some, parts]
  rw [parts] at shown
  apply mapM_flatten
  · intro n member
    have other : ¬ (n == (f.position span.start).line.toNat) = true := by
      rw [beq_iff_eq]
      exact fun same => notBefore (same ▸ member)
    rw [if_neg other, shown n (List.mem_append_left _ member)]
  · rw [if_pos (beq_self_eq_true _), marks, Option.map_some,
      shown _ (List.mem_append_right _ List.mem_cons_self), caretLine]
    simp only [List.append_assoc]
  · intro n member
    have other : ¬ (n == (f.position span.start).line.toNat) = true := by
      rw [beq_iff_eq]
      exact fun same => notAfter (same ▸ member)
    rw [if_neg other, shown n (List.mem_append_right _ (List.mem_cons_of_mem _ member))]

end

/-- The column of an offset wraps around only for the largest offset on the first line. -/
theorem one_le_column {offset : Nat} (indexed : f.Indexed) (word : offset < 2 ^ 32)
    (apart : offset < 2 ^ 32 - 1 ∨ 0x0A ∈ f.content.take offset) :
    1 ≤ (f.position offset).column.toNat := by
  rw [SourceFile.toNat_column indexed word]
  rcases apart with small | feed
  · omega
  · obtain ⟨n, before⟩ : ∃ n, f.feedsBefore offset = n + 1 :=
      Nat.exists_eq_add_of_le' (List.count_pos_iff.mpr feed)
    have start : 1 ≤ f.content.lineStart (n + 1) := by
      rw [Text.lineStart_succ]
      · exact Nat.le_add_left 1 _
      · have known := f.feedsBefore_le offset
        rw [Text.length_lines]
        omega
    rw [before]
    omega

/-- The excerpt of a span in a file of a set shows the lines that are at most as far from the line
of its start as the context asks for, with one line of marks behind that line, and every line is
read inside the file.  A context that is no word asks for no further lines. -/
theorem excerpt?_shows_around {files : FileSet} (built : files.Built) {s : ExcerptStyle}
    {span : Span} (known : files.get? span.file = some f) (word : span.start < 2 ^ 32)
    (whole : s.width ≤ 0) (few : f.content.count 0x0A + 1 < 2 ^ 32)
    (column : span.start < 2 ^ 32 - 1 ∨ 0x0A ∈ f.content.take span.start)
    (sum : (f.content.take span.start).count 0x0A + 1 + linesAsked s.context < 2 ^ 32)
    (stops : min ((f.content.take span.start).count 0x0A + 1 + linesAsked s.context)
      (f.content.count 0x0A + 1) < 2 ^ 32 - 1) :
    (f.position span.start).line.toNat = (f.content.take span.start).count 0x0A + 1
      ∧ ShowsAround s f span (linesAsked s.context)
      ∧ ∀ n ∈ linesAround f.content (f.position span.start).line.toNat (linesAsked s.context),
        ReadsInside f n := by
  have indexed := built.indexed known
  have count := SourceFile.lineCount_eq indexed
  rw [← count] at few stops
  have line := SourceFile.toNat_line indexed span.start few
  have inside := f.feedsBefore_le span.start
  refine ⟨line, ?_, ?_⟩
  · apply showsAround indexed whole few
    · omega
    · omega
    · exact one_le_column indexed word column
    · rw [line]
      exact sum
    · rw [line]
      exact stops
  · intro n member
    obtain ⟨⟨first, last⟩, -⟩ := (mem_linesAround indexed).mp member
    exact readsInside indexed first last

/-- A span behind the end of a file that ends before it starts. -/
theorem excerpt?_shows_around_beyond :
    let files := (FileSet.empty.add "a" "a\nb\nc" .none).1
    let f := SourceFile.ofContent 0 "a" "a\nb\nc" .none
    files.Built ∧ files.get? 0 = some f
      ∧ excerpt? { context := 1 } f ⟨0, 9, 4⟩ = some "2 | b\n3 | c\n  |  ^\n"
      ∧ ShowsAround { context := 1 } f ⟨0, 9, 4⟩ 1 ∧ ReadsInside f 2 ∧ ReadsInside f 3 := by
  intro files f
  have built : files.Built := .add .empty _ _ _
  have known : files.get? 0 = some f := rfl
  have lines : f.content.count 0x0A = 2 := by decide +kernel
  have before : (f.content.take 9).count 0x0A = 2 := by decide +kernel
  have asked : linesAsked 1 = 1 := by decide
  obtain ⟨-, shows_, inside⟩ := @excerpt?_shows_around f files built { context := 1 } ⟨0, 9, 4⟩
    known (by decide) (by decide) (by omega) (.inl (by decide))
    (by rw [before, asked]; decide) (by rw [before, lines, asked]; decide)
  have two : 2 ∈ linesAround f.content (f.position 9).line.toNat (linesAsked 1) := by decide +kernel
  have three : 3 ∈ linesAround f.content (f.position 9).line.toNat (linesAsked 1) := by
    decide +kernel
  exact ⟨built, known, by decide +kernel, shows_, inside 2 two, inside 3 three⟩

/-- A context that is no word asks for the line of the span alone.  One that is a word, but has no
word behind it, shows nothing at all, and below the largest column there are no marks. -/
theorem not_showsAround_of_large_context :
    let f := SourceFile.ofContent 0 "a" "a\nb\nc" .none
    ¬ ShowsAround { context := 2 ^ 32 } f ⟨0, 2, 3⟩ (2 ^ 32)
      ∧ excerpt? { context := 2 ^ 32 - 1 } f ⟨0, 2, 3⟩ = some []
      ∧ excerpt? {} (SourceFile.ofContent 0 "a" "a" .none) ⟨0, 2 ^ 32 - 1, 2 ^ 32 - 1⟩ = none := by
  intro f
  refine ⟨?_, by decide +kernel, by decide +kernel⟩
  rintro ⟨before, after, indent, tildes, parts, shows_⟩
  have around : linesAround f.content (f.position 2).line.toNat (2 ^ 32) = [1, 2, 3] := by
    decide +kernel
  have here : (f.position 2).line.toNat = 2 := by decide +kernel
  have columns : (Text.ofNat (min (2 + 2 ^ 32) (f.content.count 0x0A + 1))).length = 1 := by
    decide +kernel
  have first : numbered false 1 f.content 1 = "1 | a\n" := by decide +kernel
  have alone : excerpt? { context := 2 ^ 32 } f ⟨0, 2, 3⟩ = some "2 | b\n  | ^\n" := by
    decide +kernel
  rw [around, here] at parts
  rw [alone, here, columns] at shows_
  cases before with
  | nil => cases parts
  | cons n before =>
    obtain rfl : 1 = n := (List.cons.inj parts).1
    rw [List.flatMap_cons, first] at shows_
    have head := (List.cons.inj (Option.some.inj shows_)).1
    revert head
    decide

end Excerpt

end Report

end TemplateCompiler
