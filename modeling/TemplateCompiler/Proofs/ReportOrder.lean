import Mathlib.Data.List.Pairwise
import TemplateCompiler.Proofs.Relocation

/-!
# The order of findings

Findings are put in order by the number of their file first, and sorting is stable.  So new numbers
for files leave the findings of each file in their sequence (`Diagnostic.filter_sorted_renumber`).
The sequence of all findings stays the same exactly if the new numbers are in the order of the old
ones (`Diagnostic.sorted_renumber_iff`).
-/

namespace TemplateCompiler

/-! ## Stable sorting -/

section Sorting

variable {α : Type} {le : α → α → Bool}
  (trans : ∀ a b c, le a b = true → le b c = true → le a c = true)
  (total : ∀ a b, (le a b || le b a) = true)

theorem takeWhile_filter (keep : α → Bool) {first : α → Bool} {l : List α}
    (parted : l.Pairwise fun x y => first y = true → first x = true) :
    (l.filter keep).takeWhile first = (l.takeWhile first).filter keep
      ∧ (l.filter keep).dropWhile first = (l.dropWhile first).filter keep := by
  induction l with
  | nil => exact ⟨rfl, rfl⟩
  | cons x l ih =>
    have both := List.pairwise_cons.mp parted
    have rest := ih both.2
    cases kept : keep x <;> cases start : first x
    · have others : ∀ y ∈ l.filter keep, ¬first y = true := by
        intro y member yes
        rw [both.1 y (List.mem_filter.mp member).1 yes] at start
        cases start
      have none : (l.filter keep).takeWhile first = [] := by
        cases found : l.filter keep with
        | nil => rfl
        | cons y ys => exact List.takeWhile_cons_of_neg (others y (found ▸ List.mem_cons_self))
      have all : (l.filter keep).dropWhile first = l.filter keep := by
        cases found : l.filter keep with
        | nil => rfl
        | cons y ys => exact List.dropWhile_cons_of_neg (others y (found ▸ List.mem_cons_self))
      simp [kept, start, none, all]
    · simp [kept, start, rest]
    · simp [kept, start]
    · simp [kept, start, rest]

include trans total

/-- The first of some items is inserted into the others in front of those that are not smaller. -/
theorem mergeSort_cons_eq (a : α) (l : List α) :
    (a :: l).mergeSort le = (l.mergeSort le).takeWhile (fun b => !le a b)
      ++ a :: (l.mergeSort le).dropWhile (fun b => !le a b) := by
  obtain ⟨before, after, sorted, rest, smaller⟩ := List.mergeSort_cons trans total a l
  have ordered := List.pairwise_mergeSort trans total (a :: l)
  rw [sorted] at ordered ⊢
  have behind := (List.pairwise_cons.mp (List.pairwise_append.mp ordered).2.1).1
  rw [rest, List.takeWhile_append_of_pos smaller, List.dropWhile_append_of_pos smaller]
  cases after with
  | nil => rw [List.takeWhile_nil, List.dropWhile_nil, List.append_nil]
  | cons b after =>
    simp [behind b List.mem_cons_self]

/-- Sorting keeps the sequence of what it does not compare.  The first item is inserted between two
parts of the sorted others, and these parts are filtered as they are. -/
theorem filter_mergeSort (keep : α → Bool) (l : List α) :
    (l.mergeSort le).filter keep = (l.filter keep).mergeSort le := by
  induction l with
  | nil => rw [List.filter_nil, List.mergeSort_nil, List.filter_nil]
  | cons a l ih =>
    have parted : (l.mergeSort le).Pairwise fun x y => (!le a y) = true → (!le a x) = true := by
      refine (List.pairwise_mergeSort trans total l).imp fun {x y} ordered greater => ?_
      rw [Bool.not_eq_true'] at greater ⊢
      refine Bool.eq_false_iff.mpr fun smaller => ?_
      rw [trans a x y smaller ordered] at greater
      cases greater
    have parts := takeWhile_filter keep parted
    rw [mergeSort_cons_eq trans total, List.filter_append]
    cases kept : keep a with
    | true =>
      rw [List.filter_cons_of_pos kept, List.filter_cons_of_pos kept,
        mergeSort_cons_eq trans total, ← ih, parts.1, parts.2]
    | false =>
      have dropped : ¬keep a = true := by rw [kept]; decide
      rw [List.filter_cons_of_neg dropped, List.filter_cons_of_neg dropped, ← ih,
        ← List.filter_append, List.takeWhile_append_dropWhile]

end Sorting

namespace Diagnostic

/-! ## The order -/

/-- What findings are compared by, in the order of its importance. -/
def rank (d : Diagnostic) : List Int :=
  match d.span? with
  | none => []
  | some s => s.file :: s.start :: s.stop :: -d.severity.ordinal
      :: d.code.id.map fun b => (b.toNat : Int)

theorem compareNat_eq (a b : Nat) : compareNat a b = Ord.compare (a : Int) (b : Int) := by
  change _ = compareOfLessAndEq (a : Int) (b : Int)
  rw [compareNat, compareOfLessAndEq]
  grind

theorem compareNat_self (a : Nat) : compareNat a a = .eq := by
  rw [compareNat, if_neg (Nat.lt_irrefl a), if_neg (Nat.lt_irrefl a)]

theorem compareText_eq (s t : Text) :
    Text.compare s t =
      Ord.compare (s.map fun b => (b.toNat : Int)) (t.map fun b => (b.toNat : Int)) := by
  induction s generalizing t with
  | nil => cases t <;> rfl
  | cons a s ih =>
    cases t with
    | nil => rfl
    | cons b t =>
      have bytes : (if a < b then Ordering.lt else if b < a then .gt else .eq) =
          Ord.compare (a.toNat : Int) (b.toNat : Int) := compareNat_eq a.toNat b.toNat
      rw [Text.compare, List.map_cons, List.map_cons, List.compare_cons_cons, ← bytes, ih]
      split
      · rfl
      · split <;> rfl

theorem compare_neg (a b : Int) : Ord.compare (-a) (-b) = Ord.compare b a := by
  change compareOfLessAndEq (-a) (-b) = compareOfLessAndEq b a
  rw [compareOfLessAndEq, compareOfLessAndEq]
  grind

theorem compare_eq_rank (d e : Diagnostic) : d.compare e = Ord.compare d.rank e.rank := by
  rw [compare, rank, rank]
  cases d.span? <;> cases e.span?
  · rfl
  · rfl
  · rfl
  · simp only [List.compare_cons_cons, compareNat_eq, compareText_eq, compare_neg]

/-- The number of the file that a finding is in. -/
def file? (d : Diagnostic) : Option Nat := d.span?.map Span.file

/-- Whether one finding may come in front of another. -/
def le (d e : Diagnostic) : Bool := d.compare e != .gt

theorem le_eq (d e : Diagnostic) : d.le e = (Ord.compare d.rank e.rank).isLE := by
  rw [le, compare_eq_rank]
  cases Ord.compare d.rank e.rank <;> rfl

theorem sorted_eq (ds : List Diagnostic) : sorted ds = ds.mergeSort le := rfl

theorem le_trans (d e f : Diagnostic) (first : d.le e = true) (second : e.le f = true) :
    d.le f = true := by
  rw [le_eq] at first second ⊢
  exact Std.TransCmp.isLE_trans first second

theorem le_total (d e : Diagnostic) : (d.le e || e.le d) = true := by
  have reversed : Ord.compare e.rank d.rank = (Ord.compare d.rank e.rank).swap :=
    Std.OrientedCmp.eq_swap
  rw [le_eq, le_eq, reversed]
  cases Ord.compare d.rank e.rank <;> rfl

theorem file_le_of_le {d e : Diagnostic} (ordered : d.le e = true) {i j : Nat} (here : i ∈ d.file?)
    (there : j ∈ e.file?) : i ≤ j := by
  obtain ⟨s, first, rfl⟩ := Option.map_eq_some_iff.mp here
  obtain ⟨t, second, rfl⟩ := Option.map_eq_some_iff.mp there
  refine Nat.le_of_not_lt fun greater => ?_
  have behind : compareNat s.file t.file = .gt := by
    rw [compareNat, if_neg (Nat.lt_asymm greater), if_pos greater]
  rw [le, compare, first, second] at ordered
  dsimp only at ordered
  rw [behind] at ordered
  cases ordered

/-! ## New numbers -/

section Renumber

variable {number : Nat → Nat} (injective : number.Injective)

theorem file?_renumber (d : Diagnostic) :
    ((Relocation.renumber number).finding d).file? = d.file?.map number := by
  rw [file?, file?, Relocation.finding, Option.map_map, Option.map_map]
  rfl

/-- What findings are compared by behind the number of the file does not change. -/
theorem le_renumber {d e : Diagnostic}
    (same : ∀ i ∈ d.file?, ∀ j ∈ e.file?, compareNat (number i) (number j) = compareNat i j) :
    ((Relocation.renumber number).finding d).le ((Relocation.renumber number).finding e) =
      d.le e := by
  rw [le, le, compare, compare]
  cases first : d.span? with
  | none =>
    cases second : e.span? with
    | none => simp only [Relocation.finding, first, second]; rfl
    | some t => simp only [Relocation.finding, first, second]; rfl
  | some s =>
    cases second : e.span? with
    | none => simp only [Relocation.finding, first, second]; rfl
    | some t =>
      have files := same s.file (by rw [file?, first]; rfl) t.file (by rw [file?, second]; rfl)
      simp only [Relocation.finding, first, second, Option.map_some, Relocation.renumber, files]

include injective

/-- The findings of each file keep their sequence. -/
theorem filter_sorted_renumber (ds : List Diagnostic) (i? : Option Nat) :
    (sorted (ds.map (Relocation.renumber number).finding)).filter
        (fun d => d.file? == i?.map number) =
      ((sorted ds).filter (fun d => d.file? == i?)).map (Relocation.renumber number).finding := by
  have chosen : (fun d => d.file? == i?.map number) ∘ (Relocation.renumber number).finding =
      fun d : Diagnostic => d.file? == i? := by
    funext d
    rw [Function.comp_apply, file?_renumber, Bool.eq_iff_iff, beq_iff_eq, beq_iff_eq]
    exact (Option.map_injective injective).eq_iff
  rw [sorted_eq, sorted_eq, filter_mergeSort le_trans le_total, filter_mergeSort le_trans le_total,
    List.filter_map, chosen]
  refine (List.map_mergeSort fun d member e member' => ?_).symm
  have first := eq_of_beq (List.mem_filter.mp member).2
  have second := eq_of_beq (List.mem_filter.mp member').2
  refine (le_renumber fun i here j there => ?_).symm
  rw [Option.mem_def, first] at here
  rw [Option.mem_def, second, here] at there
  cases there
  rw [compareNat_self, compareNat_self]

/-- All findings keep their sequence exactly if the new numbers of their files are in the order of
the old ones. -/
theorem sorted_renumber_iff (ds : List Diagnostic) :
    sorted (ds.map (Relocation.renumber number).finding) =
        (sorted ds).map (Relocation.renumber number).finding ↔
      ∀ d ∈ ds, ∀ e ∈ ds, ∀ i ∈ d.file?, ∀ j ∈ e.file?, i < j → number i < number j := by
  constructor
  · intro same
    -- Both sequences are ordered, so no two findings of different files may change places.
    let Kept (d e : Diagnostic) : Prop :=
      ∀ i ∈ d.file?, ∀ j ∈ e.file?, i < j → number i < number j
    have ordered := List.pairwise_mergeSort le_trans le_total ds
    have ordered' := List.pairwise_mergeSort le_trans le_total
      (ds.map (Relocation.renumber number).finding)
    rw [← sorted_eq, same, List.pairwise_map] at ordered'
    have pairs : (sorted ds).Pairwise fun d e => Kept d e ∧ Kept e d := by
      refine (ordered.and ordered').imp fun {d e} both => ⟨?_, ?_⟩
      · intro i here j there smaller
        have moved := file_le_of_le both.2 (i := number i) (j := number j)
          (by rw [file?_renumber]; exact Option.mem_map_of_mem number here)
          (by rw [file?_renumber]; exact Option.mem_map_of_mem number there)
        exact Nat.lt_of_le_of_ne moved fun equal => Nat.ne_of_lt smaller (injective equal)
      · intro i here j there smaller
        exact absurd (file_le_of_le both.1 there here) (Nat.not_le_of_lt smaller)
    have symmetric : Std.Symm fun d e => Kept d e ∧ Kept e d := ⟨fun _ _ both => both.symm⟩
    have own : ∀ d ∈ sorted ds, Kept d d ∧ Kept d d := by
      have irreflexive : ∀ d, Kept d d := by
        intro d i here j there smaller
        cases Option.mem_unique here there
        exact absurd smaller (Nat.lt_irrefl i)
      exact fun d _ => ⟨irreflexive d, irreflexive d⟩
    intro d member e member'
    exact (pairs.forall_of_forall own (List.mem_mergeSort.mpr member)
      (List.mem_mergeSort.mpr member')).1
  · intro keeps
    refine (List.map_mergeSort fun d member e member' => ?_).symm
    refine (le_renumber fun i here j there => ?_).symm
    rcases Nat.lt_trichotomy i j with smaller | rfl | greater
    · have moved := keeps d member e member' i here j there smaller
      rw [compareNat, compareNat, if_pos smaller, if_pos moved]
    · rw [compareNat_self, compareNat_self]
    · have moved := keeps e member' d member j there i here greater
      rw [compareNat, compareNat, if_neg (Nat.lt_asymm greater), if_neg (Nat.lt_asymm moved),
        if_pos greater, if_pos moved]

end Renumber

end Diagnostic

end TemplateCompiler
