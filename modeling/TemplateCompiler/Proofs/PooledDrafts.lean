import Mathlib.Data.List.Induction
import Mathlib.Data.List.Nodup
import TemplateCompiler.TagHelper.Pool

/-!
# Drafts of a pool

Whoever fills in drafts of a pool cannot tell them from new ones.  What new ones would be like is
stated by a `Ledger`, which has a draft of its own for every lease.  A pool stands for the ledger
that is read off its forms (`TagHelper.Stock.ledger`), and each call changes and answers for one as
it does for the other (`TagHelper.Pool.ledger_call`), so they agree after any calls
(`TagHelper.Pool.call_after`).
-/

namespace TemplateCompiler

namespace TagHelper

/-- For every lease the draft that it would have if drafts were never used again; nothing once it
was released. -/
abbrev Ledger := List (Option Draft)

namespace Stock

variable {s : Stock}

/-! ## Drafts of leases -/

/-- Handing out a form changes none that was made before. -/
theorem getElem?_forms_get {i : Nat} (inside : i < s.forms.length) :
    s.get.1.forms[i]? = s.forms[i]? := by
  cases ready : s.free with
  | nil => grind [Stock.get]
  | cons j rest => grind [Stock.get]

/-- A new lease has a cleared draft, and the others have theirs. -/
theorem Sound.draft?_get (sound : s.Sound) (m : Lease) :
    s.get.1.draft? m = if m = s.get.2 then some {} else s.draft? m := by
  rw [draft?, held?_get]
  by_cases new : m = s.get.2
  · rw [if_pos new, if_pos new]
    cases ready : s.free with
    | nil =>
      have forms : s.get.1.forms = s.forms ++ [({} : Form)] := by rw [Stock.get, ready]
      simp [forms, Form.draft, Slots.toList]
    | cons i rest =>
      have forms : s.get.1.forms = s.forms := by rw [Stock.get, ready]
      rw [forms]
      exact sound.cleared i (by simp [ready])
  · rw [if_neg new, if_neg new, draft?]
    cases holds : s.held? m with
    | none => rfl
    | some i => simp [getElem?_forms_get (sound.made holds)]

/-- The form of a lease is changed and those of the others are not. -/
theorem Sound.draft?_edit? (sound : s.Sound) {t : Stock} {l : Lease} {change : Draft → Draft}
    (edited : s.edit? l change = some t) (m : Lease) :
    t.draft? m = if m = l then (s.draft? l).map change else s.draft? m := by
  have held := held?_edit? edited m
  rcases Option.map_eq_some_iff.mp edited with ⟨i, holds, rfl⟩
  rw [draft?, held]
  by_cases own : m = l
  · subst own
    simp [draft?, holds, Function.comp_def]
  · rw [if_neg own, draft?]
    cases other : s.held? m with
    | none => rfl
    | some j =>
      have apart : i ≠ j := fun same => own (sound.own other (same ▸ holds))
      simp [List.getElem?_modify, apart, Function.comp_def]

theorem Sound.draft?_release (sound : s.Sound) (l m : Lease) :
    (s.release l).draft? m = if m = l then none else s.draft? m := by
  rw [draft?, held?_release]
  by_cases own : m = l
  · rw [if_pos own, if_pos own]
    rfl
  · rw [if_neg own, if_neg own, draft?]
    cases other : s.held? m with
    | none => rfl
    | some j =>
      rw [Stock.release]
      split
      · rfl
      case h_2 i holds =>
        have apart : i ≠ j := fun same => own (sound.own other (same ▸ holds))
        simp [List.getElem?_modify, apart, Function.comp_def]

/-- A lease has a draft as long as it has a form. -/
theorem Sound.draft?_eq_none_iff (sound : s.Sound) {l : Lease} :
    s.draft? l = none ↔ s.held? l = none := by
  rw [draft?, Option.bind_eq_none_iff]
  refine ⟨fun none => Option.eq_none_iff_forall_ne_some.mpr fun i held => ?_, fun none i held => ?_⟩
  · have outside := Option.map_eq_none_iff.mp (none i held)
    exact absurd (sound.made held) (Nat.not_lt.mpr (List.getElem?_eq_none_iff.mp outside))
  · rw [none] at held
    cases held

theorem Sound.edit?_eq_none_iff (sound : s.Sound) {l : Lease} {change : Draft → Draft} :
    s.edit? l change = none ↔ s.draft? l = none :=
  Option.map_eq_none_iff.trans sound.draft?_eq_none_iff.symm

/-- What is built is what the same filling in makes of a fresh draft. -/
theorem Sound.build_snd (sound : s.Sound) (fill : Draft → Draft) :
    (s.build fill).2 = (fill {}).build := by
  rcases s.edit?_get fill with ⟨filled, edited⟩
  have draft : filled.draft? s.get.2 = some (fill {}) := by
    rw [sound.get.draft?_edit? edited, if_pos rfl, sound.draft?_get, if_pos rfl]
    rfl
  simp only [Stock.build, edited, draft, Option.getD_some]

/-- The leases that have a form are as many as are counted. -/
theorem Sound.exists_holders (sound : s.Sound) :
    ∃ holders : List Lease, holders.Nodup ∧ (∀ l, l ∈ holders ↔ (s.held? l).isSome) ∧
      s.leased = holders.length := by
  let numbers := (List.range s.leases.length).filter fun n => (s.held? ⟨n⟩).isSome
  refine ⟨numbers.map Lease.mk, ?_, fun l => ?_, ?_⟩
  · exact List.Nodup.map (fun _ _ same => Lease.mk.inj same) (List.nodup_range.filter _)
  · constructor
    · intro member
      rcases List.mem_map.mp member with ⟨n, there, rfl⟩
      exact (List.mem_filter.mp there).2
    · intro held
      refine List.mem_map.mpr ⟨l.number, List.mem_filter.mpr ⟨?_, held⟩, rfl⟩
      by_contra outside
      rw [List.mem_range, Nat.not_lt] at outside
      rw [held?, List.getElem?_eq_none outside] at held
      cases held
  · have listed : s.leases = (List.range s.leases.length).map fun n => s.held? ⟨n⟩ := by
      refine List.ext_getElem (by simp) fun n inside _ => ?_
      simp [held?, inside]
    rw [sound.counted, List.length_map, ← List.countP_eq_length_filter]
    conv_lhs => rw [listed, List.countP_map]
    rfl

/-! ## Ledgers -/

def ledger (s : Stock) : Ledger :=
  s.leases.map fun held => held.bind fun i => (s.forms[i]?).map Form.draft

theorem length_ledger (s : Stock) : s.ledger.length = s.leases.length := List.length_map _

theorem join_getElem?_ledger (s : Stock) (l : Lease) :
    (s.ledger[l.number]?).join = s.draft? l := by
  rw [ledger, List.getElem?_map, draft?, held?]
  cases s.leases[l.number]? with
  | none => rfl
  | some held => rfl

/-- A ledger is known by its length and the drafts in it. -/
theorem ledger_eq {drafts : Ledger} (length : s.leases.length = drafts.length)
    (same : ∀ l : Lease, s.draft? l = (drafts[l.number]?).join) : s.ledger = drafts := by
  refine List.ext_getElem (s.length_ledger.trans length) fun n inside inside' => ?_
  have entry := (s.join_getElem?_ledger ⟨n⟩).trans (same ⟨n⟩)
  rw [List.getElem?_eq_getElem inside, List.getElem?_eq_getElem inside'] at entry
  exact entry

theorem length_leases_get (s : Stock) : s.get.1.leases.length = s.leases.length + 1 := by
  rw [get]
  split <;> exact List.length_append

theorem length_leases_edit? {t : Stock} {l : Lease} {change : Draft → Draft}
    (edited : s.edit? l change = some t) : t.leases.length = s.leases.length := by
  rcases Option.map_eq_some_iff.mp edited with ⟨i, -, rfl⟩
  rfl

theorem length_leases_release (s : Stock) (l : Lease) :
    (s.release l).leases.length = s.leases.length := by
  rw [release]
  split
  · rfl
  · exact List.length_set

/-- Leases are numbered in the order in which they were handed out. -/
theorem number_get (s : Stock) : s.get.2.number = s.leases.length := by
  rw [get]
  split <;> rfl

theorem Sound.ledger_get (sound : s.Sound) : s.get.1.ledger = s.ledger ++ [some ({} : Draft)] := by
  refine ledger_eq (by simp [length_leases_get, length_ledger]) fun l => ?_
  rw [sound.draft?_get, ← s.join_getElem?_ledger]
  have new : l = s.get.2 ↔ l.number = s.leases.length := by
    rw [← s.number_get]
    exact ⟨congrArg _, Lease.ext⟩
  grind [length_ledger]

theorem Sound.ledger_edit? (sound : s.Sound) {t : Stock} {l : Lease} {change : Draft → Draft}
    (edited : s.edit? l change = some t) :
    t.ledger = s.ledger.set l.number ((s.draft? l).map change) := by
  refine ledger_eq (by simp [length_leases_edit? edited, length_ledger]) fun m => ?_
  rw [sound.draft?_edit? edited, ← s.join_getElem?_ledger m]
  have own : m = l ↔ m.number = l.number := ⟨congrArg _, Lease.ext⟩
  have entry := s.join_getElem?_ledger l
  grind

theorem Sound.ledger_release (sound : s.Sound) (l : Lease) :
    (s.release l).ledger = s.ledger.set l.number none := by
  refine ledger_eq (by simp [length_leases_release, length_ledger]) fun m => ?_
  rw [sound.draft?_release, ← s.join_getElem?_ledger m]
  have own : m = l ↔ m.number = l.number := ⟨congrArg _, Lease.ext⟩
  grind

/-- The lease of a build is over when the build is. -/
theorem Sound.ledger_build (sound : s.Sound) (fill : Draft → Draft) :
    (s.build fill).1.ledger = s.ledger ++ [none] := by
  rcases s.edit?_get fill with ⟨filled, edited⟩
  simp only [Stock.build, edited, Option.getD_some]
  rw [(sound.get.edit? edited).ledger_release, sound.get.ledger_edit? edited, sound.ledger_get,
    number_get, ← length_ledger]
  simp

end Stock

namespace Pool

/-- A form of a pool is filled in like a new one. -/
theorem build_eq (p : Pool) (fill : Draft → Draft) : (p.build fill).2 = (fill {}).build :=
  p.sound.build_snd fill

end Pool

/-! ## Calls -/

/-- What a pool is asked for.  The calls that change or build a draft name the lease that was given
out for it. -/
inductive Call where
  | get
  | release (l : Lease)
  /-- Fill in something on the draft of a lease. -/
  | edit (l : Lease) (change : Draft → Draft)
  /-- Build the draft of a lease. -/
  | finish (l : Lease)
  /-- Build from a draft that is given back at once. -/
  | build (fill : Draft → Draft)

/-- What a pool answers to a call: a lease, a descriptor, or that the lease has no draft any more.
-/
inductive Answer where
  | lease (l : Lease)
  | done
  /-- The lease has no draft. -/
  | refused
  | helper (h : TagHelper)

def Pool.call (p : Pool) : Call → Pool × Answer
  | .get => (p.get.1, .lease p.get.2)
  | .release l => (p.release l, .done)
  | .edit l change =>
    match p.edit? l change with
    | some filled => (filled, .done)
    | none => (p, .refused)
  | .finish l => (p, ((p.draft? l).map fun d => .helper d.build).getD .refused)
  | .build fill => ((p.build fill).1, .helper (p.build fill).2)

/-- Make a call where every draft is a new one. -/
def Ledger.call (drafts : Ledger) : Call → Ledger × Answer
  | .get => (drafts ++ [some {}], .lease ⟨drafts.length⟩)
  | .release l => (drafts.set l.number none, .done)
  | .edit l change =>
    match (drafts[l.number]?).join with
    | some d => (drafts.set l.number (some (change d)), .done)
    | none => (drafts, .refused)
  | .finish l => (drafts, (((drafts[l.number]?).join).map fun d => .helper d.build).getD .refused)
  | .build fill => (drafts ++ [none], .helper (fill {}).build)

def Pool.after (calls : List Call) : Pool := calls.foldl (fun p c => (p.call c).1) {}

def Ledger.after (calls : List Call) : Ledger := calls.foldl (fun drafts c => (drafts.call c).1) []

/-- A lease that one of the calls was answered with. -/
def HandedOut (calls : List Call) (l : Lease) : Prop :=
  ∃ before later, calls = before ++ .get :: later ∧ (Pool.after before).get.2 = l

/-- A lease that was handed out and has not been released since. -/
def Live (calls : List Call) (l : Lease) : Prop :=
  ∃ before later, calls = before ++ .get :: later ∧ (Pool.after before).get.2 = l ∧
    .release l ∉ later

theorem Pool.after_concat (calls : List Call) (c : Call) :
    Pool.after (calls ++ [c]) = ((Pool.after calls).call c).1 := List.foldl_append

theorem Ledger.after_concat (calls : List Call) (c : Call) :
    Ledger.after (calls ++ [c]) = ((Ledger.after calls).call c).1 := List.foldl_append

theorem Ledger.length_le_call (drafts : Ledger) (c : Call) :
    drafts.length ≤ (drafts.call c).1.length := by
  cases c with
  | get => simp [Ledger.call]
  | release l => simp [Ledger.call]
  | edit l change =>
    rw [Ledger.call]
    split <;> simp
  | finish l => exact Nat.le_refl _
  | build fill => simp [Ledger.call]

/-! ### The ledger of a pool -/

theorem Pool.edit?_eq (p : Pool) (l : Lease) (change : Draft → Draft) :
    (p.edit? l change).map Pool.toStock = p.toStock.edit? l change := by
  rw [edit?, Option.map_map]
  exact Option.attach_map_subtype_val _

/-- A pool answers like its ledger and changes like it. -/
theorem Pool.ledger_call (p : Pool) (c : Call) :
    ((p.call c).1.ledger, (p.call c).2) = p.ledger.call c := by
  cases c with
  | get =>
    have number : p.toStock.get.2 = ⟨p.ledger.length⟩ :=
      Lease.ext (p.number_get.trans p.length_ledger.symm)
    exact Prod.ext p.sound.ledger_get (congrArg Answer.lease number)
  | release l => exact congrArg (·, Answer.done) (p.sound.ledger_release l)
  | edit l change =>
    have stock := p.edit?_eq l change
    rw [call, Ledger.call, p.join_getElem?_ledger]
    cases edited : p.edit? l change with
    | none =>
      rw [edited, Option.map_none, eq_comm, p.sound.edit?_eq_none_iff] at stock
      rw [stock]
    | some filled =>
      rw [edited, Option.map_some, eq_comm] at stock
      have ledger := p.sound.ledger_edit? stock
      cases held : p.draft? l with
      | none =>
        rw [p.sound.edit?_eq_none_iff.mpr held] at stock
        cases stock
      | some d =>
        rw [held] at ledger
        exact congrArg (·, Answer.done) ledger
  | finish l => rw [call, Ledger.call, p.join_getElem?_ledger]
  | build fill =>
    exact Prod.ext (p.sound.ledger_build fill) (congrArg Answer.helper (p.build_eq fill))

theorem Pool.ledger_after (calls : List Call) : (Pool.after calls).ledger = Ledger.after calls := by
  induction calls using List.reverseRecOn with
  | nil => rfl
  | append_singleton calls c ih =>
    rw [Pool.after_concat, Ledger.after_concat, ← ih]
    exact congrArg Prod.fst ((Pool.after calls).ledger_call c)

/-! ### Leases that are live -/

/-- The forms of the leases after a call.  A new lease has a number that none had before. -/
theorem Pool.held?_call (p : Pool) (c : Call) (l : Lease) :
    ((p.call c).1.held? l).isSome ↔
      (p.held? l).isSome ∧ c ≠ .release l ∨ c = .get ∧ p.get.2 = l := by
  have fresh : p.held? p.toStock.get.2 = none := by
    rw [Stock.held?, p.number_get, List.getElem?_eq_none (Nat.le_refl _), Option.join_none]
  cases c with
  | get =>
    change (p.toStock.get.1.held? l).isSome ↔ _ ∨ _ ∧ p.toStock.get.2 = l
    rw [Stock.held?_get]
    by_cases new : l = p.toStock.get.2
    · simp [new]
    · simp [new, Ne.symm new]
  | release m =>
    change ((p.toStock.release m).held? l).isSome ↔ _
    rw [Stock.held?_release]
    by_cases own : l = m
    · simp [own]
    · simp [own, Ne.symm own]
  | edit m change =>
    have stock := p.edit?_eq m change
    rw [call]
    cases edited : p.edit? m change with
    | none => simp
    | some filled =>
      rw [edited, Option.map_some, eq_comm] at stock
      have same := Stock.held?_edit? stock l
      simp [same]
  | finish m => simp [call]
  | build fill =>
    rcases p.edit?_get fill with ⟨filled, edited⟩
    change ((p.toStock.build fill).1.held? l).isSome ↔ _
    simp only [Stock.build, edited, Option.getD_some]
    rw [Stock.held?_release]
    by_cases new : l = p.toStock.get.2
    · simp [new, fresh]
    · rw [if_neg new, Stock.held?_edit? edited, Stock.held?_get, if_neg new]
      simp

theorem live_concat {calls : List Call} {c : Call} {l : Lease} :
    Live (calls ++ [c]) l ↔
      Live calls l ∧ c ≠ .release l ∨ c = .get ∧ (Pool.after calls).get.2 = l := by
  constructor
  · rintro ⟨before, later, split, handed, kept⟩
    rcases List.eq_nil_or_concat later with rfl | ⟨later, d, rfl⟩
    · rcases List.append_inj' split rfl with ⟨rfl, last⟩
      exact .inr ⟨(List.cons.inj last).1, handed⟩
    · rw [List.concat_eq_append, ← List.cons_append, ← List.append_assoc] at split
      rcases List.append_inj' split rfl with ⟨rfl, last⟩
      cases last
      rw [List.concat_eq_append, List.mem_append, List.mem_singleton, not_or] at kept
      exact .inl ⟨⟨before, later, rfl, handed, kept.1⟩, Ne.symm kept.2⟩
  · rintro (⟨⟨before, later, rfl, handed, kept⟩, other⟩ | ⟨rfl, handed⟩)
    · exact ⟨before, later ++ [c], by simp, handed, by simpa [kept] using other.symm⟩
    · exact ⟨calls, [], rfl, handed, List.not_mem_nil⟩

/-- The leases with a form are the ones that are live. -/
theorem held?_after_iff (calls : List Call) (l : Lease) :
    ((Pool.after calls).held? l).isSome ↔ Live calls l := by
  induction calls using List.reverseRecOn with
  | nil =>
    refine ⟨fun held => absurd held Bool.false_ne_true, ?_⟩
    rintro ⟨before, later, split, -⟩
    simp at split
  | append_singleton calls c ih => rw [Pool.after_concat, Pool.held?_call, live_concat, ih]

/-! ### Leases that were released -/

theorem Pool.length_leases_call (p : Pool) (c : Call) :
    p.leases.length ≤ (p.call c).1.leases.length := by
  have same : (p.call c).1.ledger = (p.ledger.call c).1 := congrArg Prod.fst (p.ledger_call c)
  rw [← Stock.length_ledger, ← Stock.length_ledger, same]
  exact Ledger.length_le_call _ c

theorem Pool.length_leases_after (before later : List Call) :
    (Pool.after before).leases.length ≤ (Pool.after (before ++ later)).leases.length := by
  induction later using List.reverseRecOn with
  | nil => simp
  | append_singleton later c ih =>
    rw [← List.append_assoc, Pool.after_concat]
    exact Nat.le_trans ih (Pool.length_leases_call _ c)

theorem HandedOut.number_lt {calls : List Call} {l : Lease} (handed : HandedOut calls l) :
    l.number < (Pool.after calls).leases.length := by
  rcases handed with ⟨before, later, rfl, handed⟩
  have number := (Pool.after before).number_get
  change (Pool.after before).toStock.get.2 = l at handed
  rw [handed] at number
  have longer := (Pool.after before).length_leases_get
  have grown := Pool.length_leases_after (before ++ [.get]) later
  rw [Pool.after_concat, ← List.append_cons] at grown
  change (Pool.after before).toStock.get.1.leases.length ≤ _ at grown
  omega

/-- A lease that has lost its form never has one again. -/
theorem held?_after_of_released {before later : List Call} {l : Lease}
    (given : l.number < (Pool.after before).leases.length)
    (lost : (Pool.after before).held? l = none) :
    (Pool.after (before ++ later)).held? l = none := by
  induction later using List.reverseRecOn with
  | nil => rwa [List.append_nil]
  | append_singleton later c ih =>
    rw [← List.append_assoc, Pool.after_concat, ← Option.not_isSome_iff_eq_none, Pool.held?_call,
      ih]
    rintro (⟨held, -⟩ | ⟨-, handed⟩)
    · cases held
    · have number := (Pool.after (before ++ later)).number_get
      change (Pool.after (before ++ later)).toStock.get.2 = l at handed
      rw [handed] at number
      exact absurd (number ▸ given) (Nat.not_lt.mpr (Pool.length_leases_after before later))

/-- Drafts of a pool are as good as new ones.  After any calls on a new pool: the next call is
answered as if every draft were a new one; the forms that are ready are cleared, and none is ready
twice, had by two leases, or both ready and had by a lease; the leases that have a form are the live
ones, and the pool counts them; and a lease that was released gives access to nothing. -/
theorem Pool.call_after (calls : List Call) :
    (∀ c, ((Pool.after calls).call c).2 = ((Ledger.after calls).call c).2) ∧
      (∀ i ∈ (Pool.after calls).free, ((Pool.after calls).forms[i]?).map Form.draft = some {}) ∧
      (Pool.after calls).free.Nodup ∧
      (∀ l m i, (Pool.after calls).held? l = some i → (Pool.after calls).held? m = some i → l = m) ∧
      (∀ l i, (Pool.after calls).held? l = some i → i ∉ (Pool.after calls).free) ∧
      (∀ l, ((Pool.after calls).held? l).isSome ↔ Live calls l) ∧
      (∃ live : List Lease, live.Nodup ∧ (∀ l, l ∈ live ↔ Live calls l) ∧
        (Pool.after calls).leased = live.length) ∧
      (Pool.after calls).idle = (Pool.after calls).free.length ∧
      ∀ before later l, calls = before ++ .release l :: later → HandedOut before l →
        (Pool.after calls).draft? l = none ∧ ∀ change, (Pool.after calls).edit? l change = none := by
  have sound := (Pool.after calls).sound
  refine ⟨fun c => ?_, sound.cleared, sound.distinct, fun _ _ _ => sound.own, fun _ _ => sound.away,
    held?_after_iff calls, ?_, rfl, ?_⟩
  · rw [← Pool.ledger_after]
    exact congrArg Prod.snd ((Pool.after calls).ledger_call c)
  · rcases sound.exists_holders with ⟨holders, distinct, member, count⟩
    exact ⟨holders, distinct, fun l => (member l).trans (held?_after_iff calls l), count⟩
  · rintro before later l rfl handed
    have lost : (Pool.after (before ++ .release l :: later)).held? l = none := by
      rw [List.append_cons]
      refine held?_after_of_released ?_ ?_
      · rw [Pool.after_concat]
        exact Nat.lt_of_lt_of_le handed.number_lt (Pool.length_leases_call _ _)
      · rw [Pool.after_concat]
        exact ((Pool.after before).held?_release l l).trans (if_pos rfl)
    refine ⟨sound.draft?_eq_none_iff.mpr lost, fun change => ?_⟩
    rw [← Option.map_eq_none_iff (f := Pool.toStock), Pool.edit?_eq]
    exact Option.map_eq_none_iff.mpr lost

end TagHelper

end TemplateCompiler
