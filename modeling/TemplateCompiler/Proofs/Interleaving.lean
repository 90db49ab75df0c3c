/-!
# Calls that take turns

Calls on a shared state, each of which takes one atomic step at a time.  A schedule says whose turn
it is, so every interleaving of the steps is the run of a schedule.  A call that had no turn yet has
not begun: calls may come at any time, and in any number.

A turn changes the shared state and one call (`Concurrent.turn_cases`).  What a turn keeps, every
run keeps (`Concurrent.run_keeps`).
-/

namespace TemplateCompiler

/-- A shared state, and where the calls on it stand. -/
structure Concurrent (σ κ : Type) where
  shared : σ
  calls : List κ

namespace Concurrent

variable {σ κ : Type}

/-- One turn of a call, by a rule that tells its next step.  A call sees where the others stand. -/
def turn (rule : Concurrent σ κ → κ → σ × κ) (d : Concurrent σ κ) (i : Nat) : Concurrent σ κ :=
  match d.calls[i]? with
  | none => d
  | some c => ⟨(rule d c).1, d.calls.set i (rule d c).2⟩

/-- The turns of a schedule, one after another.  A schedule may give turns in any order, and a turn
for somebody who is not there changes nothing. -/
def run (rule : Concurrent σ κ → κ → σ × κ) (d : Concurrent σ κ) (schedule : List Nat) :
    Concurrent σ κ :=
  schedule.foldl (turn rule) d

variable {rule : Concurrent σ κ → κ → σ × κ}

theorem run_append (d : Concurrent σ κ) (schedule later : List Nat) :
    d.run rule (schedule ++ later) = (d.run rule schedule).run rule later :=
  List.foldl_append

theorem run_snoc (d : Concurrent σ κ) (schedule : List Nat) (i : Nat) :
    d.run rule (schedule ++ [i]) = (d.run rule schedule).turn rule i :=
  d.run_append schedule [i]

/-- The turn of a call leaves the others where they stand. -/
theorem turn_of_some (rule : Concurrent σ κ → κ → σ × κ) {d : Concurrent σ κ} {i : Nat} {c : κ}
    (here : d.calls[i]? = some c) :
    ∃ before after, d.calls = before ++ c :: after
      ∧ d.turn rule i = ⟨(rule d c).1, before ++ (rule d c).2 :: after⟩ := by
  rcases List.getElem?_eq_some_iff.mp here with ⟨inside, own⟩
  have split : d.calls = d.calls.take i ++ c :: d.calls.drop (i + 1) := by
    rw [← own, List.getElem_cons_drop, List.take_append_drop]
  refine ⟨_, _, split, ?_⟩
  rw [turn, here]
  dsimp only
  rw [List.set_eq_take_append_cons_drop, if_pos inside]

/-- A turn is that of one of the calls, or changes nothing. -/
theorem turn_cases (rule : Concurrent σ κ → κ → σ × κ) (d : Concurrent σ κ) (i : Nat) :
    d.turn rule i = d ∨ ∃ before c after, d.calls = before ++ c :: after
      ∧ d.turn rule i = ⟨(rule d c).1, before ++ (rule d c).2 :: after⟩ := by
  cases here : d.calls[i]? with
  | none =>
    left
    rw [turn, here]
  | some c =>
    rcases turn_of_some rule here with ⟨before, after, turned⟩
    exact .inr ⟨before, c, after, turned⟩

/-- What every turn keeps is kept by every run. -/
theorem run_keeps {P : Concurrent σ κ → Prop} (kept : ∀ d i, P d → P (d.turn rule i))
    {d : Concurrent σ κ} (holds : P d) (schedule : List Nat) : P (d.run rule schedule) := by
  induction schedule generalizing d with
  | nil => exact holds
  | cons i schedule ih => exact ih (kept d i holds)

/-- What no step of a call changes about it stays the same for all calls. -/
theorem map_calls_run {β : Type} {f : κ → β} (same : ∀ d c, f (rule d c).2 = f c)
    (d : Concurrent σ κ) (schedule : List Nat) :
    (d.run rule schedule).calls.map f = d.calls.map f := by
  refine run_keeps (P := fun e => e.calls.map f = d.calls.map f) (fun e i holds => ?_) rfl schedule
  rcases e.turn_cases rule i with still | ⟨before, c, after, split, turned⟩
  · rw [still]
    exact holds
  · rw [← holds, turned, split, List.map_append, List.map_append, List.map_cons, List.map_cons,
      same]

/-- What holds of the shared state, and of what each call would make of it, holds after a turn. -/
theorem shared_turn {P : σ → Prop} {d : Concurrent σ κ} (i : Nat) (holds : P d.shared)
    (kept : ∀ c ∈ d.calls, (rule d c).2 ∈ (d.turn rule i).calls → P (rule d c).1) :
    P (d.turn rule i).shared := by
  rcases d.turn_cases rule i with still | ⟨before, c, after, split, turned⟩
  · rw [still]
    exact holds
  · have moved : (rule d c).2 ∈ (d.turn rule i).calls := by
      rw [turned]
      exact List.mem_append_right _ List.mem_cons_self
    have here : c ∈ d.calls := by
      rw [split]
      exact List.mem_append_right _ List.mem_cons_self
    have made := kept c here moved
    rw [turned]
    exact made

/-- What a turn establishes of the call that takes it, and keeps of the others, holds of all. -/
theorem turn_forall {P : Concurrent σ κ → κ → Prop} {d : Concurrent σ κ} (i : Nat)
    (moved : ∀ c ∈ d.calls, (d.turn rule i).shared = (rule d c).1 → P (d.turn rule i) (rule d c).2)
    (kept : ∀ c ∈ d.calls, P (d.turn rule i) c) :
    ∀ c ∈ (d.turn rule i).calls, P (d.turn rule i) c := by
  intro c member
  rcases d.turn_cases rule i with still | ⟨before, own, after, split, turned⟩
  · rw [still] at member
    exact kept c member
  · rw [turned] at member
    rcases List.mem_append.mp member with earlier | later
    · exact kept c (split ▸ List.mem_append_left _ earlier)
    · rcases List.mem_cons.mp later with rfl | behind
      · refine moved own (split ▸ List.mem_append_right _ List.mem_cons_self) ?_
        rw [turned]
      · exact kept c (split ▸ List.mem_append_right _ (List.mem_cons_of_mem _ behind))

/-- A turn counts the call that takes it anew. -/
theorem countP_turn (rule : Concurrent σ κ → κ → σ × κ) (p : κ → Bool) {d : Concurrent σ κ}
    {i : Nat} {c : κ} (here : d.calls[i]? = some c) :
    (d.turn rule i).calls.countP p + (p c).toNat = d.calls.countP p + (p (rule d c).2).toNat := by
  rcases turn_of_some rule here with ⟨before, after, split, turned⟩
  rw [turned, split]
  simp only [List.countP_append, List.countP_cons]
  cases p c <;> cases p (rule d c).2 <;> simp <;> omega

/-- The turn of a call moves it by its rule, and the turns of others leave it where it stands. -/
theorem getElem?_turn (rule : Concurrent σ κ → κ → σ × κ) {d : Concurrent σ κ} {i : Nat} {c : κ}
    (here : d.calls[i]? = some c) (j : Nat) :
    (d.turn rule j).calls[i]? = some (if j = i then (rule d c).2 else c) := by
  by_cases own : j = i
  · subst own
    rw [turn, here, if_pos rfl]
    exact List.getElem?_set_self (List.getElem?_eq_some_iff.mp here).1
  · rw [turn, if_neg own]
    split
    · exact here
    · exact (List.getElem?_set_ne own).trans here

/-- A call that is at rest stays where it stands. -/
theorem getElem?_turn_of_resting {d : Concurrent σ κ} {i : Nat} {c : κ}
    (resting : (rule d c).2 = c) (here : d.calls[i]? = some c) (j : Nat) :
    (d.turn rule j).calls[i]? = some c := by
  rw [getElem?_turn rule here, resting, ite_self]

theorem mem_turn_of_resting {d : Concurrent σ κ} {c : κ} (resting : (rule d c).2 = c)
    (member : c ∈ d.calls) (i : Nat) : c ∈ (d.turn rule i).calls := by
  rcases List.getElem?_of_mem member with ⟨j, here⟩
  exact List.mem_of_getElem? (getElem?_turn_of_resting resting here i)

/-- Where each turn of a call brings it nearer to its end, so many turns bring it there. -/
theorem left_run {left : κ → Nat} (fewer : ∀ d c, left (rule d c).2 ≤ left c - 1) {i : Nat}
    (schedule : List Nat) : ∀ {d : Concurrent σ κ} {c : κ}, d.calls[i]? = some c →
      ∃ c', (d.run rule schedule).calls[i]? = some c' ∧ left c' ≤ left c - schedule.count i := by
  induction schedule with
  | nil =>
    intro d c here
    exact ⟨c, here, Nat.le_refl _⟩
  | cons j schedule ih =>
    intro d c here
    rcases ih (getElem?_turn rule here j) with ⟨c', there, bound⟩
    refine ⟨c', there, ?_⟩
    rw [List.count_cons]
    by_cases own : j = i
    · have step := fewer d c
      rw [if_pos own] at bound
      rw [own, beq_self_eq_true, if_pos rfl]
      omega
    · rw [if_neg own] at bound
      rw [beq_eq_false_iff_ne.mpr own, if_neg Bool.false_ne_true]
      exact bound

end Concurrent

end TemplateCompiler
