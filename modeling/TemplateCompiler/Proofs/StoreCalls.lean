import TemplateCompiler.Cache.Store
import TemplateCompiler.Proofs.Interleaving

/-!
# Calls on one store

Callers that share a store look a key up, make a value outside the store, and store it if the key is
still free.  Other callers may step in between.  Under every interleaving the first value that is
stored is the value of its key for good, and all callers return it, also those that made another
one.
-/

namespace TemplateCompiler
namespace Store

variable {α : Type}

theorem get?_put_self (s : Store α) (key : Digest) (value : α) :
    (s.put key value).get? key = some value := by
  simp [put, get?]

theorem get?_put_of_ne (s : Store α) {key other : Digest} (apart : other ≠ key) (value : α) :
    (s.put key value).get? other = s.get? other := by
  have unlike : (key == other) = false := beq_eq_false_iff_ne.mpr apart.symm
  rw [put, get?, List.find?_cons_of_neg (by simp [unlike]), List.find?_filter, get?]
  congr 2
  funext e
  by_cases same : e.1 = other
  · simp [same, apart]
  · simp [same]

/-- What stands under the key afterwards is what the caller is told. -/
theorem get?_addIfAbsent_self (s : Store α) (key : Digest) (value : α) :
    (s.addIfAbsent key value).1.get? key = some (s.addIfAbsent key value).2 := by
  rw [addIfAbsent]
  cases found : s.get? key with
  | some present => exact found
  | none => exact s.get?_put_self key value

/-- No value is replaced. -/
theorem get?_addIfAbsent_of_some (s : Store α) (key : Digest) {other : Digest} {v : α}
    (present : s.get? other = some v) (value : α) :
    (s.addIfAbsent key value).1.get? other = some v := by
  rw [addIfAbsent]
  cases found : s.get? key with
  | some _ => exact present
  | none =>
    have apart : other ≠ key := by
      rintro rfl
      rw [present] at found
      cases found
    rw [get?_put_of_ne s apart]
    exact present

/-- A value that stands there afterwards stood there before, or is the one offered. -/
theorem some_or_offered_of_get?_addIfAbsent (s : Store α) {key other : Digest} {value v : α}
    (present : (s.addIfAbsent key value).1.get? other = some v) :
    s.get? other = some v ∨ other = key ∧ v = value ∧ (s.addIfAbsent key value).2 = value := by
  rw [addIfAbsent] at present ⊢
  cases found : s.get? key with
  | some _ =>
    rw [found] at present
    exact .inl present
  | none =>
    rw [found] at present
    by_cases same : other = key
    · subst same
      rw [get?_put_self] at present
      exact .inr ⟨rfl, (Option.some.inj present).symm, rfl⟩
    · rw [get?_put_of_ne s same] at present
      exact .inl present

/-- What a caller asks of a store. -/
inductive Request (α : Type) where
  /-- The value under a key. -/
  | get (key : Digest)
  /-- The value under a key, or one that the caller makes. -/
  | getOrAdd (key : Digest) (create : Unit → α)

/-- Where a call on a store stands.  A call that makes a value looks the key up, makes the value
outside of the store, and looks again when it adds it, and other calls may take turns in between. -/
inductive Call (α : Type) where
  /-- Before the look-up. -/
  | asked (request : Request α)
  /-- The key had no value at the look-up. -/
  | missed (key : Digest) (create : Unit → α)
  /-- The caller has made a value, which is not in the store. -/
  | made (key : Digest) (create : Unit → α) (value : α)
  /-- The answer to `Request.get`. -/
  | got (key : Digest) (found? : Option α)
  /-- The answer to `Request.getOrAdd`. -/
  | returned (key : Digest) (create : Unit → α) (value : α)

def Call.request : Call α → Request α
  | asked request => request
  | missed key create | made key create _ | returned key create _ => .getOrAdd key create
  | got key _ => .get key

/-- How many turns a call takes to its answer, at most. -/
def Call.turnsLeft : Call α → Nat
  | asked (.get _) => 1
  | asked (.getOrAdd _ _) => 3
  | missed _ _ => 2
  | made _ _ _ => 1
  | got _ _ | returned _ _ _ => 0

abbrev Calls (α : Type) := Concurrent (Store α) (Call α)

/-- The next step of a call.  The look-up and the storing each have the store for themselves. -/
def step (d : Calls α) : Call α → Store α × Call α
  | .asked (.get key) => (d.shared, .got key (d.shared.get? key))
  | .asked (.getOrAdd key create) =>
    match d.shared.get? key with
    | some present => (d.shared, .returned key create present)
    | none => (d.shared, .missed key create)
  | .missed key create => (d.shared, .made key create (create ()))
  | .made key create value =>
    let (stored, agreed) := d.shared.addIfAbsent key value
    (stored, .returned key create agreed)
  | .got key found? => (d.shared, .got key found?)
  | .returned key create value => (d.shared, .returned key create value)

def asked (s : Store α) (requests : List (Request α)) : Calls α := ⟨s, requests.map .asked⟩

/-- A call that nobody interrupts does what `getOrAdd` does. -/
theorem run_alone (s : Store α) (key : Digest) (create : Unit → α) :
    (s.asked [.getOrAdd key create]).run step [0, 0, 0]
      = ⟨(s.getOrAdd key create).1, [.returned key create (s.getOrAdd key create).2]⟩ := by
  cases found : s.get? key with
  | some present => simp [asked, Concurrent.run, Concurrent.turn, step, getOrAdd, found]
  | none => simp [asked, Concurrent.run, Concurrent.turn, step, getOrAdd, found]

theorem request_step (d : Calls α) (c : Call α) : (step d c).2.request = c.request := by
  fun_cases step d c <;> rfl

theorem turnsLeft_step (d : Calls α) (c : Call α) : (step d c).2.turnsLeft ≤ c.turnsLeft - 1 := by
  fun_cases step d c <;> simp [Call.turnsLeft]

/-- No step replaces a value. -/
theorem get?_step {d : Calls α} {key : Digest} {v : α} (present : d.shared.get? key = some v)
    (c : Call α) : (step d c).1.get? key = some v := by
  fun_cases step d c with
  | case5 other create value stored agreed added =>
    have kept := d.shared.get?_addIfAbsent_of_some other present value
    rw [added] at kept
    exact kept
  | _ => exact present

/-- Once stored, a value never changes. -/
theorem get?_run {d : Calls α} {key : Digest} {v : α} (present : d.shared.get? key = some v)
    (schedule : List Nat) : (d.run step schedule).shared.get? key = some v := by
  refine Concurrent.run_keeps (P := fun e : Calls α => e.shared.get? key = some v)
    (fun e i holds => ?_) present schedule
  exact e.shared_turn (P := fun t => t.get? key = some v) i holds fun c _ _ => get?_step holds c

/-- The answer of a call is what the store has under its key. -/
def Call.Agrees (s : Store α) : Call α → Prop
  | asked _ | missed _ _ => True
  | made _ create value => create () = value
  | got key found? => ∀ v, found? = some v → s.get? key = some v
  | returned key _ value => s.get? key = some value

theorem agrees_step {d : Calls α} {c : Call α} (agrees : c.Agrees d.shared) :
    (step d c).2.Agrees (step d c).1 := by
  fun_cases step d c with
  | case1 key => exact fun v found => found
  | case2 key create present found => exact found
  | case3 key create => trivial
  | case4 key create => rfl
  | case5 key create value stored agreed added =>
    have told := d.shared.get?_addIfAbsent_self key value
    rw [added] at told
    exact told
  | case6 key found? => exact agrees
  | case7 key create value => exact agrees

/-- An answer that agrees with the store goes on agreeing with it. -/
theorem agrees_of_step (d : Calls α) (c : Call α) {other : Call α}
    (agrees : other.Agrees d.shared) : other.Agrees (step d c).1 := by
  cases other with
  | asked | missed => trivial
  | made => exact agrees
  | got => exact fun v found => get?_step (agrees v found) c
  | returned => exact get?_step agrees c

/-- A value that is there after a step was there before, or it is the call's own and its answer. -/
theorem source_of_step {d : Calls α} {c : Call α} (agrees : c.Agrees d.shared) {key : Digest}
    {v : α} (present : (step d c).1.get? key = some v) :
    d.shared.get? key = some v
      ∨ ∃ create, (step d c).2 = .returned key create v ∧ create () = v := by
  revert present
  fun_cases step d c with
  | case5 other create value stored agreed added =>
    intro present
    have offered (made : (d.shared.addIfAbsent other value).1.get? key = some v) :=
      d.shared.some_or_offered_of_get?_addIfAbsent made
    rw [added] at offered
    rcases offered present with old | ⟨rfl, rfl, rfl⟩
    · exact .inl old
    · exact .inr ⟨create, rfl, agrees⟩
  | _ => exact .inl

/-- All answers agree with the store, and each value in it was there at first, or one of the callers
made it and returned it. -/
structure Settled (s : Store α) (d : Calls α) : Prop where
  agree : ∀ c ∈ d.calls, c.Agrees d.shared
  sourced : ∀ key v, d.shared.get? key = some v →
    s.get? key = some v ∨ ∃ create, .returned key create v ∈ d.calls ∧ create () = v

theorem Settled.of_asked (s : Store α) (requests : List (Request α)) :
    Settled s (s.asked requests) where
  agree c member := by
    rcases List.mem_map.mp member with ⟨request, -, rfl⟩
    trivial
  sourced _ _ present := .inl present

/-- A turn keeps a settled store settled: a value that was there keeps its maker, who is at rest. -/
theorem Settled.turn {s : Store α} {d : Calls α} (settled : Settled s d) (i : Nat) :
    Settled s (d.turn step i) where
  agree := by
    refine d.turn_forall (P := fun e c => c.Agrees e.shared) i (fun c member shared => ?_) ?_
    · rw [shared]
      exact agrees_step (settled.agree c member)
    · intro c member
      exact d.shared_turn (P := c.Agrees) i (settled.agree c member)
        fun other _ _ => agrees_of_step d other (settled.agree c member)
  sourced key v := by
    have known : d.shared.get? key = some v →
        s.get? key = some v
          ∨ ∃ create, .returned key create v ∈ (d.turn step i).calls ∧ create () = v := by
      intro before
      rcases settled.sourced key v before with first | ⟨create, member, maker⟩
      · exact .inl first
      · exact .inr ⟨create, d.mem_turn_of_resting rfl member i, maker⟩
    refine d.shared_turn (P := fun t => t.get? key = some v → _) i known ?_
    intro c here moved present
    rcases source_of_step (settled.agree c here) present with old | ⟨create, answer, maker⟩
    · exact known old
    · rw [answer] at moved
      exact .inr ⟨create, moved, maker⟩

theorem settled_run (s : Store α) (requests : List (Request α)) (schedule : List Nat) :
    Settled s ((s.asked requests).run step schedule) :=
  Concurrent.run_keeps (fun _ i settled => settled.turn i) (.of_asked s requests) schedule

theorem request_run (s : Store α) (requests : List (Request α)) (schedule : List Nat) :
    ((s.asked requests).run step schedule).calls.map Call.request = requests := by
  rw [Concurrent.map_calls_run request_step, asked, List.map_map]
  exact List.map_id requests

/-- A call that had three turns has its answer, whatever the others did meanwhile. -/
theorem answered_of_turns (s : Store α) (requests : List (Request α)) {schedule : List Nat}
    {i : Nat} (inside : i < requests.length) (turns : 3 ≤ schedule.count i) :
    ∃ c, ((s.asked requests).run step schedule).calls[i]? = some c ∧ c.turnsLeft = 0 := by
  have first : (s.asked requests).calls[i]? = some (.asked requests[i]) := by
    simp [asked, inside]
  rcases Concurrent.left_run turnsLeft_step schedule first with ⟨c, here, bound⟩
  have atFirst : (Call.asked requests[i]).turnsLeft ≤ 3 := by
    cases requests[i] <;> simp [Call.turnsLeft]
  exact ⟨c, here, by omega⟩

/-- Calls for a value, interleaved in any way.  A call has its answer after three turns of its own.
All callers of `getOrAdd` for one key return the value that the store has there, and so does each
`get` that finds one.  Where the store had none at first, one of these callers has made it.  Once
stored, it never changes. -/
theorem calls_agree (s : Store α) (requests : List (Request α)) (schedule : List Nat) :
    let d := (s.asked requests).run step schedule
    d.calls.map Call.request = requests
      ∧ (∀ i < requests.length, 3 ≤ schedule.count i →
          ∃ c, d.calls[i]? = some c ∧ c.turnsLeft = 0)
      ∧ ∀ key : Digest,
          (∀ create v, .returned key create v ∈ d.calls → d.shared.get? key = some v)
          ∧ (∀ v, .got key (some v) ∈ d.calls → d.shared.get? key = some v)
          ∧ ∀ v, d.shared.get? key = some v →
              (s.get? key = none → ∃ create, .returned key create v ∈ d.calls ∧ create () = v)
              ∧ ∀ later, (d.run step later).shared.get? key = some v := by
  intro d
  have settled : Settled s d := settled_run s requests schedule
  refine ⟨request_run s requests schedule, fun i => answered_of_turns s requests,
    fun key => ⟨?_, ?_, ?_⟩⟩
  · intro create v member
    exact settled.agree _ member
  · intro v member
    exact settled.agree _ member v rfl
  · intro v present
    refine ⟨fun free => ?_, get?_run present⟩
    rcases settled.sourced key v present with first | made
    · rw [free] at first
      cases first
    · exact made

/-- Two callers miss, each makes a value, and the second one stores first: the first one returns the
value of the second, and `get` finds it. -/
theorem calls_agree_both_missed :
    let d := (({} : Store Nat).asked
      [.getOrAdd .zero fun _ => 1, .getOrAdd .zero fun _ => 2, .get .zero]).run step
        [0, 1, 0, 1, 1, 0, 2]
    d.calls = [.returned .zero (fun _ => 1) 2, .returned .zero (fun _ => 2) 2, .got .zero (some 2)]
      ∧ ∀ later, (d.run step later).shared.get? .zero = some 2 := by
  intro d
  have answers : d.calls
      = [.returned .zero (fun _ => 1) 2, .returned .zero (fun _ => 2) 2, .got .zero (some 2)] := rfl
  obtain ⟨-, -, agreed⟩ := calls_agree ({} : Store Nat)
    [.getOrAdd .zero fun _ => 1, .getOrAdd .zero fun _ => 2, .get .zero] [0, 1, 0, 1, 1, 0, 2]
  rcases agreed .zero with ⟨returned, -, stays⟩
  have member : .returned .zero (fun _ => 1) 2 ∈ d.calls := by
    rw [answers]
    exact List.mem_cons_self
  have stored := returned (fun _ => 1) 2 member
  exact ⟨answers, (stays 2 stored).2⟩

end Store
end TemplateCompiler
