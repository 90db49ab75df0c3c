import TemplateCompiler.TagHelper.Basic

/-!
# Pools of drafts

A pool hands out drafts for filling in and takes them back.  A draft stands on a form, and a form
that comes back is cleared and used again.  A lease has a form until it is released; a lease that
was released gives access to nothing.

In every pool the forms that are ready are cleared, and no form is ready while a lease has it or is
had by two leases (`Stock.Sound`).
-/

namespace TemplateCompiler

namespace TagHelper

/-! ## Forms -/

/-- A list that keeps its room when it is cleared.  What stands in the room behind its end does not
belong to it. -/
structure Slots (α : Type) where
  cells : List (Option α) := []
  size : Nat := 0

namespace Slots

variable {α : Type}

def toList (s : Slots α) : List α := (s.cells.take s.size).filterMap id

/-- Put entries in the place of the ones that are there.  The room grows if it has to. -/
def write (s : Slots α) (entries : List α) : Slots α :=
  ⟨entries.map some ++ s.cells.drop entries.length, entries.length⟩

def clear (s : Slots α) : Slots α := ⟨List.replicate s.size none ++ s.cells.drop s.size, 0⟩

@[simp]
theorem toList_write (s : Slots α) (entries : List α) : (s.write entries).toList = entries := by
  simp [toList, write]

@[simp]
theorem toList_clear (s : Slots α) : s.clear.toList = [] := rfl

end Slots

/-- What a draft stands on. -/
structure Form where
  kind : Text := []
  name : Text := []
  assembly : Text := []
  displayName : Text := []
  documentation : Text := []
  outputHint : Text := []
  caseSensitive : Bool := false
  fullyQualified : Bool := false
  rules : Slots RuleDraft := {}
  attributes : Slots AttributeDraft := {}
  childTags : Slots ChildTagDraft := {}
  metadata : Metadata := {}

namespace Form

def draft (f : Form) : Draft :=
  { kind := f.kind, name := f.name, assembly := f.assembly, displayName := f.displayName
    documentation := f.documentation, outputHint := f.outputHint
    caseSensitive := f.caseSensitive, fullyQualified := f.fullyQualified
    rules := f.rules.toList, attributes := f.attributes.toList, childTags := f.childTags.toList
    metadata := f.metadata }

def edit (change : Draft → Draft) (f : Form) : Form :=
  let d := change f.draft
  { kind := d.kind, name := d.name, assembly := d.assembly, displayName := d.displayName
    documentation := d.documentation, outputHint := d.outputHint
    caseSensitive := d.caseSensitive, fullyQualified := d.fullyQualified
    rules := f.rules.write d.rules, attributes := f.attributes.write d.attributes
    childTags := f.childTags.write d.childTags, metadata := d.metadata }

/-- Clear a form.  Only the room of its lists stays. -/
def reset (f : Form) : Form :=
  { rules := f.rules.clear, attributes := f.attributes.clear, childTags := f.childTags.clear }

@[simp]
theorem draft_edit (change : Draft → Draft) (f : Form) :
    (f.edit change).draft = change f.draft := by
  simp [edit, draft]

@[simp]
theorem draft_reset (f : Form) : f.reset.draft = {} := rfl

end Form

/-! ## Forms and their leases -/

/-- A handle on a form of a pool. -/
@[ext]
structure Lease where
  number : Nat
  deriving DecidableEq, Repr, Inhabited

/-- The forms of a pool and who has them. -/
structure Stock where
  /-- Every form that was made, under its number. -/
  forms : List Form := []
  /-- The forms that are ready, the one that is handed out next in front. -/
  free : List Nat := []
  /-- The form of every lease; nothing once it was released. -/
  leases : List (Option Nat) := []
  /-- The number of forms that are handed out. -/
  leased : Int := 0

namespace Stock

/-- Hand out a form: the one that came back last, or a new one.  The lease has a number that no
lease before it had, so that an old lease of the same form can be told from it. -/
def get (s : Stock) : Stock × Lease :=
  let lease : Lease := ⟨s.leases.length⟩
  match s.free with
  | [] =>
    ({ s with
        forms := s.forms ++ [{}]
        leases := s.leases ++ [some s.forms.length]
        leased := s.leased + 1 }, lease)
  | i :: rest =>
    ({ s with free := rest, leases := s.leases ++ [some i], leased := s.leased + 1 }, lease)

def held? (s : Stock) (l : Lease) : Option Nat := (s.leases[l.number]?).join

/-- The draft of a lease; a lease that was released has none. -/
def draft? (s : Stock) (l : Lease) : Option Draft :=
  (s.held? l).bind fun i => (s.forms[i]?).map Form.draft

/-- Change the draft of a lease; nothing if it was released. -/
def edit? (s : Stock) (l : Lease) (change : Draft → Draft) : Option Stock :=
  (s.held? l).map fun i => { s with forms := s.forms.modify i (Form.edit change) }

/-- Take a form back and clear it.  Releasing a lease again changes nothing, even if its form has
been handed out again. -/
def release (s : Stock) (l : Lease) : Stock :=
  match s.held? l with
  | none => s
  | some i =>
    { forms := s.forms.modify i Form.reset
      free := i :: s.free
      leases := s.leases.set l.number none
      leased := s.leased - 1 }

/-- Hand out a form, fill it in, build the draft on it and take it back. -/
def build (s : Stock) (fill : Draft → Draft) : Stock × TagHelper :=
  let (s, lease) := s.get
  let s := (s.edit? lease fill).getD s
  (s.release lease, ((s.draft? lease).getD {}).build)

/-- The number of forms that are ready. -/
def idle (s : Stock) : Nat := s.free.length

/-- The forms that are ready are cleared, and each form is ready or with one lease. -/
structure Sound (s : Stock) : Prop where
  cleared : ∀ i ∈ s.free, (s.forms[i]?).map Form.draft = some {}
  distinct : s.free.Nodup
  own : ∀ {l m : Lease} {i : Nat}, s.held? l = some i → s.held? m = some i → l = m
  away : ∀ {l : Lease} {i : Nat}, s.held? l = some i → i ∉ s.free
  made : ∀ {l : Lease} {i : Nat}, s.held? l = some i → i < s.forms.length
  counted : s.leased = s.leases.countP Option.isSome

variable {s : Stock}

/-! ### Who has which form -/

/-- A form that is handed out goes to a new lease. -/
theorem held?_get (s : Stock) (m : Lease) :
    s.get.1.held? m =
      if m = s.get.2 then some (s.free.headD s.forms.length) else s.held? m := by
  rcases m with ⟨number⟩
  cases ready : s.free with
  | nil => grind [get, held?]
  | cons i rest => grind [get, held?]

theorem held?_edit? {t : Stock} {l : Lease} {change : Draft → Draft}
    (edited : s.edit? l change = some t) (m : Lease) : t.held? m = s.held? m := by
  rcases Option.map_eq_some_iff.mp edited with ⟨i, -, rfl⟩
  rfl

/-- A released lease has no form, and the others have theirs. -/
theorem held?_release (s : Stock) (l m : Lease) :
    (s.release l).held? m = if m = l then none else s.held? m := by
  rcases l with ⟨number⟩
  rcases m with ⟨other⟩
  rw [release]
  split
  case h_1 none => grind [held?]
  case h_2 i held => grind [held?]

/-! ### Soundness -/

theorem sound_empty : ({} : Stock).Sound where
  cleared := nofun
  distinct := .nil
  own := nofun
  away := nofun
  made := nofun
  counted := rfl

/-- The form that is handed out next is new or was ready, and no lease has it. -/
theorem Sound.held?_ne_next (sound : s.Sound) (m : Lease) :
    s.held? m ≠ some (s.free.headD s.forms.length) := by
  intro holds
  cases ready : s.free with
  | nil =>
    rw [ready] at holds
    exact Nat.lt_irrefl _ (sound.made holds)
  | cons i rest =>
    rw [ready] at holds
    exact sound.away holds (by rw [ready]; exact List.mem_cons_self)

theorem Sound.own_get (sound : s.Sound) {l m : Lease} {i : Nat} (first : s.get.1.held? l = some i)
    (second : s.get.1.held? m = some i) : l = m := by
  rw [held?_get] at first second
  split at first
  · next new =>
    split at second
    · next new' => rw [new, new']
    · exact absurd (second.trans first.symm) (sound.held?_ne_next m)
  · split at second
    · exact absurd (first.trans second.symm) (sound.held?_ne_next l)
    · exact sound.own first second

theorem Sound.get (sound : s.Sound) : s.get.1.Sound := by
  have held := s.held?_get
  have made := @sound.made
  have away := @sound.away
  cases ready : s.free with
  | nil =>
    have free : s.get.1.free = [] := by rw [Stock.get, ready]
    have forms : s.get.1.forms.length = s.forms.length + 1 := by simp [Stock.get, ready]
    exact {
      cleared := by simp [free]
      distinct := by simp [free]
      own := sound.own_get
      away := by simp [free]
      made := by grind
      counted := by simp [Stock.get, ready, sound.counted] }
  | cons i rest =>
    have free : s.get.1.free = rest := by rw [Stock.get, ready]
    have forms : s.get.1.forms = s.forms := by rw [Stock.get, ready]
    have distinct := sound.distinct
    rw [ready] at distinct
    have inside : i < s.forms.length := by
      have blank := sound.cleared i (by rw [ready]; exact List.mem_cons_self)
      rcases Option.map_eq_some_iff.mp blank with ⟨form, entry, -⟩
      exact (List.getElem?_eq_some_iff.mp entry).1
    exact {
      cleared := fun j member => by
        rw [forms]
        exact sound.cleared j (ready ▸ List.mem_cons_of_mem i (free ▸ member))
      distinct := free ▸ (List.nodup_cons.mp distinct).2
      own := sound.own_get
      away := by grind
      made := by grind
      counted := by simp [Stock.get, ready, sound.counted] }

theorem Sound.edit? (sound : s.Sound) {t : Stock} {l : Lease} {change : Draft → Draft}
    (edited : s.edit? l change = some t) : t.Sound := by
  have held := held?_edit? edited
  rcases Option.map_eq_some_iff.mp edited with ⟨i, own, rfl⟩
  exact {
    cleared := by grind [Sound]
    distinct := sound.distinct
    own := sound.own
    away := sound.away
    made := by grind [Sound]
    counted := sound.counted }

/-- The lease that is released no longer counts. -/
theorem countP_release {i : Nat} {l : Lease} (holds : s.held? l = some i) :
    (s.leases.set l.number none).countP Option.isSome + 1 = s.leases.countP Option.isSome := by
  have here : s.leases[l.number]? = some (some i) := Option.join_eq_some_iff.mp holds
  rcases List.getElem?_eq_some_iff.mp here with ⟨inside, entry⟩
  have positive : 0 < s.leases.countP Option.isSome :=
    List.countP_pos_iff.mpr ⟨some i, List.mem_of_getElem? here, rfl⟩
  rw [List.countP_set inside, entry]
  simp
  omega

theorem Sound.release (sound : s.Sound) (l : Lease) : (s.release l).Sound := by
  have held := s.held?_release l
  cases holds : s.held? l with
  | none =>
    have same : s.release l = s := by rw [Stock.release, holds]
    rw [same]
    exact sound
  | some i =>
    have released : s.release l =
        { forms := s.forms.modify i Form.reset, free := i :: s.free
          leases := s.leases.set l.number none, leased := s.leased - 1 } := by
      rw [Stock.release, holds]
    have fewer := countP_release holds
    obtain ⟨cleared, distinct, own, away, made, counted⟩ := sound
    have inside := made holds
    rw [released] at held ⊢
    exact {
      cleared := by
        intro j ready
        rcases List.mem_cons.mp ready with rfl | before
        · simp [inside]
        · have other : i ≠ j := fun same => away holds (same ▸ before)
          simpa [List.getElem?_modify, other] using cleared j before
      distinct := List.nodup_cons.mpr ⟨away holds, distinct⟩
      own := by grind
      away := by grind
      made := by grind
      counted := by
        change s.leased - 1 = ((s.leases.set l.number none).countP Option.isSome : Nat)
        omega }

/-- Filling in a form that was just handed out. -/
theorem edit?_get (s : Stock) (fill : Draft → Draft) :
    ∃ filled, s.get.1.edit? s.get.2 fill = some filled := by
  have held := s.held?_get s.get.2
  rw [if_pos rfl] at held
  exact ⟨_, by rw [Stock.edit?, held]; rfl⟩

theorem Sound.build (sound : s.Sound) (fill : Draft → Draft) : (s.build fill).1.Sound := by
  rcases s.edit?_get fill with ⟨filled, edited⟩
  simp only [Stock.build, edited, Option.getD_some]
  exact (sound.get.edit? edited).release _

end Stock

/-! ## Pools -/

/-- A stock whose forms are each ready or with one lease. -/
structure Pool extends Stock where
  sound : toStock.Sound := by exact TemplateCompiler.TagHelper.Stock.sound_empty

namespace Pool

instance : Inhabited Pool := ⟨{}⟩

/-- Hand out a form. -/
def get (p : Pool) : Pool × Lease := (⟨p.toStock.get.1, p.sound.get⟩, p.toStock.get.2)

/-- Change the draft of a lease; nothing if it was released. -/
def edit? (p : Pool) (l : Lease) (change : Draft → Draft) : Option Pool :=
  (p.toStock.edit? l change).attach.map fun s => ⟨s.1, p.sound.edit? s.2⟩

/-- Take a form back. -/
def release (p : Pool) (l : Lease) : Pool := ⟨p.toStock.release l, p.sound.release l⟩

/-- Hand out a form, fill it in, build the draft on it and take it back. -/
def build (p : Pool) (fill : Draft → Draft) : Pool × TagHelper :=
  let built := p.toStock.build fill
  (⟨built.1, p.sound.build fill⟩, built.2)

end Pool

end TagHelper

end TemplateCompiler
