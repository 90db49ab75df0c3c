import Mathlib.Data.List.Induction
import Mathlib.Data.List.InsertIdx
import Mathlib.Data.List.Nodup
import TemplateCompiler.Directive.Registry

/-!
# The registry as an ordered map

A registry is a list and an index of it.  The index gives the place of every keyword at all times
(`DirectiveRegistry.Indexed`), although a removal shifts what stands behind it.  So what has been
added and removed decides what a keyword finds, and in which order the keywords stand
(`DirectiveRegistry.ordered_map`).
-/

namespace TemplateCompiler

namespace DirectiveRegistry

variable {r : DirectiveRegistry}

/-! ## The index -/

theorem lookup_forgetPlace (keyword other : Text) (places : List (Text × Nat)) :
    (forgetPlace keyword places).lookup other =
      if other = keyword then none else places.lookup other := by
  induction places with
  | nil => simp [forgetPlace]
  | cons e places ih =>
    rcases e with ⟨key, i⟩
    grind [forgetPlace]

theorem lookup_setPlace (keyword other : Text) (i : Nat) (places : List (Text × Nat)) :
    (setPlace keyword i places).lookup other =
      if other = keyword then some i else places.lookup other := by
  rw [setPlace, List.lookup_cons]
  grind [lookup_forgetPlace]

/-- Directives with different keywords get the places that they have. -/
theorem lookup_setPlaces {ds : List DirectiveDescriptor}
    (distinct : (ds.map DirectiveDescriptor.keyword).Nodup) (i : Nat) (places : List (Text × Nat))
    (keyword : Text) :
    (setPlaces i ds places).lookup keyword =
      if keyword ∈ ds.map DirectiveDescriptor.keyword then
        some (i + (ds.map DirectiveDescriptor.keyword).idxOf keyword)
      else places.lookup keyword := by
  induction ds generalizing i places with
  | nil => simp [setPlaces]
  | cons d ds ih =>
    rw [List.map_cons, List.nodup_cons] at distinct
    rw [setPlaces, ih distinct.2, lookup_setPlace]
    grind

/-- The index gives for every keyword its place among the keywords. -/
def Indexed (r : DirectiveRegistry) : Prop :=
  ∀ keyword i, r.place? keyword = some i ↔ r.keywords[i]? = some keyword

theorem indexed_empty : ({} : DirectiveRegistry).Indexed := by
  intro keyword i
  simp [place?, keywords]

namespace Indexed

theorem nodup (indexed : r.Indexed) : r.keywords.Nodup := by
  refine List.nodup_iff_getElem?_ne_getElem?.mpr fun i j before inside same => ?_
  have first := (indexed r.keywords[j] i).mpr (by rw [same]; exact List.getElem?_eq_getElem inside)
  have second := (indexed r.keywords[j] j).mpr (List.getElem?_eq_getElem inside)
  exact absurd (Option.some.inj (first.symm.trans second)) (Nat.ne_of_lt before)

theorem place?_eq_none (indexed : r.Indexed) {keyword : Text} :
    r.place? keyword = none ↔ keyword ∉ r.keywords := by
  rw [List.mem_iff_getElem?, not_exists, Option.eq_none_iff_forall_ne_some]
  exact forall_congr' fun i => not_congr (indexed keyword i)

/-- A keyword finds the directive that has it. -/
theorem lookup?_eq_some_iff (indexed : r.Indexed) {keyword : Text} {d : DirectiveDescriptor} :
    r.lookup? keyword = some d ↔ d.keyword = keyword ∧ d ∈ r.entries := by
  have place : ∀ i, r.place? keyword = some i ↔
      (r.entries[i]?).map DirectiveDescriptor.keyword = some keyword := fun i => by
    rw [indexed, keywords, List.getElem?_map]
  rw [lookup?, Option.bind_eq_some_iff, List.mem_iff_getElem?]
  constructor
  · rintro ⟨i, found, entry⟩
    rw [place, entry] at found
    exact ⟨Option.some.inj found, i, entry⟩
  · rintro ⟨rfl, i, entry⟩
    exact ⟨i, (place i).mpr (by rw [entry]; rfl), entry⟩

/-- What has another keyword stands at another place. -/
theorem keyword_ne_iff (indexed : r.Indexed) {keyword : Text} {e : DirectiveDescriptor} {i j : Nat}
    (at_i : r.keywords[i]? = some keyword) (at_j : r.entries[j]? = some e) :
    e.keyword ≠ keyword ↔ i ≠ j := by
  have at_j' : r.keywords[j]? = some e.keyword := by rw [keywords, List.getElem?_map, at_j]; rfl
  constructor
  · rintro differ rfl
    exact differ (Option.some.inj (at_j'.symm.trans at_i))
  · rintro apart rfl
    exact apart (Option.some.inj
      (((indexed _ _).mpr at_i).symm.trans ((indexed _ _).mpr at_j')))

end Indexed

/-! ## Adding -/

theorem add_of_place {d : DirectiveDescriptor} {i : Nat} (place : r.place? d.keyword = some i) :
    r.add d = { r with entries := r.entries.set i d } := by rw [add, place]

theorem add_of_new {d : DirectiveDescriptor} (new : r.place? d.keyword = none) :
    r.add d = { entries := r.entries ++ [d]
                places := setPlace d.keyword r.entries.length r.places } := by rw [add, new]

/-- A replacement leaves the keywords where they are. -/
theorem keywords_add_of_mem (indexed : r.Indexed) {d : DirectiveDescriptor}
    (present : d.keyword ∈ r.keywords) : (r.add d).keywords = r.keywords := by
  rcases List.mem_iff_getElem?.mp present with ⟨i, entry⟩
  rcases List.getElem?_eq_some_iff.mp entry with ⟨inside, same⟩
  rw [add_of_place ((indexed _ _).mpr entry), keywords, List.map_set, ← same]
  exact List.set_getElem_self inside

theorem keywords_add_of_not_mem (indexed : r.Indexed) {d : DirectiveDescriptor}
    (absent : d.keyword ∉ r.keywords) : (r.add d).keywords = r.keywords ++ [d.keyword] := by
  rw [add_of_new (indexed.place?_eq_none.mpr absent), keywords, List.map_append]
  rfl

theorem mem_keywords_add (indexed : r.Indexed) {d : DirectiveDescriptor} {keyword : Text} :
    keyword ∈ (r.add d).keywords ↔ keyword = d.keyword ∨ keyword ∈ r.keywords := by
  by_cases present : d.keyword ∈ r.keywords
  · rw [keywords_add_of_mem indexed present]
    exact ⟨.inr, by rintro (rfl | member); exacts [present, member]⟩
  · rw [keywords_add_of_not_mem indexed present, List.mem_append, List.mem_singleton, or_comm]

theorem Indexed.add (indexed : r.Indexed) (d : DirectiveDescriptor) : (r.add d).Indexed := by
  intro keyword i
  by_cases present : d.keyword ∈ r.keywords
  · rw [keywords_add_of_mem indexed present, ← indexed keyword i]
    rcases List.mem_iff_getElem?.mp present with ⟨j, entry⟩
    rw [add_of_place ((indexed _ _).mpr entry)]
    rfl
  · have length : r.keywords.length = r.entries.length := List.length_map _
    rw [keywords_add_of_not_mem indexed present, add_of_new (indexed.place?_eq_none.mpr present),
      place?, lookup_setPlace]
    have old := indexed keyword i
    rw [place?] at old
    grind

theorem mem_add_iff (indexed : r.Indexed) {d e : DirectiveDescriptor} :
    e ∈ (r.add d).entries ↔ e = d ∨ e ∈ r.entries ∧ e.keyword ≠ d.keyword := by
  by_cases present : d.keyword ∈ r.keywords
  · rcases List.mem_iff_getElem?.mp present with ⟨i, entry⟩
    have inside : i < r.entries.length := by
      rw [← List.length_map (f := DirectiveDescriptor.keyword)]
      exact (List.getElem?_eq_some_iff.mp entry).1
    rw [add_of_place ((indexed _ _).mpr entry), List.mem_iff_getElem?, List.mem_iff_getElem?]
    constructor
    · rintro ⟨j, at_j⟩
      rw [List.getElem?_set] at at_j
      by_cases here : i = j
      · rw [if_pos here, if_pos inside] at at_j
        exact .inl (Option.some.inj at_j).symm
      · rw [if_neg here] at at_j
        exact .inr ⟨⟨j, at_j⟩, (indexed.keyword_ne_iff entry at_j).mpr here⟩
    · rintro (rfl | ⟨⟨j, at_j⟩, differ⟩)
      · exact ⟨i, by rw [List.getElem?_set, if_pos rfl, if_pos inside]⟩
      · exact ⟨j, by rw [List.getElem?_set,
          if_neg ((indexed.keyword_ne_iff entry at_j).mp differ), at_j]⟩
  · rw [add_of_new (indexed.place?_eq_none.mpr present), List.mem_append, List.mem_singleton,
      or_comm]
    refine or_congr_right (iff_self_and.mpr fun member same => present ?_)
    rw [← same]
    exact List.mem_map_of_mem member

/-! ## Removing -/

theorem remove_of_place {keyword : Text} {i : Nat} (place : r.place? keyword = some i) :
    r.remove keyword =
      ({ entries := r.entries.eraseIdx i
         places := setPlaces i ((r.entries.eraseIdx i).drop i) (forgetPlace keyword r.places) },
        true) := by rw [remove, place]

theorem remove_of_not_mem (indexed : r.Indexed) {keyword : Text} (absent : keyword ∉ r.keywords) :
    r.remove keyword = (r, false) := by rw [remove, indexed.place?_eq_none.mpr absent]

/-- A removal says whether the keyword was present. -/
theorem remove_snd (indexed : r.Indexed) (keyword : Text) :
    (r.remove keyword).2 = true ↔ keyword ∈ r.keywords := by
  by_cases present : keyword ∈ r.keywords
  · rcases List.mem_iff_getElem?.mp present with ⟨i, entry⟩
    simp [remove_of_place ((indexed _ _).mpr entry), present]
  · simp [remove_of_not_mem indexed present, present]

/-- A removal takes out the keyword, and the others stay in order. -/
theorem keywords_remove (indexed : r.Indexed) (keyword : Text) :
    (r.remove keyword).1.keywords = r.keywords.erase keyword := by
  by_cases present : keyword ∈ r.keywords
  · rcases List.mem_iff_getElem?.mp present with ⟨i, entry⟩
    rcases List.getElem?_eq_some_iff.mp entry with ⟨inside, rfl⟩
    rw [remove_of_place ((indexed _ _).mpr entry), indexed.nodup.erase_getElem]
    exact (List.eraseIdx_map ..).symm
  · rw [remove_of_not_mem indexed present, List.erase_of_not_mem present]

/-- A keyword that is not behind the one that is taken out stays in its place. -/
theorem getElem?_erase_of_not_behind {keywords : List Text} (distinct : keywords.Nodup)
    {keyword other : Text} {i : Nat} (entry : keywords[i]? = some keyword)
    (differ : other ≠ keyword) (behind : other ∉ (keywords.erase keyword).drop i) (j : Nat) :
    (keywords.erase keyword)[j]? = some other ↔ keywords[j]? = some other := by
  rcases List.getElem?_eq_some_iff.mp entry with ⟨inside, rfl⟩
  rw [distinct.erase_getElem] at behind ⊢
  have nowhere : ∀ n, i ≤ n → (keywords.eraseIdx i)[n]? ≠ some other := by
    intro n after there
    refine behind (List.mem_iff_getElem?.mpr ⟨n - i, ?_⟩)
    rw [List.getElem?_drop, Nat.add_sub_of_le after, there]
  simp only [List.getElem?_eraseIdx] at nowhere ⊢
  rcases Nat.lt_trichotomy j i with before | rfl | after
  · rw [if_pos before]
  · have there := nowhere j (Nat.le_refl j)
    rw [if_neg (Nat.lt_irrefl j)] at there ⊢
    exact iff_of_false there fun at_j => differ (Option.some.inj (at_j.symm.trans entry))
  · have there := nowhere j (by omega)
    have ahead := nowhere (j - 1) (by omega)
    rw [if_neg (by omega)] at there ahead ⊢
    rw [Nat.sub_add_cancel (by omega)] at ahead
    exact iff_of_false there ahead

theorem Indexed.remove (indexed : r.Indexed) (keyword : Text) : (r.remove keyword).1.Indexed := by
  by_cases present : keyword ∈ r.keywords
  · have shorter := keywords_remove indexed keyword
    have distinct : (r.keywords.erase keyword).Nodup := indexed.nodup.erase keyword
    rcases List.mem_iff_getElem?.mp present with ⟨i, entry⟩
    rw [remove_of_place ((indexed _ _).mpr entry)] at shorter ⊢
    intro other j
    rw [shorter, place?]
    have moved : (((r.entries.eraseIdx i).drop i).map DirectiveDescriptor.keyword) =
        (r.keywords.erase keyword).drop i := by rw [List.map_drop, ← shorter]; rfl
    dsimp only
    rw [lookup_setPlaces (by rw [moved]; exact distinct.drop), lookup_forgetPlace, moved]
    by_cases behind : other ∈ (r.keywords.erase keyword).drop i
    · have found := List.getElem?_idxOf behind
      rw [List.getElem?_drop] at found
      rw [if_pos behind, Option.some.injEq]
      constructor
      · rintro rfl
        exact found
      · intro there
        exact (List.getElem?_inj (List.getElem?_eq_some_iff.mp found).1 distinct).mp
          (found.trans there.symm)
    · rw [if_neg behind]
      by_cases same : other = keyword
      · rw [if_pos same, same]
        exact ⟨nofun, fun there => absurd (List.mem_of_getElem? there) indexed.nodup.not_mem_erase⟩
      · rw [if_neg same]
        exact (indexed other j).trans
          (getElem?_erase_of_not_behind indexed.nodup entry same behind j).symm
  · rw [remove_of_not_mem indexed present]
    exact indexed

theorem mem_remove_iff (indexed : r.Indexed) {keyword : Text} {d : DirectiveDescriptor} :
    d ∈ (r.remove keyword).1.entries ↔ d ∈ r.entries ∧ d.keyword ≠ keyword := by
  by_cases present : keyword ∈ r.keywords
  · rcases List.mem_iff_getElem?.mp present with ⟨i, entry⟩
    rw [remove_of_place ((indexed _ _).mpr entry), List.mem_eraseIdx_iff_getElem?,
      List.mem_iff_getElem?]
    constructor
    · rintro ⟨j, other, at_j⟩
      exact ⟨⟨j, at_j⟩, (indexed.keyword_ne_iff entry at_j).mpr other.symm⟩
    · rintro ⟨⟨j, at_j⟩, differ⟩
      exact ⟨j, ((indexed.keyword_ne_iff entry at_j).mp differ).symm, at_j⟩
  · rw [remove_of_not_mem indexed present]
    refine iff_self_and.mpr fun member same => present ?_
    rw [← same]
    exact List.mem_map_of_mem member

/-! ## Changes -/

/-- A change of a registry. -/
inductive Change where
  | add (d : DirectiveDescriptor)
  | remove (keyword : Text)

def Change.keyword : Change → Text
  | .add d => d.keyword
  | .remove keyword => keyword

def change (r : DirectiveRegistry) : Change → DirectiveRegistry
  | .add d => r.add d
  | .remove keyword => (r.remove keyword).1

def after (changes : List Change) : DirectiveRegistry := changes.foldl change {}

/-- A directive was added in a certain way, and all later changes are harmless. -/
def Stands (added : List Change → DirectiveDescriptor → Prop) (harmless : Change → Prop)
    (changes : List Change) : Prop :=
  ∃ before d later, changes = before ++ .add d :: later ∧ added before d ∧ ∀ c ∈ later, harmless c

/-- The directive was added, and no later change is about its keyword. -/
def Latest (changes : List Change) (d : DirectiveDescriptor) : Prop :=
  Stands (fun _ e => e = d) (fun c => c.keyword ≠ d.keyword) changes

/-- The keyword was added and not removed since. -/
def Present (changes : List Change) (keyword : Text) : Prop :=
  Stands (fun _ d => d.keyword = keyword) (· ≠ .remove keyword) changes

/-- After `n` changes the keyword was added while it was not present, and it was not removed
since. -/
def Entered (changes : List Change) (keyword : Text) (n : Nat) : Prop :=
  Stands (fun before d => before.length = n ∧ d.keyword = keyword ∧ ¬ Present before keyword)
    (· ≠ .remove keyword) changes

variable {changes : List Change} {c : Change} {d : DirectiveDescriptor} {keyword : Text} {n : Nat}

theorem after_concat (changes : List Change) (c : Change) :
    after (changes ++ [c]) = (after changes).change c := List.foldl_append

theorem stands_concat {added : List Change → DirectiveDescriptor → Prop}
    {harmless : Change → Prop} :
    Stands added harmless (changes ++ [c]) ↔
      (∃ d, c = .add d ∧ added changes d) ∨ Stands added harmless changes ∧ harmless c := by
  constructor
  · rintro ⟨before, d, later, split, how, kept⟩
    rcases List.eq_nil_or_concat later with rfl | ⟨rest, f, rfl⟩
    · rcases List.append_inj' split rfl with ⟨rfl, last⟩
      exact .inl ⟨d, (List.cons.inj last).1, how⟩
    · rw [List.concat_eq_append] at split kept
      rw [← List.cons_append, ← List.append_assoc] at split
      rcases List.append_inj' split rfl with ⟨rfl, last⟩
      cases last
      rw [List.forall_mem_append, List.forall_mem_singleton] at kept
      exact .inr ⟨⟨before, d, rest, rfl, how, kept.1⟩, kept.2⟩
  · rintro (⟨d, rfl, how⟩ | ⟨⟨before, d, later, rfl, how, kept⟩, harmless⟩)
    · exact ⟨changes, d, [], rfl, how, nofun⟩
    · refine ⟨before, d, later ++ [c], by simp, how, ?_⟩
      rw [List.forall_mem_append, List.forall_mem_singleton]
      exact ⟨kept, harmless⟩

theorem latest_concat :
    Latest (changes ++ [c]) d ↔ c = .add d ∨ Latest changes d ∧ c.keyword ≠ d.keyword :=
  stands_concat.trans (or_congr_left (by simp))

theorem present_concat :
    Present (changes ++ [c]) keyword ↔
      (∃ d, c = .add d ∧ d.keyword = keyword) ∨ Present changes keyword ∧ c ≠ .remove keyword :=
  stands_concat

theorem entered_concat :
    Entered (changes ++ [c]) keyword n ↔
      (∃ d, c = .add d ∧ changes.length = n ∧ d.keyword = keyword ∧ ¬ Present changes keyword) ∨
        Entered changes keyword n ∧ c ≠ .remove keyword := stands_concat

theorem not_stands_nil {added : List Change → DirectiveDescriptor → Prop}
    {harmless : Change → Prop} : ¬ Stands added harmless [] := by
  rintro ⟨before, d, later, split, -⟩
  simp at split

theorem Entered.lt (entered : Entered changes keyword n) : n < changes.length := by
  rcases entered with ⟨before, d, later, rfl, ⟨rfl, -⟩, -⟩
  simp

theorem Entered.present (entered : Entered changes keyword n) : Present changes keyword := by
  rcases entered with ⟨before, d, later, rfl, ⟨-, named, -⟩, kept⟩
  exact ⟨before, d, later, rfl, named, kept⟩

/-- A keyword that is present has entered at some time. -/
theorem Present.exists_entered (present : Present changes keyword) :
    ∃ n, Entered changes keyword n := by
  induction changes using List.reverseRecOn with
  | nil => exact absurd present not_stands_nil
  | append_singleton changes c ih =>
    by_cases before : Present changes keyword ∧ c ≠ .remove keyword
    · rcases ih before.1 with ⟨n, entered⟩
      exact ⟨n, entered_concat.mpr (.inr ⟨entered, before.2⟩)⟩
    · rcases present_concat.mp present with ⟨d, rfl, named⟩ | kept
      · refine ⟨changes.length, entered_concat.mpr (.inl ⟨d, rfl, rfl, named, fun there => ?_⟩)⟩
        exact before ⟨there, nofun⟩
      · exact absurd kept before

/-- Only one change is the one with which a keyword entered. -/
theorem Entered.unique {m : Nat} (first : Entered changes keyword n)
    (second : Entered changes keyword m) : n = m := by
  induction changes using List.reverseRecOn with
  | nil => exact absurd first not_stands_nil
  | append_singleton changes c ih =>
    rcases entered_concat.mp first with ⟨d, rfl, rfl, named, absent⟩ | ⟨entered, -⟩
    · rcases entered_concat.mp second with ⟨e, same, rfl, -⟩ | ⟨entered, -⟩
      · rfl
      · exact absurd entered.present absent
    · rcases entered_concat.mp second with ⟨e, rfl, rfl, named, absent⟩ | ⟨entered', -⟩
      · exact absurd entered.present absent
      · exact ih entered entered'

/-- A change does not let a keyword enter that is present. -/
theorem Entered.of_concat (entered : Entered (changes ++ [c]) keyword n)
    (present : Present changes keyword) : Entered changes keyword n := by
  rcases entered_concat.mp entered with ⟨d, rfl, rfl, named, absent⟩ | ⟨before, -⟩
  · exact absurd present absent
  · exact before

/-- What a registry has to do with the changes that were made to it. -/
structure Tracks (changes : List Change) (r : DirectiveRegistry) : Prop where
  indexed : r.Indexed
  latest : ∀ d, d ∈ r.entries ↔ Latest changes d
  present : ∀ keyword, keyword ∈ r.keywords ↔ Present changes keyword
  ordered : r.keywords.Pairwise fun keyword other =>
    ∀ n m, Entered changes keyword n → Entered changes other m → n < m

theorem tracks_nil : Tracks [] {} where
  indexed := indexed_empty
  latest _ := iff_of_false List.not_mem_nil not_stands_nil
  present _ := iff_of_false List.not_mem_nil not_stands_nil
  ordered := .nil

theorem Tracks.add (tracks : Tracks changes r) (d : DirectiveDescriptor) :
    Tracks (changes ++ [.add d]) (r.add d) := by
  have indexed := tracks.indexed
  have kept : r.keywords.Pairwise fun keyword other => ∀ n m,
      Entered (changes ++ [.add d]) keyword n → Entered (changes ++ [.add d]) other m → n < m :=
    tracks.ordered.imp_of_mem fun first second before n m entered entered' =>
      before n m (entered.of_concat ((tracks.present _).mp first))
        (entered'.of_concat ((tracks.present _).mp second))
  refine ⟨indexed.add d, fun e => ?_, fun keyword => ?_, ?_⟩
  · rw [mem_add_iff indexed, latest_concat, tracks.latest, Change.add.injEq, eq_comm (a := e)]
    exact or_congr_right (and_congr_right' ne_comm)
  · rw [mem_keywords_add indexed, present_concat, tracks.present]
    simp [eq_comm]
  · by_cases present : d.keyword ∈ r.keywords
    · rw [keywords_add_of_mem indexed present]
      exact kept
    · rw [keywords_add_of_not_mem indexed present]
      refine List.pairwise_append.mpr ⟨kept, List.pairwise_singleton _ _, ?_⟩
      intro keyword member other last n m entered entered'
      rw [List.mem_singleton] at last
      subst last
      rcases entered_concat.mp entered' with ⟨e, -, rfl, -⟩ | ⟨old, -⟩
      · exact (entered.of_concat ((tracks.present _).mp member)).lt
      · exact absurd ((tracks.present _).mpr old.present) present

theorem Tracks.remove (tracks : Tracks changes r) (keyword : Text) :
    Tracks (changes ++ [.remove keyword]) (r.remove keyword).1 := by
  have indexed := tracks.indexed
  refine ⟨indexed.remove keyword, fun d => ?_, fun other => ?_, ?_⟩
  · rw [mem_remove_iff indexed, latest_concat, tracks.latest]
    simp [Change.keyword, eq_comm]
  · rw [keywords_remove indexed, indexed.nodup.mem_erase_iff, present_concat, tracks.present]
    simp [eq_comm, and_comm]
  · rw [keywords_remove indexed]
    refine (tracks.ordered.sublist List.erase_sublist).imp_of_mem ?_
    intro first second member member' before n m entered entered'
    exact before n m (entered.of_concat ((tracks.present _).mp (List.mem_of_mem_erase member)))
      (entered'.of_concat ((tracks.present _).mp (List.mem_of_mem_erase member')))

theorem tracks_after (changes : List Change) : Tracks changes (after changes) := by
  induction changes using List.reverseRecOn with
  | nil => exact tracks_nil
  | append_singleton changes c ih =>
    rw [after_concat]
    cases c with
    | add d => exact ih.add d
    | remove keyword => exact ih.remove keyword

/-- A registry is an ordered map.  After any changes: the keywords differ; a keyword finds the last
directive that was added under it since it was last removed; the keywords stand in the order in
which they were first added since they were last removed; a removal says whether the keyword was
there; and the index gives the place of every keyword. -/
theorem ordered_map (changes : List Change) :
    (after changes).keywords.Nodup ∧
      (∀ keyword d, (after changes).lookup? keyword = some d ↔
        d.keyword = keyword ∧ Latest changes d) ∧
      (∀ keyword, keyword ∈ (after changes).keywords ↔ ∃ n, Entered changes keyword n) ∧
      (∀ (i j : Nat) keyword other (n m : Nat), (after changes).keywords[i]? = some keyword →
        (after changes).keywords[j]? = some other → Entered changes keyword n →
        Entered changes other m → (i < j ↔ n < m)) ∧
      (∀ keyword, ((after changes).remove keyword).2 = true ↔ Present changes keyword) ∧
      ∀ keyword (i : Nat), (after changes).place? keyword = some i ↔
        (after changes).keywords[i]? = some keyword := by
  have tracks := tracks_after changes
  refine ⟨tracks.indexed.nodup, fun keyword d => ?_, fun keyword => ?_, ?_, fun keyword => ?_,
    tracks.indexed⟩
  · rw [tracks.indexed.lookup?_eq_some_iff, tracks.latest]
  · rw [tracks.present]
    exact ⟨Present.exists_entered, fun ⟨_, entered⟩ => entered.present⟩
  · intro i j keyword other n m at_i at_j entered entered'
    rcases List.getElem?_eq_some_iff.mp at_i with ⟨inside, rfl⟩
    rcases List.getElem?_eq_some_iff.mp at_j with ⟨inside', rfl⟩
    have ordered := List.pairwise_iff_getElem.mp tracks.ordered
    rcases Nat.lt_trichotomy i j with before | rfl | after
    · exact iff_of_true before (ordered i j inside inside' before n m entered entered')
    · have same := entered.unique entered'
      omega
    · have reversed := ordered j i inside' inside after m n entered' entered
      omega
  · rw [remove_snd tracks.indexed, tracks.present]

end DirectiveRegistry

end TemplateCompiler
