import Mathlib.Data.List.Nodup
import TemplateCompiler.Proofs.RepeatedOptimization

/-!
# Which tag helpers have a field

A field is declared for a type in use unless there is a field of that name.  The name is made from
the type, and types that differ can have one name: a dot and a low line are both written as a low
line.  Of the types with one name, the one that is used first gets the field, and the others have
none.  So every type in use has its field exactly if the types in use have different names.

The digest of a tag helper stands for the tag helper when repeated ones are left out.  That tag
helpers with one digest have one type is taken as given.
-/

namespace TemplateCompiler

namespace IR.Document

open Node

def helperField (typeName : Text) : Node :=
  .synthetic (.field ["private"] ("global::" ++ typeName) (helperFieldName typeName)) []

/-- The tag helpers that are used, as often as they are, except those of components. -/
def usedHelpers (d : Document) : List TagHelper :=
  (d.nodes.flatMap helpersOf).filter fun h => !TagHelper.isComponentKind h.kind

/-- The types of the tag helpers that are used, in the order of their use. -/
def usedTypes (d : Document) : List Text := d.usedHelpers.map helperType

/-! ## The first type of each name -/

/-- The types whose names are not taken, and of those with one name the first. -/
def firstNamed (taken : List Text) : List Text → List Text
  | [] => []
  | t :: ts =>
    if helperFieldName t ∈ taken then firstNamed taken ts
    else t :: firstNamed (helperFieldName t :: taken) ts

theorem missingFields_eq_map (hs : List TagHelper) (taken : List Text) :
    missingFields taken hs = (firstNamed taken (hs.map helperType)).map helperField := by
  induction hs generalizing taken with
  | nil => simp [missingFields, firstNamed]
  | cons h hs ih =>
    by_cases known : helperFieldName (helperType h) ∈ taken
    · simp [missingFields, firstNamed, known, ih]
    · simp [missingFields, firstNamed, known, ih, helperField]

/-- Leaving out tag helpers with a digest that was seen leaves out types with names that are taken.
-/
theorem firstNamed_distinctFrom {hs : List TagHelper} {seen : List Digest} {taken : List Text}
    (identified : ∀ h ∈ hs, ∀ k ∈ hs, h.digest = k.digest → helperType h = helperType k)
    (known : ∀ h ∈ hs, h.digest ∈ seen → helperFieldName (helperType h) ∈ taken) :
    firstNamed taken ((TagHelperSet.distinctFrom seen hs).map helperType)
      = firstNamed taken (hs.map helperType) := by
  induction hs generalizing seen taken with
  | nil => simp [TagHelperSet.distinctFrom]
  | cons h hs ih =>
    simp only [List.forall_mem_cons] at identified known
    have among : ∀ g ∈ hs, ∀ k ∈ hs, g.digest = k.digest → helperType g = helperType k :=
      fun g member => (identified.2 g member).2
    by_cases repeated : h.digest ∈ seen
    · have named := known.1 repeated
      simp only [TagHelperSet.distinctFrom, List.contains_iff_mem.mpr repeated, if_true,
        List.map_cons, firstNamed, if_pos named]
      exact ih among known.2
    · have digests : ∀ g ∈ hs, g.digest ∈ h.digest :: seen → helperFieldName (helperType g) ∈ taken
          ∨ helperType g = helperType h := by
        intro g member seenNow
        rcases List.mem_cons.mp seenNow with same | before
        · exact .inr (identified.1.2 g member same.symm).symm
        · exact .inl (known.2 g member before)
      simp only [TagHelperSet.distinctFrom, List.contains_eq_mem, repeated, decide_false,
        Bool.false_eq_true, if_false, List.map_cons, firstNamed]
      split
      case isTrue named =>
        apply ih among
        intro g member seenNow
        rcases digests g member seenNow with before | same
        · exact before
        · exact same ▸ named
      case isFalse =>
        congr 1
        apply ih among
        intro g member seenNow
        rcases digests g member seenNow with before | same
        · exact List.mem_cons_of_mem _ before
        · exact same ▸ List.mem_cons_self

/-- A type is among the first of their names if no name before it is the same. -/
theorem mem_firstNamed_iff {t : Text} {ts taken : List Text} :
    t ∈ firstNamed taken ts ↔ helperFieldName t ∉ taken
      ∧ ts.find? (fun u => helperFieldName u == helperFieldName t) = some t := by
  induction ts generalizing taken with
  | nil => simp [firstNamed]
  | cons u ts ih =>
    unfold firstNamed
    by_cases same : helperFieldName u = helperFieldName t
    · split
      case isTrue named =>
        rw [ih]
        simp [← same, named]
      case isFalse free =>
        rw [List.mem_cons, ih]
        simp [same, same ▸ free, eq_comm]
    · split
      case isTrue => simp [ih, same]
      case isFalse =>
        have other : t ≠ u := fun equal => same (congrArg helperFieldName equal.symm)
        simp [ih, same, other, Ne.symm same]

theorem nodup_map_firstNamed (ts taken : List Text) :
    ((firstNamed taken ts).map helperFieldName).Nodup := by
  induction ts generalizing taken with
  | nil => simp [firstNamed]
  | cons t ts ih =>
    unfold firstNamed
    split
    case isTrue => exact ih taken
    case isFalse =>
      rw [List.map_cons, List.nodup_cons]
      refine ⟨?_, ih _⟩
      intro repeated
      rcases List.mem_map.mp repeated with ⟨u, member, same⟩
      apply (mem_firstNamed_iff.mp member).1
      rw [same]
      exact List.mem_cons_self

/-- The first of their names are in the order in which they occur first. -/
theorem firstNamed_ordered (ts taken : List Text) :
    (firstNamed taken ts).Pairwise fun a b => ts.idxOf a < ts.idxOf b := by
  induction ts generalizing taken with
  | nil => simp [firstNamed]
  | cons t ts ih =>
    have behind : ∀ {others : List Text}, helperFieldName t ∈ others →
        ∀ u ∈ firstNamed others ts, (t :: ts).idxOf u = ts.idxOf u + 1 := by
      intro others named u member
      apply List.idxOf_cons_ne
      intro same
      exact (mem_firstNamed_iff.mp member).1 (same ▸ named)
    have later : ∀ {others : List Text}, helperFieldName t ∈ others →
        (firstNamed others ts).Pairwise fun a b => (t :: ts).idxOf a < (t :: ts).idxOf b := by
      intro others named
      apply (ih others).imp_of_mem
      intro a b first second before
      rw [behind named a first, behind named b second]
      exact Nat.add_lt_add_right before 1
    unfold firstNamed
    split
    case isTrue named => exact later named
    case isFalse =>
      refine List.pairwise_cons.mpr ⟨?_, later List.mem_cons_self⟩
      intro u member
      rw [behind List.mem_cons_self u member, List.idxOf_cons_self]
      exact Nat.succ_pos _

/-- Every type is among the first of their names exactly if no two of them have one name. -/
theorem all_count_firstNamed_iff (ts : List Text) :
    (∀ t ∈ ts, (firstNamed [] ts).count t = 1) ↔
      ∀ t ∈ ts, ∀ u ∈ ts, helperFieldName t = helperFieldName u → t = u := by
  have once : (firstNamed [] ts).Nodup := List.Nodup.of_map _ (nodup_map_firstNamed ts [])
  constructor
  · intro all t first u second same
    have found : ∀ v ∈ ts, ts.find? (fun w => helperFieldName w == helperFieldName v) = some v := by
      intro v member
      have among : v ∈ firstNamed [] ts := by
        rw [← List.count_pos_iff, all v member]
        exact Nat.one_pos
      exact (mem_firstNamed_iff.mp among).2
    have one := found t first
    rw [same, found u second] at one
    exact (Option.some.inj one).symm
  · intro different t member
    apply List.count_eq_one_of_mem once
    rw [mem_firstNamed_iff]
    refine ⟨List.not_mem_nil, ?_⟩
    have some? : (ts.find? fun w => helperFieldName w == helperFieldName t).isSome = true :=
      List.find?_isSome.mpr ⟨t, member, by simp⟩
    rcases Option.isSome_iff_exists.mp some? with ⟨v, found⟩
    have equal := different v (List.mem_of_find?_eq_some found) t member
      (by simpa using List.find?_some found)
    rw [found, equal]

/-! ## The fields of the primary class -/

/-- A primary class without fields starts with fields for the types in use.  They are private, have
different names and are in the order of first use, and each is for a type that is used before any
other of its name.  Every type in use has exactly one field if and only if the names of the types
in use differ. -/
theorem declareHelpers_fields {d : Document} {shape : ClassShape} {members : List Node}
    (found : d.primaryClass? = some (shape, members))
    (bare : (preorderAll members).filterMap fieldName? = [])
    (identified : ∀ h ∈ d.usedHelpers, ∀ k ∈ d.usedHelpers,
      h.digest = k.digest → helperType h = helperType k) :
    ∃ types : List Text,
      d.declareHelpers.primaryClass? = some (shape, types.map helperField ++ members)
        ∧ (types.map helperFieldName).Nodup
        ∧ (types.Pairwise fun t u => d.usedTypes.idxOf t < d.usedTypes.idxOf u)
        ∧ (∀ t, t ∈ types ↔
          d.usedTypes.find? (fun u => helperFieldName u == helperFieldName t) = some t)
        ∧ ((∀ t ∈ d.usedTypes, types.count t = 1) ↔
          ∀ t ∈ d.usedTypes, ∀ u ∈ d.usedTypes, helperFieldName t = helperFieldName u → t = u) := by
  refine ⟨firstNamed [] d.usedTypes, ?_, nodup_map_firstNamed _ _, firstNamed_ordered _ _, ?_,
    all_count_firstNamed_iff _⟩
  · rcases declareHelpers_cases d with
      ⟨none, -⟩ | ⟨head, own, old, fill, first, content, before, after⟩
    · rw [primaryClass?_eq_none none] at found
      cases found
    · have primary := isPrimary_of_first first content
      rw [primaryClass?_of_first first content primary before] at found
      cases found
      have fields : helperFields [] [] (d.nodes.flatMap helpersOf)
          = (firstNamed [] d.usedTypes).map helperField := by
        rw [helperFields_eq, missingFields_eq_map]
        congr 1
        exact firstNamed_distinctFrom identified (fun _ _ seen => absurd seen List.not_mem_nil)
      rw [primaryClass?_of_first first content primary (congrArg children after), bare, fields]
  · intro t
    simp [mem_firstNamed_iff]

def helperOfType (typeName : Text) : TagHelper :=
  TagHelper.Draft.build
    { kind := "ITagHelper", name := "Helper", assembly := "App"
      metadata := .ofEntries [(Metadata.typeName, typeName)] }

/-- Two tag helpers are in use, and the names of their fields are the same. -/
def dottedAndJoined : Document :=
  { children :=
      [.synthetic (.classDecl { name := "C", isPrimary := true }) [],
       .synthetic (.helper "a" .startAndEnd [helperOfType "A.B"]) [],
       .synthetic (.helper "b" .startAndEnd [helperOfType "A_B"]) []] }

theorem declareHelpers_fields_dotted :
    let d := dottedAndJoined
    let dotted : Text := "A.B"
    let joined : Text := "A_B"
    d.primaryClass? = some ({ name := "C", isPrimary := true }, [])
      ∧ (∀ h ∈ d.usedHelpers, ∀ k ∈ d.usedHelpers,
        h.digest = k.digest → helperType h = helperType k)
      ∧ dotted ∈ d.usedTypes ∧ joined ∈ d.usedTypes
      ∧ ∃ types : List Text,
        d.declareHelpers.primaryClass?
            = some ({ name := "C", isPrimary := true }, types.map helperField ++ [])
          ∧ dotted ∈ types ∧ joined ∉ types := by
  have identified : ∀ h ∈ dottedAndJoined.usedHelpers, ∀ k ∈ dottedAndJoined.usedHelpers,
      h.digest = k.digest → helperType h = helperType k := by
    decide +kernel
  rcases declareHelpers_fields rfl rfl identified with ⟨types, declared, -, -, told, -⟩
  refine ⟨rfl, identified, by decide +kernel, by decide +kernel, types, declared, ?_, ?_⟩
  · exact (told _).mpr (by decide +kernel)
  · intro member
    exact absurd ((told _).mp member) (by decide +kernel)

end IR.Document

end TemplateCompiler
