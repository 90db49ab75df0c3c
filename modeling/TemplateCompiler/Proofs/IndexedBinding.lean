import Mathlib.Data.List.Sort
import TemplateCompiler.Binding.Binder

/-!
# The index of a binder

A binder finds the tag helpers of an element through its index, and asks only those whether a rule
of theirs selects the element.  `Binder.scan?` asks all of them.  The index brings out, each once
and in the order of registration, exactly the tag helpers that have a rule for every element or a
rule with the element's name in lower case.

The two therefore agree exactly when no rule selects an element without its tag helper being
brought out.  Names are compared by the case classes of their characters, and some of these
classes hold more than one lower-case character: `s` and the long s are equal but for case, and
each is its own lower case.  Names without such characters are brought out under every spelling.
-/

namespace TemplateCompiler

/-! ## Lower case and equality but for case -/

namespace Text

/-- Every character of the text has the lower case of its class. -/
def LowerFaithful (t : Text) : Prop := ∀ c ∈ t.chars, lowerChar (foldChar c) = lowerChar c

theorem toLower_eq_flatMap (t : Text) : t.toLower = (t.chars.map lowerChar).flatMap ofChar := by
  simp [toLower, mapChars, chars, List.flatMap_map]

theorem LowerFaithful.map_lowerChar {t : Text} (faithful : t.LowerFaithful) :
    t.chars.map lowerChar = t.foldKey.map lowerChar := by
  rw [foldKey, List.map_map]
  apply List.map_congr_left
  intro c member
  exact (faithful c member).symm

theorem LowerFaithful.toLower_eq {s t : Text} (first : s.LowerFaithful) (second : t.LowerFaithful)
    (same : s.equalFold t = true) : s.toLower = t.toLower := by
  have keys : s.foldKey = t.foldKey := by simpa [equalFold] using same
  rw [toLower_eq_flatMap, toLower_eq_flatMap, first.map_lowerChar, second.map_lowerChar, keys]

/-- The classes of the ASCII characters have one lower case among them. -/
theorem lowerFaithful_of_ascii {t : Text} (ascii : ∀ c ∈ t.chars, c.toNat < 0x80) :
    t.LowerFaithful := by
  intro c member
  have small := ascii c member
  have lower : ∀ n : Fin 0x80, ((Char.ofNat n).toLower.toNat < 0x80) ∧
      (Char.ofNat n).toLower.toLower = (Char.ofNat n).toLower := by decide
  obtain ⟨bounded, fixed⟩ := lower ⟨c.toNat, small⟩
  rw [Char.ofNat_toNat] at bounded fixed
  simp only [foldChar, lowerChar, small, if_true, bounded, fixed]

end Text

namespace Binder

/-! ## What the index brings out -/

/-- Whether the index brings out a tag helper for the elements of a name. -/
def isCandidate (name : Text) (helper : TagHelper) : Bool :=
  helper.rules.any fun r => r.isCatchAll || r.tagName.toLower == name.toLower

namespace Index

theorem mem_appendOnce {found : List Nat} {i j : Nat} :
    j ∈ appendOnce found i ↔ j ∈ found ∨ j = i := by
  rw [appendOnce]
  split
  case isTrue last =>
    have member : i ∈ found := List.mem_of_getLast? (by simpa using last)
    grind
  case isFalse => simp

/-- A list of positions in increasing order, none of them beyond `i`. -/
def AscendingTo (i : Nat) (found : List Nat) : Prop :=
  found.Pairwise (· < ·) ∧ ∀ j ∈ found, j ≤ i

theorem AscendingTo.appendOnce {i : Nat} {found : List Nat} (ascending : AscendingTo i found) :
    AscendingTo i (appendOnce found i) := by
  obtain ⟨increasing, bounded⟩ := ascending
  refine ⟨?_, by grind [mem_appendOnce]⟩
  rw [Index.appendOnce]
  split
  case isTrue => exact increasing
  case isFalse last =>
    -- The greatest position is the last one, so a list whose last position is not `i` lacks `i`.
    rw [List.pairwise_append]
    refine ⟨increasing, List.pairwise_singleton _ _, ?_⟩
    intro j member k single
    obtain rfl := List.mem_singleton.mp single
    refine lt_of_le_of_ne (bounded j member) ?_
    rintro rfl
    apply last
    obtain ⟨front, final, rfl⟩ := (List.eq_nil_or_concat' found).resolve_left
      (List.ne_nil_of_mem member)
    have below := (List.pairwise_append.mp increasing).2.2
    have greatest := bounded final (by simp)
    simp only [List.getLast?_append, List.getLast?_singleton]
    grind

theorem lookup_fileUnder (key key' : Text) (i : Nat) (entries : List (Text × List Nat)) :
    ((fileUnder key i entries).lookup key').getD [] =
      if key' = key then appendOnce ((entries.lookup key).getD []) i
      else (entries.lookup key').getD [] := by
  induction entries with
  | nil =>
    by_cases same : key' = key
    · simp [fileUnder, same, appendOnce]
    · simp [fileUnder, List.lookup_cons, beq_eq_false_iff_ne.mpr same, same]
  | cons entry entries ih =>
    obtain ⟨k, found⟩ := entry
    rw [fileUnder]
    by_cases here : k = key
    · subst here
      by_cases same : key' = k
      · simp [same]
      · simp [List.lookup_cons, beq_eq_false_iff_ne.mpr same, same]
    · have there : (key == k) = false := beq_eq_false_iff_ne.mpr fun h => here h.symm
      simp only [beq_iff_eq, here, if_false, List.lookup_cons, there]
      by_cases same : key' = k
      · subst same
        simp [here]
      · simpa [beq_eq_false_iff_ne.mpr same] using ih

/-- Whether a rule is entered under a name in lower case. -/
def files (key : Text) (r : TagHelper.Rule) : Bool := !r.isCatchAll && r.tagName.toLower == key

theorem named_addRule (i : Nat) (x : Index) (r : TagHelper.Rule) (key : Text) :
    (addRule i x r).named key =
      if files key r then appendOnce (x.named key) i else x.named key := by
  rw [addRule, files]
  cases r.isCatchAll with
  | true => simp [named]
  | false =>
    simp only [named, Bool.false_eq_true, if_false, lookup_fileUnder]
    by_cases same : key = r.tagName.toLower
    · simp [same]
    · have other : ¬ r.tagName.toLower = key := fun h => same h.symm
      simp [same, other]

theorem catchAll_addRule (i : Nat) (x : Index) (r : TagHelper.Rule) :
    (addRule i x r).catchAll =
      if r.isCatchAll then appendOnce x.catchAll i else x.catchAll := by
  rw [addRule]
  split <;> rfl

theorem mem_named_addRules {key : Text} {i j : Nat} (rules : List TagHelper.Rule) (x : Index) :
    j ∈ (rules.foldl (addRule i) x).named key ↔
      j ∈ x.named key ∨ (j = i ∧ rules.any (files key)) := by
  induction rules generalizing x with
  | nil => simp
  | cons r rules ih =>
    rw [List.foldl_cons, ih, named_addRule]
    cases filed : files key r
    · simp [filed]
    · simp only [if_true, mem_appendOnce, List.any_cons, filed, Bool.true_or, and_true]
      tauto

theorem mem_catchAll_addRules {i j : Nat} (rules : List TagHelper.Rule) (x : Index) :
    j ∈ (rules.foldl (addRule i) x).catchAll ↔
      j ∈ x.catchAll ∨ (j = i ∧ rules.any TagHelper.Rule.isCatchAll) := by
  induction rules generalizing x with
  | nil => simp
  | cons r rules ih =>
    rw [List.foldl_cons, ih, catchAll_addRule]
    cases all : r.isCatchAll
    · simp [all]
    · simp only [if_true, mem_appendOnce, List.any_cons, all, Bool.true_or, and_true]
      tauto

theorem ascending_addRules {key : Text} {i : Nat} (rules : List TagHelper.Rule) (x : Index)
    (ascending : AscendingTo i (x.named key)) :
    AscendingTo i ((rules.foldl (addRule i) x).named key) := by
  induction rules generalizing x with
  | nil => exact ascending
  | cons r rules ih =>
    apply ih
    rw [named_addRule]
    split
    · exact ascending.appendOnce
    · exact ascending

theorem mem_named_addHelpers {key : Text} {j : Nat} (entries : List (TagHelper × Nat))
    (x : Index) :
    j ∈ (entries.foldl addHelper x).named key ↔
      j ∈ x.named key ∨ ∃ h, (h, j) ∈ entries ∧ h.rules.any (files key) := by
  induction entries generalizing x with
  | nil => simp
  | cons entry entries ih =>
    obtain ⟨h, i⟩ := entry
    rw [List.foldl_cons, ih, addHelper, mem_named_addRules]
    simp only [List.mem_cons, Prod.mk.injEq]
    grind

theorem mem_catchAll_addHelpers {j : Nat} (entries : List (TagHelper × Nat)) (x : Index) :
    j ∈ (entries.foldl addHelper x).catchAll ↔
      j ∈ x.catchAll ∨ ∃ h, (h, j) ∈ entries ∧ h.rules.any TagHelper.Rule.isCatchAll := by
  induction entries generalizing x with
  | nil => simp
  | cons entry entries ih =>
    obtain ⟨h, i⟩ := entry
    rw [List.foldl_cons, ih, addHelper, mem_catchAll_addRules]
    simp only [List.mem_cons, Prod.mk.injEq]
    grind

/-- Entering tag helpers in the order of their positions keeps the lists in that order. -/
theorem ascending_addHelpers {key : Text} (helpers : List TagHelper) (start : Nat) (x : Index)
    (ascending : AscendingTo start (x.named key)) :
    (((helpers.zipIdx start).foldl addHelper x).named key).Pairwise (· < ·) := by
  induction helpers generalizing start x with
  | nil => exact ascending.1
  | cons h helpers ih =>
    rw [List.zipIdx_cons, List.foldl_cons]
    apply ih
    obtain ⟨increasing, bounded⟩ := ascending_addRules h.rules x ascending
    exact ⟨increasing, fun j member => Nat.le_succ_of_le (bounded j member)⟩

theorem mem_named_ofHelpers {helpers : List TagHelper} {key : Text} {i : Nat} :
    i ∈ (ofHelpers helpers).named key ↔
      ∃ h, helpers[i]? = some h ∧ h.rules.any (files key) := by
  rw [ofHelpers, mem_named_addHelpers]
  simp [named, List.mem_zipIdx_iff_getElem?]

theorem mem_catchAll_ofHelpers {helpers : List TagHelper} {i : Nat} :
    i ∈ (ofHelpers helpers).catchAll ↔
      ∃ h, helpers[i]? = some h ∧ h.rules.any TagHelper.Rule.isCatchAll := by
  rw [ofHelpers, mem_catchAll_addHelpers]
  simp [List.mem_zipIdx_iff_getElem?]

theorem nodup_named_ofHelpers (helpers : List TagHelper) (key : Text) :
    ((ofHelpers helpers).named key).Nodup := by
  have start : AscendingTo 0 (({} : Index).named key) := by simp [AscendingTo, named]
  have increasing := ascending_addHelpers helpers 0 {} start
  exact increasing.imp Nat.ne_of_lt

theorem mem_join {found more : List Nat} {j : Nat} : j ∈ join found more ↔ j ∈ found ∨ j ∈ more := by
  induction more generalizing found with
  | nil => simp [join]
  | cons i more ih =>
    rw [join, List.foldl_cons, ← join, ih]
    by_cases there : i ∈ found
    · simp only [List.contains_eq_mem, there, decide_true, if_true, List.mem_cons]
      grind
    · simp only [List.contains_eq_mem, there, decide_false, Bool.false_eq_true, if_false,
        List.mem_append, List.mem_cons]
      grind

theorem nodup_join {found : List Nat} (nodup : found.Nodup) (more : List Nat) :
    (join found more).Nodup := by
  induction more generalizing found with
  | nil => exact nodup
  | cons i more ih =>
    rw [join, List.foldl_cons]
    apply ih
    split
    case isTrue => exact nodup
    case isFalse new =>
      have absent : i ∉ found := by simpa using new
      rw [List.nodup_append]
      exact ⟨nodup, by simp, by grind⟩

theorem mem_candidates_ofHelpers {helpers : List TagHelper} {name : Text} {i : Nat} :
    i ∈ (ofHelpers helpers).candidates name ↔
      ∃ h, helpers[i]? = some h ∧ isCandidate name h := by
  rw [candidates, List.mem_mergeSort, mem_join, mem_named_ofHelpers, mem_catchAll_ofHelpers]
  simp only [isCandidate, files, List.any_eq_true, Bool.and_eq_true, Bool.or_eq_true,
    Bool.not_eq_true']
  grind

theorem candidates_increasing (helpers : List TagHelper) (name : Text) :
    ((ofHelpers helpers).candidates name).Pairwise (· < ·) := by
  have sorted : ((ofHelpers helpers).candidates name).Pairwise (· ≤ ·) := by
    rw [candidates]
    refine (List.pairwise_mergeSort ?_ ?_ _).imp ?_
    · simpa using fun _ _ _ => Nat.le_trans
    · simpa using Nat.le_total
    · simp
  have distinct : ((ofHelpers helpers).candidates name).Nodup :=
    (List.mergeSort_perm _ _).nodup_iff.mpr (nodup_join (nodup_named_ofHelpers helpers _) _)
  exact (sorted.and distinct).imp fun h => lt_of_le_of_ne h.1 h.2

/-- The candidates of a name are the positions of the tag helpers with a rule for the name. -/
theorem candidates_ofHelpers (helpers : List TagHelper) (name : Text) :
    (ofHelpers helpers).candidates name =
      (helpers.zipIdx.filter fun e => isCandidate name e.1).map Prod.snd := by
  apply List.Pairwise.eq_of_mem_iff (r := (· < ·)) (candidates_increasing helpers name)
  · rw [List.pairwise_map]
    apply List.Pairwise.filter
    have positions : (helpers.zipIdx.map Prod.snd).Pairwise (· < ·) := by
      rw [List.zipIdx_map_snd]
      exact List.pairwise_lt_range'
    exact List.pairwise_map.mp positions
  · intro i
    rw [mem_candidates_ofHelpers]
    simp [List.mem_zipIdx_iff_getElem?]

end Index

/-! ## Asking every tag helper -/

variable (b : Binder) (tagName : Text) (attributes : List Binding.WrittenAttribute)
  (parentTag : Text) (parentIsHelper : Bool)

/-- The name of the parent as rules see it. -/
def parentName : Text := if parentIsHelper then b.strip parentTag else parentTag

/-- A tag helper with its rules that select an element, in the order of their declaration. -/
def selecting (name parent : Text) (helper : TagHelper) : TagHelper × List TagHelper.Rule :=
  (helper, helper.rules.filter fun r => Binding.selects r name parent attributes)

/-- Some tag helpers, each with its rules that select an element, without those that have none. -/
def matchesAmong (name : Text) (helpers : List TagHelper) : List (TagHelper × List TagHelper.Rule) :=
  (helpers.map (selecting attributes name (b.parentName parentTag parentIsHelper))).filter
    fun m => !m.2.isEmpty

/-- The binding that matched tag helpers make, if there are any. -/
def bindingOf (matched : List (TagHelper × List TagHelper.Rule)) : Option ElementBinding :=
  if matched.isEmpty then none
  else some { tagName, parentTag, attributes, tagStart := b.tagStart, matched }

/-- Bind an element by asking some tag helpers one after another: nothing if the name lacks the
required start or no rule selects the element, and otherwise each of them with a selecting rule. -/
def scan? (helpers : List TagHelper) : Option ElementBinding :=
  match b.strip? tagName with
  | none => none
  | some name =>
    b.bindingOf tagName attributes parentTag
      (b.matchesAmong attributes parentTag parentIsHelper name helpers)

theorem bindingOf_injective : Function.Injective (b.bindingOf tagName attributes parentTag) := by
  intro first second same
  cases first <;> cases second <;> simp_all [bindingOf]

theorem filterMap_matched? (name parent : Text) (helpers : List TagHelper) :
    helpers.filterMap (matched? name parent attributes) =
      (helpers.map (selecting attributes name parent)).filter fun m => !m.2.isEmpty := by
  induction helpers with
  | nil => rfl
  | cons h helpers ih =>
    rw [List.filterMap_cons, List.map_cons, matched?, List.filter_cons, selecting, ih]
    cases h.rules.filter fun r => Binding.selects r name parent attributes <;> rfl

/-- The tag helpers that the index brings out, without their positions. -/
theorem filterMap_candidates {α : Type} (f : TagHelper → Option α) (name : Text) :
    ((b.index.candidates name).filterMap fun i => (b.helpers[i]?).bind f) =
      (b.helpers.filter (isCandidate name)).filterMap f := by
  have located : ∀ e ∈ b.helpers.zipIdx.filter fun e => isCandidate name e.1,
      (b.helpers[e.2]?).bind f = f e.1 := by
    intro e member
    have position := (List.mem_filter.mp member).1
    rw [List.mem_zipIdx_iff_getElem?] at position
    simp [position]
  calc ((b.index.candidates name).filterMap fun i => (b.helpers[i]?).bind f)
      = (b.helpers.zipIdx.filter fun e => isCandidate name e.1).filterMap
          fun e => (b.helpers[e.2]?).bind f := by
        rw [index, Index.candidates_ofHelpers, List.filterMap_map]
        rfl
    _ = (b.helpers.zipIdx.filter fun e => isCandidate name e.1).filterMap (f ∘ Prod.fst) :=
        List.filterMap_congr located
    _ = ((b.helpers.zipIdx.map Prod.fst).filter (isCandidate name)).filterMap f := by
        rw [List.filter_map, List.filterMap_map]
        rfl
    _ = (b.helpers.filter (isCandidate name)).filterMap f := by rw [List.zipIdx_map_fst]

/-- Binding through the index is a scan of what the index brings out. -/
theorem bind?_eq_scan?_candidates :
    b.bind? tagName attributes parentTag parentIsHelper =
      b.scan? tagName attributes parentTag parentIsHelper
        (b.helpers.filter (isCandidate (b.strip tagName))) := by
  rw [bind?, scan?]
  cases stripped : b.strip? tagName with
  | none => rfl
  | some name =>
    have bare : b.strip tagName = name := by simp [strip, stripped]
    simp only [filterMap_candidates, filterMap_matched?, bare]
    rfl

theorem matchesAmong_filter (name : Text) (keep : TagHelper → Bool) (helpers : List TagHelper) :
    b.matchesAmong attributes parentTag parentIsHelper name (helpers.filter keep) =
      (b.matchesAmong attributes parentTag parentIsHelper name helpers).filter fun m => keep m.1 := by
  rw [matchesAmong, matchesAmong, List.filter_filter, List.filter_map, List.filter_map,
    List.filter_filter]
  congr 1
  apply List.filter_congr
  intro h _
  exact Bool.and_comm _ _

/-- Leaving out tag helpers changes the binding exactly when a rule of one of them selects the
element. -/
theorem scan?_filter_eq_iff (keep : TagHelper → Bool) (helpers : List TagHelper) :
    b.scan? tagName attributes parentTag parentIsHelper (helpers.filter keep) =
        b.scan? tagName attributes parentTag parentIsHelper helpers ↔
      ∀ name, b.strip? tagName = some name → ∀ h ∈ helpers, ∀ r ∈ h.rules,
        Binding.selects r name (b.parentName parentTag parentIsHelper) attributes → keep h := by
  rw [scan?, scan?]
  cases b.strip? tagName with
  | none => simp
  | some name =>
    refine (bindingOf_injective b tagName attributes parentTag).eq_iff.trans ?_
    rw [matchesAmong_filter, List.filter_eq_self]
    constructor
    · intro kept name' named h member r declared selected
      obtain rfl := Option.some.inj named
      apply kept (selecting attributes name (b.parentName parentTag parentIsHelper) h)
      exact List.mem_filter.mpr ⟨List.mem_map_of_mem member, by
        simpa [selecting] using ⟨r, declared, selected⟩⟩
    · intro kept m member
      obtain ⟨mapped, found⟩ := List.mem_filter.mp member
      obtain ⟨h, given, rfl⟩ := List.mem_map.mp mapped
      obtain ⟨r, declared, selected⟩ : ∃ r ∈ h.rules,
          Binding.selects r name (b.parentName parentTag parentIsHelper) attributes := by
        simpa [selecting] using found
      exact kept name rfl h given r declared selected

/-- A rule that selects an element is found under its name, if lower case tells all spellings of
the two names together. -/
theorem isCandidate_of_selects {name parent : Text} {h : TagHelper} {r : TagHelper.Rule}
    (declared : r ∈ h.rules) (selected : Binding.selects r name parent attributes)
    (element : name.LowerFaithful) (rule : r.caseSensitive ∨ r.tagName.LowerFaithful) :
    isCandidate name h := by
  have accepted : Binding.acceptsTag r name := by
    simp only [Binding.selects, Bool.and_eq_true] at selected
    exact selected.1.1
  rw [Binding.acceptsTag] at accepted
  rw [isCandidate, List.any_eq_true]
  refine ⟨r, declared, ?_⟩
  split at accepted
  case isTrue => cases accepted
  case isFalse =>
    cases everything : r.isCatchAll with
    | true => rfl
    | false =>
      simp only [everything, Bool.false_or, Binding.equalName] at accepted ⊢
      rw [beq_iff_eq]
      cases exact : r.caseSensitive with
      | true => simp_all
      | false =>
        simp only [exact, Bool.false_eq_true, if_false, false_or] at accepted rule
        exact (element.toLower_eq rule accepted).symm

/-- A binder finds the tag helpers of an element among those that its index brings out.  It misses
none exactly when the index brings out each tag helper with a selecting rule, and it misses none
of an element if lower case tells all spellings of the names together. -/
theorem bind?_eq_scan?_iff :
    b.bind? tagName attributes parentTag parentIsHelper =
        b.scan? tagName attributes parentTag parentIsHelper
          (b.helpers.filter (isCandidate (b.strip tagName))) ∧
      (b.bind? tagName attributes parentTag parentIsHelper =
          b.scan? tagName attributes parentTag parentIsHelper b.helpers ↔
        ∀ name, b.strip? tagName = some name → ∀ h ∈ b.helpers, ∀ r ∈ h.rules,
          Binding.selects r name (b.parentName parentTag parentIsHelper) attributes →
            ∃ r' ∈ h.rules, r'.isCatchAll ∨ r'.tagName.toLower = name.toLower) ∧
      ((b.strip tagName).LowerFaithful →
        (∀ h ∈ b.helpers, ∀ r ∈ h.rules, r.caseSensitive ∨ r.tagName.LowerFaithful) →
        b.bind? tagName attributes parentTag parentIsHelper =
          b.scan? tagName attributes parentTag parentIsHelper b.helpers) := by
  refine ⟨bind?_eq_scan?_candidates _ _ _ _ _, ?_, ?_⟩
  · rw [bind?_eq_scan?_candidates, scan?_filter_eq_iff]
    refine forall₂_congr fun name stripped => ?_
    have bare : b.strip tagName = name := by simp [strip, stripped]
    simp only [bare, isCandidate, List.any_eq_true, Bool.or_eq_true, beq_iff_eq]
  · intro element rules
    rw [bind?_eq_scan?_candidates, scan?_filter_eq_iff]
    intro name stripped h member r declared selected
    have bare : b.strip tagName = name := by simp [strip, stripped]
    rw [bare] at element ⊢
    exact isCandidate_of_selects attributes declared selected element (rules h member r declared)

end Binder

end TemplateCompiler
