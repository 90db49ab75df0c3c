import TemplateCompiler.Proofs.FoldedLetters
import TemplateCompiler.TagHelper.Basic

/-!
# The names that the checks of a draft accept

The findings about a descriptor are those of many small checks, which look at blank names, at the
sigil of directive attributes, at characters and at reserved names in different sequences.  Taken
together they ask for names that markup can write: a descriptor has no findings exactly if every
name of its draft is such a name (`Draft.allDiagnostics_eq_nil_iff`).

There is one exception.  The sigil of a directive attribute is taken off after the name is found not
to be blank and before its characters are looked at, so the sigil alone passes as a name.
-/

namespace TemplateCompiler

theorem Text.stripStart?_eq_some {t start rest : Text} :
    t.stripStart? start = some rest ↔ t = start ++ rest := by
  unfold Text.stripStart? Text.startsWith
  rw [Option.ite_none_right_eq_some, List.isPrefixOf_iff_prefix, Option.some.injEq]
  constructor
  · rintro ⟨⟨tail, rfl⟩, rfl⟩
    rw [List.drop_left]
  · rintro rfl
    exact ⟨List.prefix_append start rest, List.drop_left⟩

namespace TagHelper

/-! ## Names -/

/-- A name that markup can write: it is not blank and has neither white space nor a forbidden
character in it. -/
structure ValidName (name : Text) : Prop where
  notBlank : name.isAllBlank = false
  noSpace : ∀ c ∈ name.chars, Text.isBlank c = false
  noForbidden : ∀ c ∈ name.chars, c ∉ forbiddenCharacters

/-- The name of a directive attribute: the sigil and a name that markup can write. -/
def SigilName (name : Text) : Prop := ∃ rest : Text, name = "@" ++ rest ∧ ValidName rest

def StartsWithData (name : Text) : Prop :=
  ∃ head rest : Text, name = head ++ rest ∧ head.map Text.lowerByte = "data-"

theorem isReserved_iff (name : Text) : isReserved name = true ↔ StartsWithData name := by
  have lower : ∀ c ∈ reservedStart, c < 0x80 ∧ Text.lowerByte c = c := by decide +kernel
  rw [isReserved, Bool.and_eq_true, decide_eq_true_eq]
  constructor
  · rintro ⟨long, same⟩
    have head : (name.take reservedStart.length).length = reservedStart.length :=
      List.length_take_of_le long
    exact ⟨_, _, (List.take_append_drop _ name).symm,
      (Text.equalFold_iff_of_lower lower head).mp same⟩
  · rintro ⟨head, rest, rfl, same⟩
    have long : head.length = reservedStart.length := by
      rw [← List.length_map Text.lowerByte, same]
      rfl
    rw [← long, List.take_left, Text.equalFold_iff_of_lower lower long, List.length_append]
    exact ⟨Nat.le_add_right _ _, same⟩

theorem firstInvalid?_eq_none {name : Text} : firstInvalid? name = none ↔
    (∀ c ∈ name.chars, Text.isBlank c = false) ∧ ∀ c ∈ name.chars, c ∉ forbiddenCharacters := by
  rw [firstInvalid?, List.find?_eq_none, ← forall_and]
  simp only [Bool.or_eq_true, List.contains_iff_mem, not_or, Bool.not_eq_true, forall_and]

theorem validName_iff {name : Text} :
    ValidName name ↔ name.isAllBlank = false ∧ firstInvalid? name = none := by
  rw [firstInvalid?_eq_none]
  constructor
  · intro valid
    exact ⟨valid.notBlank, valid.noSpace, valid.noForbidden⟩
  · rintro ⟨notBlank, noSpace, noForbidden⟩
    exact ⟨notBlank, noSpace, noForbidden⟩

/-- A name whose first character is no white space is not blank. -/
theorem not_blank_of_first {b : UInt8} {t : Text} (ascii : b < 0x80)
    (visible : Text.isBlank (Char.ofNat b.toNat) = false) : Text.isAllBlank (b :: t) = false := by
  rw [Text.isAllBlank, Text.chars_cons_of_ascii ascii, List.all_cons, visible, Bool.false_and]

theorem not_blank_of_sigil (rest : Text) : Text.isAllBlank ("@" ++ rest) = false :=
  not_blank_of_first (by decide) (by decide)

theorem StartsWithData.not_blank {name : Text} (start : StartsWithData name) :
    name.isAllBlank = false := by
  obtain ⟨head, rest, rfl, same⟩ := start
  cases head with
  | nil => cases same
  | cons b head =>
    have letter : Text.lowerByte b = 0x64 := (List.cons.inj same).1
    have either : b = 0x64 ∨ b = 0x44 := by
      unfold Text.lowerByte at letter
      split at letter
      · rw [← UInt8.toNat_inj, UInt8.toNat_add] at letter
        change (_ + 32) % 256 = 100 at letter
        have bound := b.toNat_lt
        right
        rw [← UInt8.toNat_inj]
        change b.toNat = 68
        omega
      · exact .inl letter
    rcases either with rfl | rfl <;> exact not_blank_of_first (by decide) (by decide)

/-- A name without a character that is not allowed is valid unless it is empty. -/
theorem firstInvalid?_eq_none_iff {name : Text} :
    firstInvalid? name = none ↔ name = [] ∨ ValidName name := by
  constructor
  · intro allowed
    by_cases blank : name.isAllBlank = true
    · cases name with
      | nil => exact .inl rfl
      | cons b t =>
        obtain ⟨c, member⟩ := List.exists_mem_of_ne_nil _ (Text.chars_ne_nil (List.cons_ne_nil b t))
        have space := (firstInvalid?_eq_none.mp allowed).1 c member
        rw [List.all_eq_true.mp blank c member] at space
        cases space
    · exact .inr (validName_iff.mpr ⟨Bool.eq_false_iff.mpr blank, allowed⟩)
  · rintro (rfl | valid)
    · rfl
    · exact (validName_iff.mp valid).2

/-- What the checks accept as the name of a directive attribute. -/
def PassingSigilName (name : Text) : Prop := name = "@" ∨ SigilName name

theorem PassingSigilName.not_blank {name : Text} (passing : PassingSigilName name) :
    name.isAllBlank = false := by
  rcases passing with rfl | ⟨rest, rfl, -⟩
  · exact not_blank_of_sigil []
  · exact not_blank_of_sigil rest

theorem passingSigilName_iff {name : Text} : PassingSigilName name ↔
    ∃ rest : Text, name.stripStart? "@" = some rest ∧ firstInvalid? rest = none := by
  simp only [Text.stripStart?_eq_some, firstInvalid?_eq_none_iff]
  constructor
  · rintro (rfl | ⟨rest, rfl, valid⟩)
    · exact ⟨[], rfl, .inl rfl⟩
    · exact ⟨rest, rfl, .inr valid⟩
  · rintro ⟨rest, rfl, rfl | valid⟩
    · exact .inl rfl
    · exact .inr ⟨rest, rfl, valid⟩

theorem not_sigilName_alone : ¬ SigilName "@" := by
  rintro ⟨rest, parts, valid⟩
  rw [List.self_eq_append_right.mp parts] at valid
  cases valid.notBlank

/-! ## Drafts -/

/-- A name as an attribute has to have it, given what is accepted for directive attributes. -/
def NameFor (sigil : Text → Prop) (isDirective : Bool) (name : Text) : Prop :=
  if isDirective then sigil name else ValidName name

/-- The names of a rule are such as markup can write. -/
structure RuleDraft.WellNamed (sigil : Text → Prop) (r : RuleDraft) : Prop where
  tagName : r.tagName = catchAll ∨ ValidName r.tagName
  parentTag : r.parentTag = [] ∨ ValidName r.parentTag
  attributes : ∀ a ∈ r.attributes, NameFor sigil a.isDirectiveAttribute a.name

/-- The names of an attribute are such as markup can write, and not reserved for the browser. -/
structure AttributeDraft.WellNamed (sigil : Text → Prop) (ofComponent : Bool) (a : AttributeDraft) :
    Prop where
  name : NameFor sigil a.isDirectiveAttribute a.name
    ∨ a.name.isAllBlank = true ∧ NameFor sigil a.isDirectiveAttribute a.indexerStart
  indexerStart : a.indexerStart = [] ∨ NameFor sigil a.isDirectiveAttribute a.indexerStart
  unreserved : a.isDirectiveAttribute = true ∨ ofComponent = true
    ∨ ¬ StartsWithData a.name ∧ ¬ StartsWithData a.indexerStart
  parameters : ∀ p ∈ a.parameters, ValidName p.name

/-- All names of a draft are such as markup can write. -/
structure Draft.WellNamed (sigil : Text → Prop) (d : Draft) : Prop where
  name : d.name.isAllBlank = false
  rules : ∀ r ∈ d.rules, r.WellNamed sigil
  attributes : ∀ a ∈ d.attributes, a.WellNamed sigil (isComponentKind d.kind)
  childTags : ∀ c ∈ d.childTags, ValidName c.name

/-! ## Checks -/

theorem Draft.check_eq_nil {d : Draft} : d.check = [] ↔ d.name.isAllBlank = false := by
  rw [Draft.check]
  cases d.name.isAllBlank <;> simp

theorem checkTagName_eq_nil {name : Text} :
    checkTagName name = [] ↔ name = catchAll ∨ ValidName name := by
  rw [checkTagName, validName_iff]
  by_cases all : name = catchAll
  · subst all
    exact iff_of_true rfl (.inl rfl)
  · cases name.isAllBlank <;> cases firstInvalid? name <;> simp [all]

theorem checkParentTag_eq_nil {name : Text} :
    checkParentTag name = [] ↔ name = [] ∨ ValidName name := by
  rw [checkParentTag, validName_iff]
  cases name with
  | nil => exact iff_of_true rfl (.inl rfl)
  | cons b t => cases Text.isAllBlank (b :: t) <;> cases firstInvalid? (b :: t) <;> simp

theorem ChildTagDraft.check_eq_nil {c : ChildTagDraft} {owner : Draft} :
    c.check owner = [] ↔ ValidName c.name := by
  rw [ChildTagDraft.check, validName_iff]
  cases c.name.isAllBlank <;> cases firstInvalid? c.name <;> simp

theorem ParameterDraft.check_eq_nil {p : ParameterDraft} {owner : Text} :
    p.check owner = [] ↔ ValidName p.name := by
  rw [ParameterDraft.check, validName_iff]
  cases p.name.isAllBlank <;> cases firstInvalid? p.name <;> simp

theorem NameFor.not_blank {isDirective : Bool} {name : Text}
    (named : NameFor PassingSigilName isDirective name) : name.isAllBlank = false := by
  cases isDirective with
  | false => exact (show ValidName name from named).notBlank
  | true => exact PassingSigilName.not_blank named

theorem RequiredAttributeDraft.check_eq_nil {a : RequiredAttributeDraft} :
    a.check = [] ↔ NameFor PassingSigilName a.isDirectiveAttribute a.name := by
  rw [RequiredAttributeDraft.check]
  cases a.isDirectiveAttribute with
  | false =>
    change _ ↔ ValidName a.name
    rw [validName_iff]
    cases a.name.isAllBlank <;> cases bad : firstInvalid? a.name <;> simp [bad]
  | true =>
    change _ ↔ PassingSigilName a.name
    by_cases blank : a.name.isAllBlank = true
    · rw [if_pos blank]
      refine iff_of_false (List.cons_ne_nil _ _) fun passing => ?_
      rw [passing.not_blank] at blank
      cases blank
    · rw [if_neg blank, passingSigilName_iff]
      cases Text.stripStart? a.name "@" with
      | none => simp
      | some rest => cases bad : firstInvalid? rest <;> simp [bad]

theorem checkAttributeName_eq_nil {name owner : Text} {isDirective mayBeReserved : Bool}
    {reservedCode characterCode : DiagnosticCode} (notBlank : name.isAllBlank = false) :
    checkAttributeName name isDirective mayBeReserved owner reservedCode characterCode = [] ↔
      NameFor PassingSigilName isDirective name
        ∧ (isDirective = true ∨ mayBeReserved = true ∨ ¬ StartsWithData name) := by
  rw [checkAttributeName, ← isReserved_iff]
  cases isDirective with
  | false =>
    change _ ↔ ValidName name ∧ _
    rw [validName_iff, notBlank]
    cases mayBeReserved <;> cases isReserved name <;> cases bad : firstInvalid? name <;> simp [bad]
  | true =>
    change _ ↔ PassingSigilName name ∧ _
    rw [passingSigilName_iff]
    cases Text.stripStart? name "@" with
    | none => simp
    | some rest => cases bad : firstInvalid? rest <;> simp [bad]

theorem AttributeDraft.check_eq_nil {a : AttributeDraft} {owner : Draft} : a.check owner = [] ↔
    (NameFor PassingSigilName a.isDirectiveAttribute a.name
      ∨ a.name.isAllBlank = true ∧ NameFor PassingSigilName a.isDirectiveAttribute a.indexerStart)
    ∧ (a.indexerStart = [] ∨ NameFor PassingSigilName a.isDirectiveAttribute a.indexerStart)
    ∧ (a.isDirectiveAttribute = true ∨ isComponentKind owner.kind = true
      ∨ ¬ StartsWithData a.name ∧ ¬ StartsWithData a.indexerStart) := by
  have unnamed : a.name.isAllBlank = true → ¬ NameFor PassingSigilName a.isDirectiveAttribute a.name
      ∧ ¬ StartsWithData a.name := by
    intro blank
    constructor
    · intro named
      rw [named.not_blank] at blank
      cases blank
    · intro start
      rw [start.not_blank] at blank
      cases blank
  have unindexed : a.indexerStart = [] →
      ¬ NameFor PassingSigilName a.isDirectiveAttribute a.indexerStart
        ∧ ¬ StartsWithData a.indexerStart := by
    intro none
    rw [none]
    constructor
    · intro named
      cases named.not_blank
    · intro start
      cases start.not_blank
  have names (finding : Diagnostic) :
      (if a.name.isAllBlank then if a.indexerStart.isEmpty then [finding] else []
        else checkAttributeName a.name a.isDirectiveAttribute (isComponentKind owner.kind)
          owner.name .dataAttribute .invalidAttributeName) = [] ↔
      a.name.isAllBlank = true ∧ a.indexerStart ≠ []
        ∨ NameFor PassingSigilName a.isDirectiveAttribute a.name ∧ (a.isDirectiveAttribute = true
          ∨ isComponentKind owner.kind = true ∨ ¬ StartsWithData a.name) := by
    by_cases blank : a.name.isAllBlank = true
    · have notNamed := (unnamed blank).1
      cases a.indexerStart <;> simp [blank, notNamed]
    · rw [if_neg blank, checkAttributeName_eq_nil (Bool.eq_false_iff.mpr blank)]
      simp [blank]
  have indexers (finding : Diagnostic) :
      (if a.indexerStart.isEmpty then [] else if a.indexerStart.isAllBlank then [finding]
        else checkAttributeName a.indexerStart a.isDirectiveAttribute (isComponentKind owner.kind)
          owner.name .dataIndexer .invalidIndexer) = [] ↔
      a.indexerStart = []
        ∨ NameFor PassingSigilName a.isDirectiveAttribute a.indexerStart
          ∧ (a.isDirectiveAttribute = true ∨ isComponentKind owner.kind = true
            ∨ ¬ StartsWithData a.indexerStart) := by
    by_cases none : a.indexerStart = []
    · simp [none]
    · by_cases blank : a.indexerStart.isAllBlank = true
      · have notNamed : ¬ NameFor PassingSigilName a.isDirectiveAttribute a.indexerStart := by
          intro named
          rw [named.not_blank] at blank
          cases blank
        simp [none, blank, notNamed]
      · have notBlank := Bool.eq_false_iff.mpr blank
        simp [none, blank, checkAttributeName_eq_nil notBlank]
  rw [AttributeDraft.check, List.append_eq_nil_iff, names, indexers]
  grind

/-- The findings about a descriptor are those of the checks of its draft. -/
theorem Draft.allDiagnostics_build (d : Draft) : d.build.allDiagnostics =
    d.check ++ d.childTags.flatMap (·.check d)
      ++ d.attributes.flatMap (fun a => a.check d ++ a.parameters.flatMap (·.check a.name))
      ++ d.rules.flatMap (fun r => r.check ++ r.attributes.flatMap (·.check)) := by
  simp only [allDiagnostics, Draft.build, AttributeDraft.build, RuleDraft.build, List.flatMap_map]
  rfl

theorem RuleDraft.checks_eq_nil {r : RuleDraft} :
    r.check ++ r.attributes.flatMap (·.check) = [] ↔ r.WellNamed PassingSigilName := by
  simp only [RuleDraft.check, List.append_eq_nil_iff, List.flatMap_eq_nil_iff, checkTagName_eq_nil,
    checkParentTag_eq_nil, RequiredAttributeDraft.check_eq_nil]
  constructor
  · rintro ⟨⟨tagName, parentTag⟩, attributes⟩
    exact ⟨tagName, parentTag, attributes⟩
  · intro named
    exact ⟨⟨named.tagName, named.parentTag⟩, named.attributes⟩

theorem AttributeDraft.checks_eq_nil {a : AttributeDraft} {owner : Draft} :
    a.check owner ++ a.parameters.flatMap (·.check a.name) = [] ↔
      a.WellNamed PassingSigilName (isComponentKind owner.kind) := by
  simp only [List.append_eq_nil_iff, List.flatMap_eq_nil_iff, AttributeDraft.check_eq_nil,
    ParameterDraft.check_eq_nil]
  constructor
  · rintro ⟨⟨name, indexerStart, unreserved⟩, parameters⟩
    exact ⟨name, indexerStart, unreserved, parameters⟩
  · intro named
    exact ⟨⟨named.name, named.indexerStart, named.unreserved⟩, named.parameters⟩

theorem Draft.checks_eq_nil {d : Draft} :
    d.build.allDiagnostics = [] ↔ d.WellNamed PassingSigilName := by
  rw [Draft.allDiagnostics_build, List.append_eq_nil_iff, List.append_eq_nil_iff,
    List.append_eq_nil_iff, Draft.check_eq_nil, List.flatMap_eq_nil_iff, List.flatMap_eq_nil_iff,
    List.flatMap_eq_nil_iff]
  constructor
  · rintro ⟨⟨⟨name, childTags⟩, attributes⟩, rules⟩
    exact ⟨name, fun r member => RuleDraft.checks_eq_nil.mp (rules r member),
      fun a member => AttributeDraft.checks_eq_nil.mp (attributes a member),
      fun c member => ChildTagDraft.check_eq_nil.mp (childTags c member)⟩
  · intro named
    exact ⟨⟨⟨named.name, fun c member => ChildTagDraft.check_eq_nil.mpr (named.childTags c member)⟩,
      fun a member => AttributeDraft.checks_eq_nil.mpr (named.attributes a member)⟩,
      fun r member => RuleDraft.checks_eq_nil.mpr (named.rules r member)⟩

/-! ## The sigil alone -/

theorem nameFor_iff {isDirective : Bool} {name : Text} : NameFor SigilName isDirective name ↔
    NameFor PassingSigilName isDirective name ∧ (isDirective = true → name ≠ "@") := by
  cases isDirective with
  | false =>
    refine ⟨fun valid => ⟨valid, fun directive => ?_⟩, And.left⟩
    cases directive
  | true =>
    change SigilName name ↔ PassingSigilName name ∧ (true = true → name ≠ "@")
    constructor
    · intro named
      refine ⟨.inr named, fun _ alone => ?_⟩
      rw [alone] at named
      exact not_sigilName_alone named
    · rintro ⟨alone | named, other⟩
      · exact absurd alone (other rfl)
      · exact named

theorem RuleDraft.wellNamed_iff {r : RuleDraft} : r.WellNamed SigilName ↔
    r.WellNamed PassingSigilName
      ∧ ∀ a ∈ r.attributes, a.isDirectiveAttribute = true → a.name ≠ "@" := by
  constructor
  · intro named
    have both a (member : a ∈ r.attributes) := nameFor_iff.mp (named.attributes a member)
    exact ⟨⟨named.tagName, named.parentTag, fun a member => (both a member).1⟩,
      fun a member => (both a member).2⟩
  · rintro ⟨named, others⟩
    exact ⟨named.tagName, named.parentTag,
      fun a member => nameFor_iff.mpr ⟨named.attributes a member, others a member⟩⟩

theorem AttributeDraft.wellNamed_iff {a : AttributeDraft} {ofComponent : Bool} :
    a.WellNamed SigilName ofComponent ↔ a.WellNamed PassingSigilName ofComponent
      ∧ (a.isDirectiveAttribute = true → a.name ≠ "@" ∧ a.indexerStart ≠ "@") := by
  constructor
  · intro named
    have name : a.isDirectiveAttribute = true → a.name ≠ "@" := by
      intro directive alone
      rcases named.name with given | ⟨blank, -⟩
      · exact (nameFor_iff.mp given).2 directive alone
      · rw [alone] at blank
        cases blank
    have indexer : a.isDirectiveAttribute = true → a.indexerStart ≠ "@" := by
      intro directive alone
      rcases named.indexerStart with none | given
      · rw [alone] at none
        cases none
      · exact (nameFor_iff.mp given).2 directive alone
    refine ⟨⟨?_, ?_, named.unreserved, named.parameters⟩,
      fun directive => ⟨name directive, indexer directive⟩⟩
    · exact named.name.imp (fun given => (nameFor_iff.mp given).1)
        fun ⟨blank, given⟩ => ⟨blank, (nameFor_iff.mp given).1⟩
    · exact named.indexerStart.imp_right fun given => (nameFor_iff.mp given).1
  · rintro ⟨named, others⟩
    have indexer (given : NameFor PassingSigilName a.isDirectiveAttribute a.indexerStart) :
        NameFor SigilName a.isDirectiveAttribute a.indexerStart :=
      nameFor_iff.mpr ⟨given, fun directive => (others directive).2⟩
    refine ⟨?_, named.indexerStart.imp_right indexer, named.unreserved, named.parameters⟩
    exact named.name.imp
      (fun given => nameFor_iff.mpr ⟨given, fun directive => (others directive).1⟩)
      fun ⟨blank, given⟩ => ⟨blank, indexer given⟩

/-- The names and indexer starts of the directive attributes of a draft, bound or required. -/
def Draft.directiveNames (d : Draft) : List Text :=
  d.rules.flatMap (fun r => (r.attributes.filter (·.isDirectiveAttribute)).map (·.name))
    ++ (d.attributes.filter (·.isDirectiveAttribute)).flatMap fun a => [a.name, a.indexerStart]

theorem Draft.not_mem_directiveNames {d : Draft} {name : Text} : name ∉ d.directiveNames ↔
    (∀ r ∈ d.rules, ∀ a ∈ r.attributes, a.isDirectiveAttribute = true → a.name ≠ name)
      ∧ ∀ a ∈ d.attributes, a.isDirectiveAttribute = true →
        a.name ≠ name ∧ a.indexerStart ≠ name := by
  simp only [Draft.directiveNames, List.mem_append, List.mem_flatMap, List.mem_map, List.mem_filter,
    List.mem_cons, List.not_mem_nil]
  grind

theorem Draft.wellNamed_iff {d : Draft} : d.WellNamed SigilName ↔
    d.WellNamed PassingSigilName ∧ ("@" : Text) ∉ d.directiveNames := by
  rw [Draft.not_mem_directiveNames]
  constructor
  · intro named
    have rules r (member : r ∈ d.rules) := RuleDraft.wellNamed_iff.mp (named.rules r member)
    have attributes a (member : a ∈ d.attributes) :=
      AttributeDraft.wellNamed_iff.mp (named.attributes a member)
    exact ⟨⟨named.name, fun r member => (rules r member).1,
      fun a member => (attributes a member).1, named.childTags⟩,
      fun r member => (rules r member).2, fun a member => (attributes a member).2⟩
  · rintro ⟨named, rules, attributes⟩
    exact ⟨named.name,
      fun r member => RuleDraft.wellNamed_iff.mpr ⟨named.rules r member, rules r member⟩,
      fun a member =>
        AttributeDraft.wellNamed_iff.mpr ⟨named.attributes a member, attributes a member⟩,
      named.childTags⟩

/-- A descriptor has no findings exactly if all names of its draft are such as markup can write,
but for directive attributes whose name is the sigil alone: these pass as well. -/
theorem Draft.allDiagnostics_eq_nil_iff (d : Draft) :
    (d.build.allDiagnostics = [] ↔ d.WellNamed fun name => name = "@" ∨ SigilName name)
      ∧ (d.WellNamed SigilName
        ↔ d.build.allDiagnostics = [] ∧ ("@" : Text) ∉ d.directiveNames) := by
  refine ⟨Draft.checks_eq_nil, ?_⟩
  rw [Draft.checks_eq_nil]
  exact Draft.wellNamed_iff

example : (Draft.build { name := "t", attributes := [
    { name := "@", isDirectiveAttribute := true }] }).allDiagnostics = [] := by
  decide +kernel

end TagHelper

end TemplateCompiler
