import TemplateCompiler.Proofs.HashedFields
import TemplateCompiler.TagHelper.Basic

/-!
# Digests of tag helpers

A part of a tag helper is hashed with everything that was said about it in its draft, and parts that
have parts are hashed with the digests of these.  What is not hashed, the findings, follows from
what is.  So a tag helper that was built from a draft is determined by its digest
(`TagHelper.Built.eq_of_digest`), as long as there are no collisions among the texts that were
hashed for it.
-/

namespace TemplateCompiler

open Digest

theorem List.eq_of_map_eq_map {α β : Type} {f : α → β} {xs ys : List α}
    (each : ∀ x ∈ xs, ∀ y ∈ ys, f x = f y → x = y) (same : xs.map f = ys.map f) : xs = ys := by
  induction xs generalizing ys with
  | nil =>
    cases ys with
    | nil => rfl
    | cons y ys => cases same
  | cons x xs ih =>
    cases ys with
    | nil => cases same
    | cons y ys =>
      have parts := List.cons.inj same
      have first := each x List.mem_cons_self y List.mem_cons_self parts.1
      have rest := ih (fun x member y member' =>
        each x (List.mem_cons_of_mem _ member) y (List.mem_cons_of_mem _ member')) parts.2
      rw [first, rest]

namespace Metadata

/-- Metadata are determined by the texts that are hashed behind their size. -/
theorem eq_of_texts {m n : Metadata}
    (same : m.entries.flatMap (fun e => [Field.text e.1, Field.text e.2]) =
      n.entries.flatMap fun e => [Field.text e.1, Field.text e.2]) : m = n := by
  apply Metadata.ext
  generalize m.entries = entries at same ⊢
  generalize n.entries = others at same ⊢
  induction entries generalizing others with
  | nil =>
    cases others with
    | nil => rfl
    | cons => cases same
  | cons e entries ih =>
    cases others with
    | nil => cases same
    | cons o others =>
      have key := List.cons.inj same
      have value := List.cons.inj key.2
      have first : e = o := Prod.ext (Field.text.inj key.1) (Field.text.inj value.1)
      rw [first, ih others value.2]

theorem fields_injective {m n : Metadata} (same : m.fields = n.fields) : m = n :=
  eq_of_texts (List.cons.inj same).2

/-- The digests of parts can be told from the metadata that follow them. -/
theorem digests_append_inj {α : Type} {f : α → Digest} {xs ys : List α} {m n : Metadata}
    (same : xs.map (fun x => .digest (f x)) ++ m.fields =
      ys.map (fun y => .digest (f y)) ++ n.fields) : xs.map f = ys.map f ∧ m = n := by
  have parts := Field.digests_append_size_inj same
  exact ⟨parts.1, eq_of_texts parts.2⟩

end Metadata

namespace TagHelper

/-! ## Flags -/

/-- Flags as a number, the first one least significant. -/
def bitsOf (flags : List Bool) : Nat := flags.foldr (fun flag n => 2 * n + flag.toNat) 0

theorem bitsOf_lt (flags : List Bool) : bitsOf flags < 2 ^ flags.length := by
  induction flags with
  | nil => exact Nat.one_pos
  | cons flag flags ih =>
    have bit := flag.toNat_lt
    have step : bitsOf (flag :: flags) = 2 * bitsOf flags + flag.toNat := rfl
    rw [List.length_cons, Nat.pow_succ]
    omega

theorem bitsOf_injective {flags others : List Bool} (lengths : flags.length = others.length)
    (same : bitsOf flags = bitsOf others) : flags = others := by
  induction flags generalizing others with
  | nil => exact (List.length_eq_zero_iff.mp lengths.symm).symm
  | cons flag flags ih =>
    cases others with
    | nil => cases lengths
    | cons other others =>
      have step : 2 * bitsOf flags + flag.toNat = 2 * bitsOf others + other.toNat := same
      have bit := flag.toNat_lt
      have bit' := other.toNat_lt
      have rest := ih (Nat.succ.inj lengths) (by omega)
      have bits : flag.toNat = other.toNat := by omega
      have first : flag = other := by
        cases flag <;> cases other <;> first | rfl | cases bits
      rw [first, rest]

/-- The field of at most sixty-two flags tells what they are. -/
theorem ordinal_bitsOf_injective {flags others : List Bool} (few : flags.length ≤ 62)
    (lengths : flags.length = others.length)
    (same : Field.ordinal (bitsOf flags) = Field.ordinal (bitsOf others)) : flags = others := by
  have small : ∀ {flags : List Bool}, flags.length ≤ 62 → bitsOf flags < 2 ^ 63 :=
    fun few => Nat.lt_of_lt_of_le (bitsOf_lt _)
      (Nat.pow_le_pow_right (by decide) (Nat.le_succ_of_le few))
  exact bitsOf_injective lengths
    (Field.ordinal_injective (small few) (small (lengths ▸ few)) same)

theorem AttributeFlags.bits_injective {f g : AttributeFlags}
    (same : Field.ordinal f.bits = Field.ordinal g.bits) : f = g := by
  have flags : [f.caseSensitive, f.isEnum, f.isString, f.isBoolean, f.hasIndexer,
        f.isIndexerString, f.isIndexerBoolean, f.isDirectiveAttribute, f.isEditorRequired] =
      [g.caseSensitive, g.isEnum, g.isString, g.isBoolean, g.hasIndexer,
        g.isIndexerString, g.isIndexerBoolean, g.isDirectiveAttribute, g.isEditorRequired] :=
    ordinal_bitsOf_injective (by simp) rfl same
  cases f
  cases g
  simp only [List.cons.injEq, and_true] at flags
  simp only [mk.injEq]
  exact flags

/-! ## What is hashed -/

def Parameter.fields (p : Parameter) : List Field :=
  [Field.record 'P'.toUInt8, Field.text p.kind, Field.text p.name, Field.optional p.typeName,
    Field.text p.displayName, Field.optional p.documentation, Field.ordinal p.flags.bits]
    ++ p.metadata.fields

def BoundAttribute.fields (a : BoundAttribute) : List Field :=
  [Field.record 'A'.toUInt8, Field.text a.kind, Field.optional a.name, Field.optional a.typeName,
    Field.optional a.indexerStart, Field.optional a.indexerTypeName, Field.text a.displayName,
    Field.optional a.documentation, Field.ordinal a.flags.bits, Field.size a.parameters.length]
    ++ a.parameters.map (fun p => Field.digest p.digest) ++ a.metadata.fields

def RequiredAttribute.fields (a : RequiredAttribute) : List Field :=
  [Field.record 'R'.toUInt8, Field.text a.name, Field.ordinal a.nameComparison.ordinal,
    Field.optional a.value, Field.ordinal a.valueComparison.ordinal, Field.text a.displayName,
    Field.bool a.caseSensitive, Field.bool a.isDirectiveAttribute] ++ a.metadata.fields

def Rule.fields (r : Rule) : List Field :=
  [Field.record 'M'.toUInt8, Field.text r.tagName, Field.optional r.parentTag,
    Field.ordinal r.structure'.ordinal, Field.bool r.caseSensitive, Field.size r.attributes.length]
    ++ r.attributes.map fun a => Field.digest a.digest

def ChildTag.fields (c : ChildTag) : List Field :=
  [Field.record 'C'.toUInt8, Field.text c.name, Field.text c.displayName]

def fields (d : TagHelper) : List Field :=
  [Field.record 'T'.toUInt8, Field.text d.kind, Field.text d.name, Field.optional d.assembly,
    Field.text d.displayName, Field.optional d.documentation, Field.optional d.outputHint,
    Field.ordinal d.flagBits, Field.size d.rules.length]
    ++ d.rules.map (fun r => Field.digest r.digest)
    ++ Field.size d.attributes.length :: d.attributes.map (fun a => Field.digest a.digest)
    ++ Field.size d.childTags.length :: d.childTags.map (fun c => Field.digest c.digest)
    ++ d.metadata.fields

def BoundAttribute.hashed (a : BoundAttribute) : List Text :=
  stream a.fields :: a.parameters.map fun p => stream p.fields

/-- The texts that are hashed for a rule and the attributes it requires. -/
def Rule.hashed (r : Rule) : List Text :=
  stream r.fields :: r.attributes.map fun a => stream a.fields

def hashed (d : TagHelper) : List Text :=
  stream d.fields :: d.rules.flatMap Rule.hashed ++ d.attributes.flatMap BoundAttribute.hashed
    ++ d.childTags.map fun c => stream c.fields

/-! ## Built descriptors -/

/-- A parameter of an attribute was built from a draft. -/
structure Parameter.Built (owner : Text) (p : Parameter) : Prop where
  digest : p.digest = .ofFields p.fields
  diagnostics : p.diagnostics = p.toDraft.check owner

/-- An attribute of a tag helper was built from a draft. -/
structure BoundAttribute.Built (kind name : Text) (a : BoundAttribute) : Prop where
  digest : a.digest = .ofFields a.fields
  diagnostics : a.diagnostics = a.toDraft.check { kind, name }
  parameters : ∀ p ∈ a.parameters, p.Built a.name

/-- A required attribute was built from a draft: its digest and its findings are those that building
computes. -/
structure RequiredAttribute.Built (a : RequiredAttribute) : Prop where
  digest : a.digest = .ofFields a.fields
  diagnostics : a.diagnostics =
    RequiredAttributeDraft.check { name := a.name, isDirectiveAttribute := a.isDirectiveAttribute }

/-- A rule was built from a draft: its digest and its findings are those that building computes, and
so are those of the attributes that it requires. -/
structure Rule.Built (r : Rule) : Prop where
  digest : r.digest = .ofFields r.fields
  diagnostics : r.diagnostics = RuleDraft.check { tagName := r.tagName, parentTag := r.parentTag }
  attributes : ∀ a ∈ r.attributes, a.Built

/-- A child tag of a tag helper was built from a draft. -/
structure ChildTag.Built (owner : Text) (c : ChildTag) : Prop where
  digest : c.digest = .ofFields c.fields
  diagnostics : c.diagnostics = c.toDraft.check { name := owner }

/-- A tag helper was built from a draft: its digest and its findings are those that building
computes, and so are those of its rules, attributes and child tags. -/
structure Built (d : TagHelper) : Prop where
  digest : d.digest = .ofFields d.fields
  diagnostics : d.diagnostics = Draft.check { name := d.name, metadata := d.metadata }
  rules : ∀ r ∈ d.rules, r.Built
  attributes : ∀ a ∈ d.attributes, a.Built d.kind d.name
  childTags : ∀ c ∈ d.childTags, c.Built d.name

theorem AttributeDraft.built (a : AttributeDraft) (owner : Draft) :
    (a.build owner).Built owner.kind owner.name where
  digest := rfl
  diagnostics := rfl
  parameters := List.forall_mem_map.mpr fun _ _ => ⟨rfl, rfl⟩

theorem RuleDraft.built (r : RuleDraft) (caseSensitive : Bool) :
    (r.build caseSensitive).Built where
  digest := rfl
  diagnostics := rfl
  attributes := List.forall_mem_map.mpr fun _ _ => ⟨rfl, rfl⟩

theorem Draft.built (d : Draft) : d.build.Built where
  digest := rfl
  diagnostics := rfl
  rules := List.forall_mem_map.mpr fun r _ => r.built d.caseSensitive
  attributes := List.forall_mem_map.mpr fun a _ => a.built d
  childTags := List.forall_mem_map.mpr fun _ _ => ⟨rfl, rfl⟩

/-! ## Descriptors by their digests -/

theorem flags_eq_of_ordinal {d e : TagHelper}
    (same : Field.ordinal d.flagBits = Field.ordinal e.flagBits) :
    d.caseSensitive = e.caseSensitive ∧ d.fullyQualified = e.fullyQualified := by
  have bits : ∀ d : TagHelper, d.flagBits = bitsOf [d.caseSensitive, d.fullyQualified] := by
    intro d
    rw [flagBits]
    cases d.caseSensitive <;> cases d.fullyQualified <;> rfl
  rw [bits, bits] at same
  have flags : [d.caseSensitive, d.fullyQualified] = [e.caseSensitive, e.fullyQualified] :=
    ordinal_bitsOf_injective (by simp) rfl same
  simp only [List.cons.injEq, and_true] at flags
  exact flags

theorem mem_hashed_of_rule {d : TagHelper} {r : Rule} (member : r ∈ d.rules) {t : Text}
    (inside : t ∈ r.hashed) : t ∈ d.hashed :=
  List.mem_append_left _ (List.mem_append_left _
    (List.mem_cons_of_mem _ (List.mem_flatMap.mpr ⟨r, member, inside⟩)))

theorem mem_hashed_of_attribute {d : TagHelper} {a : BoundAttribute} (member : a ∈ d.attributes)
    {t : Text} (inside : t ∈ a.hashed) : t ∈ d.hashed :=
  List.mem_append_left _ (List.mem_append_right _ (List.mem_flatMap.mpr ⟨a, member, inside⟩))

section Safe

variable {known : Text → Prop} (safe : Collisionless known)

include safe

theorem Parameter.Built.eq_of_digest {owner : Text} {p q : Parameter} (built : p.Built owner)
    (built' : q.Built owner) (text : known (stream p.fields)) (text' : known (stream q.fields))
    (same : p.digest = q.digest) : p = q := by
  have digests := same
  rw [built.digest, built'.digest] at digests
  have fields := safe.ofFields_inj text text' digests
  simp only [Parameter.fields, List.cons_append, List.nil_append, List.cons.injEq, true_and,
    Field.text.injEq] at fields
  obtain ⟨kind, name, typeName, displayName, documentation, flags, metadata⟩ := fields
  have found : p.diagnostics = q.diagnostics := by
    rw [built.diagnostics, built'.diagnostics, ParameterDraft.check, ParameterDraft.check,
      toDraft, toDraft, name]
  cases p
  cases q
  simp only [mk.injEq]
  exact ⟨kind, name, Field.optional_injective typeName, displayName,
    Field.optional_injective documentation, AttributeFlags.bits_injective flags,
    Metadata.fields_injective metadata, found, same⟩

theorem BoundAttribute.Built.eq_of_digest {kind name : Text} {a b : BoundAttribute}
    (built : a.Built kind name) (built' : b.Built kind name) (texts : ∀ t ∈ a.hashed, known t)
    (texts' : ∀ t ∈ b.hashed, known t) (same : a.digest = b.digest) : a = b := by
  have digests := same
  rw [built.digest, built'.digest] at digests
  have fields := safe.ofFields_inj (texts _ List.mem_cons_self) (texts' _ List.mem_cons_self)
    digests
  simp only [BoundAttribute.fields, List.cons_append, List.nil_append, List.cons.injEq, true_and,
    Field.text.injEq] at fields
  obtain ⟨kinds, names, typeName, indexerStart, indexerTypeName, displayName, documentation,
    flags, -, parts⟩ := fields
  replace names := Field.optional_injective names
  replace indexerStart := Field.optional_injective indexerStart
  replace flags := AttributeFlags.bits_injective flags
  have split := Metadata.digests_append_inj parts
  have parameters : a.parameters = b.parameters :=
    List.eq_of_map_eq_map (fun p member q member' =>
      Parameter.Built.eq_of_digest safe (built.parameters p member)
        (names ▸ built'.parameters q member')
        (texts _ (List.mem_cons_of_mem _ (List.mem_map_of_mem member)))
        (texts' _ (List.mem_cons_of_mem _ (List.mem_map_of_mem member')))) split.1
  have found : a.diagnostics = b.diagnostics := by
    rw [built.diagnostics, built'.diagnostics, AttributeDraft.check, AttributeDraft.check,
      toDraft, toDraft, names, indexerStart, flags]
  cases a
  cases b
  simp only [mk.injEq]
  exact ⟨kinds, names, Field.optional_injective typeName, indexerStart,
    Field.optional_injective indexerTypeName, displayName, Field.optional_injective documentation,
    flags, parameters, split.2, found, same⟩

theorem RequiredAttribute.Built.eq_of_digest {a b : RequiredAttribute} (built : a.Built)
    (built' : b.Built) (text : known (stream a.fields)) (text' : known (stream b.fields))
    (same : a.digest = b.digest) : a = b := by
  have digests := same
  rw [built.digest, built'.digest] at digests
  have fields := safe.ofFields_inj text text' digests
  simp only [RequiredAttribute.fields, List.cons_append, List.nil_append, List.cons.injEq,
    true_and, Field.text.injEq, Field.bool.injEq] at fields
  obtain ⟨name, nameComparison, value, valueComparison, displayName, caseSensitive, directive,
    metadata⟩ := fields
  have found : a.diagnostics = b.diagnostics := by
    rw [built.diagnostics, built'.diagnostics, name, directive]
  replace nameComparison := NameComparison.ordinal_injective
    (Field.ordinal_byte_injective (NameComparison.ordinal_lt _) (NameComparison.ordinal_lt _)
      nameComparison)
  replace valueComparison := ValueComparison.ordinal_injective
    (Field.ordinal_byte_injective (ValueComparison.ordinal_lt _) (ValueComparison.ordinal_lt _)
      valueComparison)
  cases a
  cases b
  simp only [mk.injEq]
  exact ⟨name, nameComparison, Field.optional_injective value, valueComparison, displayName,
    caseSensitive, directive, Metadata.fields_injective metadata, found, same⟩

theorem Rule.Built.eq_of_digest {r s : Rule} (built : r.Built) (built' : s.Built)
    (texts : ∀ t ∈ r.hashed, known t) (texts' : ∀ t ∈ s.hashed, known t)
    (same : r.digest = s.digest) : r = s := by
  have digests := same
  rw [built.digest, built'.digest] at digests
  have fields := safe.ofFields_inj (texts _ List.mem_cons_self) (texts' _ List.mem_cons_self)
    digests
  simp only [Rule.fields, List.cons_append, List.nil_append, List.cons.injEq, true_and,
    Field.text.injEq, Field.bool.injEq] at fields
  obtain ⟨tagName, parentTag, structures, caseSensitive, -, parts⟩ := fields
  replace parentTag := Field.optional_injective parentTag
  have attributes : r.attributes = s.attributes :=
    List.eq_of_map_eq_map (fun a member b member' =>
      RequiredAttribute.Built.eq_of_digest safe (built.attributes a member)
        (built'.attributes b member')
        (texts _ (List.mem_cons_of_mem _ (List.mem_map_of_mem member)))
        (texts' _ (List.mem_cons_of_mem _ (List.mem_map_of_mem member'))))
      (Field.digests_inj parts)
  have found : r.diagnostics = s.diagnostics := by
    rw [built.diagnostics, built'.diagnostics, tagName, parentTag]
  replace structures := TagStructure.ordinal_injective
    (Field.ordinal_byte_injective (TagStructure.ordinal_lt _) (TagStructure.ordinal_lt _)
      structures)
  cases r
  cases s
  simp only [mk.injEq]
  exact ⟨tagName, parentTag, structures, caseSensitive, attributes, found, same⟩

theorem ChildTag.Built.eq_of_digest {owner : Text} {c e : ChildTag} (built : c.Built owner)
    (built' : e.Built owner) (text : known (stream c.fields)) (text' : known (stream e.fields))
    (same : c.digest = e.digest) : c = e := by
  have digests := same
  rw [built.digest, built'.digest] at digests
  have fields := safe.ofFields_inj text text' digests
  simp only [ChildTag.fields, List.cons.injEq, true_and, and_true, Field.text.injEq] at fields
  have found : c.diagnostics = e.diagnostics := by
    rw [built.diagnostics, built'.diagnostics, ChildTagDraft.check, ChildTagDraft.check,
      ChildTag.toDraft, ChildTag.toDraft, fields.1]
  cases c
  cases e
  simp only [mk.injEq]
  exact ⟨fields.1, fields.2, found, same⟩

/-- A tag helper that was built from a draft is determined by its digest. -/
theorem Built.eq_of_digest {d e : TagHelper} (built : d.Built) (built' : e.Built)
    (texts : ∀ t ∈ d.hashed, known t) (texts' : ∀ t ∈ e.hashed, known t)
    (same : d.digest = e.digest) : d = e := by
  have digests := same
  rw [built.digest, built'.digest] at digests
  have fields := safe.ofFields_inj (texts _ List.mem_cons_self) (texts' _ List.mem_cons_self)
    digests
  simp only [TagHelper.fields, List.cons_append, List.nil_append, List.append_assoc,
    List.cons.injEq, true_and, Field.text.injEq] at fields
  obtain ⟨kind, name, assembly, displayName, documentation, outputHint, bits, -, parts⟩ := fields
  have rulesSplit := Field.digests_append_size_inj parts
  have attributesSplit := Field.digests_append_size_inj rulesSplit.2
  have childTagsSplit := Metadata.digests_append_inj attributesSplit.2
  have rules : d.rules = e.rules :=
    List.eq_of_map_eq_map (fun r member s member' =>
      Rule.Built.eq_of_digest safe (built.rules r member) (built'.rules s member')
        (fun t inside => texts t (mem_hashed_of_rule member inside))
        (fun t inside => texts' t (mem_hashed_of_rule member' inside))) rulesSplit.1
  have attributes : d.attributes = e.attributes :=
    List.eq_of_map_eq_map (fun a member b member' =>
      BoundAttribute.Built.eq_of_digest safe (built.attributes a member)
        (kind ▸ name ▸ built'.attributes b member')
        (fun t inside => texts t (mem_hashed_of_attribute member inside))
        (fun t inside => texts' t (mem_hashed_of_attribute member' inside))) attributesSplit.1
  have childTags : d.childTags = e.childTags :=
    List.eq_of_map_eq_map (fun c member f member' =>
      ChildTag.Built.eq_of_digest safe (built.childTags c member)
        (name ▸ built'.childTags f member')
        (texts _ (List.mem_append_right _ (List.mem_map_of_mem member)))
        (texts' _ (List.mem_append_right _ (List.mem_map_of_mem member')))) childTagsSplit.1
  have found : d.diagnostics = e.diagnostics := by
    rw [built.diagnostics, built'.diagnostics, name,
      childTagsSplit.2]
  have flags := flags_eq_of_ordinal bits
  cases d
  cases e
  simp only [mk.injEq]
  exact ⟨kind, name, Field.optional_injective assembly, displayName,
    Field.optional_injective documentation, Field.optional_injective outputHint, flags.1, flags.2,
    rules, attributes, childTags, childTagsSplit.2, found, same⟩

end Safe

end TagHelper

/-! ## Sets -/

namespace TagHelperSet

def fields (s : TagHelperSet) : List Field :=
  [.record 'S'.toUInt8, .size s.items.length] ++ s.items.map fun d => .digest d.digest

def hashed (s : TagHelperSet) : List Text := stream s.fields :: s.items.flatMap TagHelper.hashed

/-- A set of tag helpers that were built from drafts is determined by its digest. -/
theorem eq_of_digest {known : Text → Prop} (safe : Collisionless known) {s u : TagHelperSet}
    (built : ∀ d ∈ s.items, d.Built) (built' : ∀ d ∈ u.items, d.Built)
    (texts : ∀ t ∈ s.hashed, known t) (texts' : ∀ t ∈ u.hashed, known t)
    (same : s.digest = u.digest) : s = u := by
  have fields := safe.ofFields_inj (texts _ List.mem_cons_self) (texts' _ List.mem_cons_self) same
  simp only [TagHelperSet.fields, List.cons_append, List.nil_append, List.cons.injEq,
    true_and] at fields
  refine congrArg mk (List.eq_of_map_eq_map (fun d member e member' => ?_)
    (Field.digests_inj fields.2))
  exact TagHelper.Built.eq_of_digest safe (built d member) (built' e member')
    (fun t inside => texts t (List.mem_cons_of_mem _ (List.mem_flatMap.mpr ⟨d, member, inside⟩)))
    (fun t inside => texts' t (List.mem_cons_of_mem _ (List.mem_flatMap.mpr ⟨e, member', inside⟩)))

end TagHelperSet

end TemplateCompiler
