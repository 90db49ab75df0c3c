import TemplateCompiler.Proofs.PooledDrafts
import TemplateCompiler.TagHelper.Manifest

/-!
# Storing tag helpers and building them again

What building completes (names shown, kinds, flags, the structures and comparisons behind their
names) is stored as it was completed.  A set that was built from a manifest is therefore built
again, with all its findings and digests, from the manifest that it is stored as
(`TagHelper.Manifest.build_ofSet`): every completion leaves alone what it has completed.

Pools play no part in this, since a draft that they hand out is always a cleared one
(`TagHelper.Pool.build_eq`).
-/

namespace TemplateCompiler

/-! ## Metadata -/

namespace Metadata

theorem insertInto_of_greatest {key value : Text} {entries : List (Text × Text)}
    (greatest : ∀ e ∈ entries, Text.compare e.1 key = .lt) :
    insertInto key value entries = entries ++ [(key, value)] := by
  induction entries with
  | nil => rfl
  | cons e entries ih =>
    obtain ⟨first, rest⟩ := List.forall_mem_cons.mp greatest
    rw [insertInto, Text.compare_gt_iff.mpr first]
    exact congrArg (e :: ·) (ih rest)

/-- Pairs that come after all those which are there are appended. -/
theorem entries_setAll {m : Metadata} {entries : List (Text × Text)}
    (ordered : (m.entries ++ entries).Pairwise fun e f => Text.compare e.1 f.1 = .lt) :
    (m.setAll entries).entries = m.entries ++ entries := by
  induction entries generalizing m with
  | nil => exact (List.append_nil _).symm
  | cons e entries ih =>
    have greatest : ∀ f ∈ m.entries, Text.compare f.1 e.1 = .lt := fun f member =>
      (List.pairwise_append.mp ordered).2.2 f member e List.mem_cons_self
    have placed : (m.set e.1 e.2).entries = m.entries ++ [e] := insertInto_of_greatest greatest
    have rest := ih (m := m.set e.1 e.2) (by rw [placed, List.append_assoc]; exact ordered)
    rw [placed, List.append_assoc] at rest
    exact rest

theorem setAll_empty (m : Metadata) : ({} : Metadata).setAll m.entries = m :=
  Metadata.ext (entries_setAll m.ordered)

end Metadata

/-! ## Names -/

theorem TagStructure.ofName_name_ofName (name : Text) :
    ofName (ofName name).name = ofName name := by
  have defined : ofName name = unspecified ∨ ofName name = normalOrSelfClosing ∨
      ofName name = withoutEndTag := by grind [ofName]
  rcases defined with named | named | named <;> rw [named] <;> rfl

theorem NameComparison.ofName_name_ofName (name : Text) :
    ofName (ofName name).name = ofName name := by
  have defined : ofName name = full ∨ ofName name = leading := by grind [ofName]
  rcases defined with named | named <;> rw [named] <;> rfl

theorem ValueComparison.ofName_name_ofName (name : Text) :
    ofName (ofName name).name = ofName name := by
  have defined : ofName name = none ∨ ofName name = full ∨ ofName name = leading ∨
      ofName name = trailing := by grind [ofName]
  rcases defined with named | named | named | named <;> rw [named] <;> rfl

namespace TagHelper

/-! ## Completions -/

/-- A completed text is not completed again. -/
theorem firstGiven_idem (t : Text) (ts : List Text) :
    firstGiven (firstGiven (t :: ts) :: ts) = firstGiven (t :: ts) := by
  by_cases given : (firstGiven (t :: ts)).isEmpty
  · rw [firstGiven, if_pos given]
    by_cases empty : t.isEmpty
    · rw [firstGiven, if_pos empty]
    · rw [firstGiven, if_neg empty] at given
      exact absurd given empty
  · rw [firstGiven, if_neg given]

namespace Manifest

/-! ## Parts -/

/-- Parts that are each built again from what they are stored as are so as a list. -/
theorem map_built_again {E D B : Type} (draft : E → D) (build : D → B) (store : B → E)
    (again : ∀ e, build (draft (store (build (draft e)))) = build (draft e)) (es : List E) :
    ((((es.map draft).map build).map store).map draft).map build = (es.map draft).map build := by
  simp only [List.map_map]
  exact List.map_congr_left fun e _ => again e

theorem RequiredEntry.build_ofAttribute (e : RequiredEntry) (caseSensitive : Bool) :
    (RequiredEntry.ofAttribute (e.toDraft.build caseSensitive)).toDraft.build caseSensitive =
      e.toDraft.build caseSensitive := by
  simp only [RequiredEntry.toDraft, RequiredEntry.ofAttribute, RequiredAttributeDraft.build,
    NameComparison.ofName_name_ofName, ValueComparison.ofName_name_ofName, firstGiven_idem]
  rfl

theorem RuleEntry.build_ofRule (e : RuleEntry) (caseSensitive : Bool) :
    (RuleEntry.ofRule (e.toDraft.build caseSensitive)).toDraft.build caseSensitive =
      e.toDraft.build caseSensitive := by
  have attributes :=
    map_built_again RequiredEntry.toDraft (fun a => a.build caseSensitive)
      RequiredEntry.ofAttribute (fun a => a.build_ofAttribute caseSensitive) e.attributes
  simp only [RuleEntry.toDraft, RuleEntry.ofRule, RuleDraft.build,
    TagStructure.ofName_name_ofName, attributes]
  rfl

theorem ParameterEntry.build_ofParameter (e : ParameterEntry) (kind name : Text)
    (caseSensitive : Bool) :
    (ParameterEntry.ofParameter (e.toDraft.build kind name caseSensitive)).toDraft.build kind name
      caseSensitive = e.toDraft.build kind name caseSensitive := by
  simp only [ParameterEntry.toDraft, ParameterEntry.ofParameter, ParameterDraft.build,
    firstGiven_idem]
  rfl

theorem AttributeEntry.build_ofAttribute (e : AttributeEntry) (owner : Draft) :
    (AttributeEntry.ofAttribute (e.toDraft.build owner)).toDraft.build owner =
      e.toDraft.build owner := by
  have parameters (kind : Text) :=
    map_built_again ParameterEntry.toDraft (fun p => p.build kind e.name owner.caseSensitive)
      ParameterEntry.ofParameter (fun p => p.build_ofParameter kind e.name owner.caseSensitive)
      e.parameters
  simp only [AttributeEntry.toDraft, AttributeEntry.ofAttribute, AttributeDraft.build,
    AttributeDraft.flags, firstGiven_idem, parameters]
  rfl

theorem ChildTagEntry.build_ofChildTag (e : ChildTagEntry) (owner : Draft) :
    (ChildTagEntry.ofChildTag (e.toDraft.build owner)).toDraft.build owner =
      e.toDraft.build owner := by
  simp only [ChildTagEntry.toDraft, ChildTagEntry.ofChildTag, ChildTagDraft.build, firstGiven_idem]
  rfl

/-! ## Tag helpers -/

/-- The draft that an entry makes of a cleared one. -/
def Entry.toDraft (e : Entry) : Draft :=
  { kind := e.kind, name := e.name, assembly := e.assembly, displayName := e.displayName
    documentation := e.documentation, outputHint := e.outputHint
    caseSensitive := e.caseSensitive, fullyQualified := e.fullyQualified
    rules := e.rules.map RuleEntry.toDraft
    attributes := e.attributes.map AttributeEntry.toDraft
    childTags := e.childTags.map ChildTagEntry.toDraft, metadata := e.metadata }

theorem Entry.fill_cleared (e : Entry) : e.fill {} = e.toDraft := by
  simp only [Entry.fill, Entry.toDraft, Metadata.setAll_empty, List.nil_append]

/-- An entry and the entry of the tag helper that it describes make the same descriptor.  The drafts
of the two differ only in what building attributes and child tags does not look at. -/
theorem Entry.build_ofHelper (e : Entry) :
    (Entry.ofHelper e.toDraft.build).toDraft.build = e.toDraft.build := by
  let again := (Entry.ofHelper e.toDraft.build).toDraft
  have displayName : firstGiven
        [again.displayName, again.metadata.value Metadata.typeName, again.name] =
      firstGiven [e.toDraft.displayName, e.toDraft.metadata.value Metadata.typeName,
        e.toDraft.name] :=
    firstGiven_idem e.displayName [e.metadata.value Metadata.typeName, e.name]
  have rules : again.rules.map (fun r => r.build again.caseSensitive) =
      e.toDraft.rules.map fun r => r.build e.toDraft.caseSensitive :=
    map_built_again _ _ _ (fun r : RuleEntry => r.build_ofRule e.caseSensitive) e.rules
  have attributes : again.attributes.map (fun a => a.build again) =
      e.toDraft.attributes.map fun a => a.build e.toDraft :=
    map_built_again _ _ _ (fun a : AttributeEntry => a.build_ofAttribute e.toDraft) e.attributes
  have childTags : again.childTags.map (fun c => c.build again) =
      e.toDraft.childTags.map fun c => c.build e.toDraft :=
    map_built_again _ _ _ (fun c : ChildTagEntry => c.build_ofChildTag e.toDraft) e.childTags
  change again.build = e.toDraft.build
  rw [Draft.build, displayName, rules, attributes, childTags]
  rfl

theorem buildAll_eq (pool : Pool) (es : List Entry) :
    (buildAll pool es).2 = es.map fun e => e.toDraft.build := by
  induction es generalizing pool with
  | nil => rfl
  | cons e es ih =>
    rw [List.map_cons, ← ih (pool.build e.fill).1, ← e.fill_cleared, ← pool.build_eq e.fill]
    rfl

/-- A manifest of the current version gives the set of the tag helpers that it describes. -/
theorem build_eq {m : Manifest} (current : m.version = currentVersion) (pool : Pool) :
    (m.build pool).2 = .ok ⟨m.helpers.map fun e => e.toDraft.build⟩ := by
  have same : (m.version != currentVersion) = false := by simp [current]
  rw [build, same, ← buildAll_eq pool]
  rfl

/-- A set that was built from a manifest is built again from its own manifest, with any pool. -/
theorem build_ofSet (m : Manifest) (current : m.version = currentVersion) (pool : Pool) :
    ∃ s, (m.build pool).2 = .ok s ∧
      ∀ pool' : Pool, ∃ s', ((ofSet s).build pool').2 = .ok s' ∧ s'.items = s.items ∧
        s'.digest = s.digest ∧ ofSet s' = ofSet s := by
  refine ⟨_, build_eq current pool, fun pool' => ?_⟩
  have again : ((m.helpers.map fun e => e.toDraft.build).map Entry.ofHelper).map
        (fun e => e.toDraft.build) = m.helpers.map fun e => e.toDraft.build := by
    rw [List.map_map, List.map_map]
    exact List.map_congr_left fun e _ => e.build_ofHelper
  have rebuilt : ((ofSet ⟨m.helpers.map fun e => e.toDraft.build⟩).build pool').2 =
      .ok ⟨m.helpers.map fun e => e.toDraft.build⟩ := by
    rw [build_eq rfl, ofSet, again]
  exact ⟨_, rebuilt, rfl, rfl, rfl⟩

/-- A manifest in which kinds, names shown, a structure and a comparison are left to be completed. -/
def emailManifest : Manifest :=
  ⟨1, [{ kind := "ITagHelper", name := "Email",
         metadata := Metadata.ofEntries [(Metadata.typeName, "App.Email")]
         rules := [{ tagName := "email", structure' := "whatever"
                     attributes := [{ name := "to-", nameComparison := "prefix" }] }]
         attributes := [{ name := "to", typeName := "string", indexerStart := "to-"
                          metadata := Metadata.ofEntries [(Metadata.propertyName, "To")]
                          parameters := [{ name := "format" }] }]
         childTags := [{ name := "data-x y" }] }]⟩

theorem build_ofSet_email : emailManifest.version = currentVersion ∧
    ∃ s, (emailManifest.build {}).2 = .ok s ∧
      ∀ pool' : Pool, ∃ s', ((ofSet s).build pool').2 = .ok s' ∧ s'.items = s.items ∧
        s'.digest = s.digest ∧ ofSet s' = ofSet s :=
  ⟨rfl, build_ofSet emailManifest rfl {}⟩

end Manifest

end TagHelper

end TemplateCompiler
