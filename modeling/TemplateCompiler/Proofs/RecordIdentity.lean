import TemplateCompiler.Proofs.SessionFiles

/-!
# What the key of a record identifies

The key of a record is a digest of digests.  Where hashing has no collisions, two compilations with
one key have the same configuration, the same tag helpers, the same kind and path of the document,
and files with the same contents.  What the key says nothing about are the numbers of files and the
paths of imports, so the documents are the same up to these (`Session.Loaded.renumbered_of_key`).
-/

namespace TemplateCompiler

open Digest

/-! ## Configurations -/

def Configuration.fields (c : Configuration) : List Field :=
  [Field.ordinal c.version.ordinal.toNat, Field.bool c.designTime, Field.text c.rootNamespace,
   Field.bool c.leadingDirectivesOnly, Field.int c.code.indentSize,
   Field.bool c.code.indentWithTabs, Field.ordinal c.code.lineEnd.ordinal,
   Field.bool c.code.designTime, Field.text c.code.rootNamespace,
   Field.bool c.code.suppressChecksum, Field.bool c.code.suppressMetadata,
   Field.bool c.code.suppressBody]

/-- A configuration is determined by its digest. -/
theorem Configuration.eq_of_digest {known : Text → Prop} (safe : Collisionless known)
    {c e : Configuration} (text : known (stream c.fields)) (text' : known (stream e.fields))
    (same : c.digest = e.digest) : c = e := by
  have fields := safe.ofFields_inj text text' same
  simp only [Configuration.fields, List.cons.injEq, and_true, Field.text.injEq,
    Field.bool.injEq, Field.int.injEq] at fields
  obtain ⟨version, designTime, rootNamespace, leading, indentSize, withTabs, lineEnd,
    codeDesignTime, codeRoot, checksum, metadata, body⟩ := fields
  have lineEnds := LineEnd.ordinal_injective
    (Field.ordinal_byte_injective (LineEnd.ordinal_lt _) (LineEnd.ordinal_lt _) lineEnd)
  have versions := UInt8.toNat_inj.mp
    (Field.ordinal_byte_injective (UInt8.toNat_lt _) (UInt8.toNat_lt _) version)
  rcases c with ⟨⟨_⟩, _, _, ⟨_, _, _, _, _, _, _, _⟩, _⟩
  rcases e with ⟨⟨_⟩, _, _, ⟨_, _, _, _, _, _, _, _⟩, _⟩
  simp only at *
  simp only [*]

/-! ## Documents -/

/-- What is hashed of a document besides its content. -/
def CodeDocument.identityFields (doc : CodeDocument) : List Field :=
  [Field.ordinal doc.fileKind.ordinal, Field.text ((doc.source?.map SourceFile.path).getD [])]

namespace Session

/-- The texts that are hashed for the key of a document's record: the contents of its files, the
digests of these, the digests that the key is put together from, and what these stand for. -/
def hashedFor (s : Session) (doc : CodeDocument) : List Text :=
  (doc.source?.toList ++ doc.imports).map SourceFile.content
    ++ [(((doc.source?.map SourceFile.digest).getD .zero)
          :: doc.imports.map SourceFile.digest).flatMap Digest.bytes,
        [doc.digest, s.helpers.digest].flatMap Digest.bytes,
        [(s.recordOf doc [] []).key, s.engine.configuration.digest,
          .ofFields doc.identityFields].flatMap Digest.bytes,
        stream s.engine.configuration.fields, stream doc.identityFields]
    ++ s.helpers.hashed

/-- Files with the same digests have the same contents. -/
theorem contents_eq {known : Text → Prop} (safe : Collisionless known) {fs gs : List SourceFile}
    (digests : ∀ f ∈ fs, f.digest = .ofBytes f.content)
    (digests' : ∀ f ∈ gs, f.digest = .ofBytes f.content) (texts : ∀ f ∈ fs, known f.content)
    (texts' : ∀ f ∈ gs, known f.content)
    (same : fs.map SourceFile.digest = gs.map SourceFile.digest) :
    fs.map SourceFile.content = gs.map SourceFile.content := by
  rw [List.map_congr_left digests, List.map_congr_left digests'] at same
  refine List.eq_of_map_eq_map (f := Digest.ofBytes) ?_ (by
    rw [List.map_map, List.map_map]
    exact same)
  simp only [List.forall_mem_map]
  exact fun f member g member' => safe.ofBytes_inj (texts f member) (texts' g member')

/-- Documents with one key are the same for their engines, which are the same, up to the numbers of
files.  The digests are taken apart from the outside to the inside, each of them on texts that were
hashed. -/
theorem Loaded.renumbered_of_key {known : Text → Prop} (safe : Collisionless known)
    {s s' : Session} {doc doc' : CodeDocument} {source source' : SourceFile}
    (loaded : s.Loaded doc source) (loaded' : s'.Loaded doc' source')
    (texts : ∀ t ∈ s.hashedFor doc, known t) (texts' : ∀ t ∈ s'.hashedFor doc', known t)
    (same : s'.recordKey doc' = s.recordKey doc) :
    s'.engine = s.engine ∧ ∃ number : Equiv.Perm Nat, Workpiece.Renumbered number s.engine doc doc'
      source source' (s.providedFor doc) (s'.providedFor doc') := by
  simp only [hashedFor, loaded.given, loaded'.given, List.forall_mem_append, List.forall_mem_cons,
    Option.toList_some, Option.map_some, Option.getD_some, List.singleton_append,
    List.map_cons] at texts texts'
  obtain ⟨⟨⟨content, imported⟩, files, sources, key, settings, identity, -⟩, helpers⟩ := texts
  obtain ⟨⟨⟨content', imported'⟩, files', sources', key', settings', identity', -⟩, helpers'⟩ :=
    texts'
  have parts := safe.combine_inj key' key same
  have outer := List.cons.inj parts.2
  have inner := safe.combine_inj sources' sources parts.1
  have digests := inner.1
  rw [CodeDocument.digest, CodeDocument.digest, loaded.given, loaded'.given] at digests
  have each := safe.combine_inj files' files digests
  have fields := safe.ofFields_inj identity' identity (List.cons.inj outer.2).1
  simp only [CodeDocument.identityFields, loaded.given, loaded'.given, Option.map_some,
    Option.getD_some, List.cons.injEq, Field.text.injEq, and_true] at fields
  have fileKind := FileKind.ordinal_injective
    (Field.ordinal_byte_injective (FileKind.ordinal_lt _) (FileKind.ordinal_lt _) fields.1)
  have engine := loaded'.sound.engine_eq loaded.sound
    (Configuration.eq_of_digest safe settings' settings outer.1)
    (TagHelperSet.eq_of_digest safe loaded'.sound.helpers loaded.sound.helpers helpers' helpers
      (List.cons.inj inner.2).1)
  have contents : (source' :: doc'.imports).map SourceFile.content =
      (source :: doc.imports).map SourceFile.content :=
    contents_eq safe loaded'.digests loaded.digests
      (List.forall_mem_map.mp (List.forall_mem_cons.mpr ⟨content', imported'⟩))
      (List.forall_mem_map.mp (List.forall_mem_cons.mpr ⟨content, imported⟩))
      (by
        rw [List.map_cons, List.map_cons, each.2]
        exact congrArg (fun d => d :: _) each.1)
  exact ⟨engine, loaded.renumbered loaded' engine fileKind fields.2 contents⟩

end Session

end TemplateCompiler
