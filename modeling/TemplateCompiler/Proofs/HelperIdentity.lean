import TemplateCompiler.Binding.Binder
import TemplateCompiler.Proofs.HashedHelpers
import TemplateCompiler.Proofs.StoreCalls

/-!
# Tag helpers, sets and binders by their digests

Whatever was filled in, two drafts whose descriptors have one digest make one descriptor, the
findings included, although these are not hashed (`Draft.build_eq_of_digest`).  The same goes for
sets of tag helpers, and for binders, which are told apart by the digests of their tag helpers and
the required start of names; so those with one digest bind every element alike
(`TagHelper.digest_identifies`).

An engine keeps the binders of its documents under their digests.  However the requests of its
documents interleave, each document is given the binder that it asked for
(`Binder.given_of_returned`), so runs are described without the store.
-/

namespace TemplateCompiler

open Digest

/-! ## Binders -/

namespace Binder

def fields (b : Binder) : List Field :=
  [.record 'B'.toUInt8, .text b.tagStart, .size b.helpers.length]
    ++ b.helpers.map fun d => .digest d.digest

/-- The texts that are hashed for a binder and its tag helpers. -/
def hashed (b : Binder) : List Text := stream b.fields :: b.helpers.flatMap TagHelper.hashed

/-- A binder of tag helpers that were built from drafts is determined by its digest. -/
theorem eq_of_digest {known : Text → Prop} (safe : Collisionless known) {b c : Binder}
    (built : ∀ d ∈ b.helpers, d.Built) (built' : ∀ d ∈ c.helpers, d.Built)
    (texts : ∀ t ∈ b.hashed, known t) (texts' : ∀ t ∈ c.hashed, known t)
    (same : b.digest = c.digest) : b = c := by
  have fields := safe.ofFields_inj (texts _ List.mem_cons_self) (texts' _ List.mem_cons_self) same
  simp only [Binder.fields, List.cons_append, List.nil_append, List.cons.injEq, true_and,
    Field.text.injEq] at fields
  obtain ⟨start, -, parts⟩ := fields
  have helpers : b.helpers = c.helpers :=
    List.eq_of_map_eq_map (fun d member e member' =>
      TagHelper.Built.eq_of_digest safe (built d member) (built' e member')
        (fun t inside =>
          texts t (List.mem_cons_of_mem _ (List.mem_flatMap.mpr ⟨d, member, inside⟩)))
        (fun t inside =>
          texts' t (List.mem_cons_of_mem _ (List.mem_flatMap.mpr ⟨e, member', inside⟩))))
      (Field.digests_inj parts)
  cases b
  cases c
  exact congrArg₂ Binder.mk start helpers

/-! ## Binders that are kept -/

/-- What a document asks the store of its engine for. -/
def request (b : Binder) : Store.Request Binder := .getOrAdd b.digest fun _ => b

/-- A document whose request nobody interrupts is given the shared binder. -/
theorem run_request (b : Binder) (kept : Store Binder) :
    (kept.asked [b.request]).run Store.step [0, 0, 0] =
      ⟨(b.shared kept).1, [.returned b.digest (fun _ => b) (b.shared kept).2]⟩ :=
  kept.run_alone b.digest fun _ => b

/-- The binders that documents asked an engine for, under whatever schedule: each document is given
the one that it asked for. -/
theorem given_of_returned {asked : List Binder}
    (built : ∀ b ∈ asked, ∀ d ∈ b.helpers, d.Built)
    (safe : Collisionless fun t => ∃ b ∈ asked, t ∈ b.hashed) (schedule : List Nat)
    {key : Digest} {create : Unit → Binder} {given : Binder}
    (returned : .returned key create given ∈
      ((({} : Store Binder).asked (asked.map request)).run Store.step schedule).calls) :
    given = create () := by
  have settled := Store.settled_run {} (asked.map request) schedule
  have origin {maker : Unit → Binder} {made : Binder} (member : .returned key maker made ∈
      ((({} : Store Binder).asked (asked.map request)).run Store.step schedule).calls) :
      ∃ b ∈ asked, b.digest = key ∧ maker () = b := by
    have listed := List.mem_map_of_mem (f := Store.Call.request) member
    rw [Store.request_run] at listed
    rcases List.mem_map.mp listed with ⟨b, asking, same⟩
    cases same
    exact ⟨b, asking, rfl, rfl⟩
  rcases settled.sourced key given (settled.agree _ returned) with none | ⟨maker, member, makes⟩
  · cases none
  rcases origin returned with ⟨own, asking, digest, rfl⟩
  rcases origin member with ⟨other, asking', digest', made⟩
  rw [← makes, made]
  exact eq_of_digest safe (built other asking') (built _ asking)
    (fun t inside => ⟨other, asking', inside⟩) (fun t inside => ⟨_, asking, inside⟩)
    (digest'.trans digest.symm)

end Binder

namespace TagHelper

/-! ## Drafts -/

theorem Draft.all_built (ds : List Draft) : ∀ h ∈ ds.map Draft.build, h.Built :=
  List.forall_mem_map.mpr fun d _ => d.built

/-- Drafts whose descriptors have one digest make one descriptor. -/
theorem Draft.build_eq_of_digest {d e : Draft}
    (safe : Collisionless (· ∈ d.build.hashed ++ e.build.hashed))
    (same : d.build.digest = e.build.digest) : d.build = e.build :=
  Built.eq_of_digest safe d.built e.built (fun _ => List.mem_append_left _)
    (fun _ => List.mem_append_right _) same

/-- Where hashing has no collisions among the texts that are hashed, a digest identifies a
descriptor with all its findings, a set of descriptors, and a binder of descriptors; sets and
binders with one digest bind every element alike. -/
theorem digest_identifies :
    (∀ d e : Draft, Collisionless (· ∈ d.build.hashed ++ e.build.hashed) →
      d.build.digest = e.build.digest →
        d.build = e.build ∧ d.build.allDiagnostics = e.build.allDiagnostics) ∧
    (∀ ds es : List Draft,
      Collisionless (· ∈ (TagHelperSet.mk (ds.map Draft.build)).hashed
        ++ (TagHelperSet.mk (es.map Draft.build)).hashed) →
      (TagHelperSet.mk (ds.map Draft.build)).digest = (TagHelperSet.mk (es.map Draft.build)).digest →
        ds.map Draft.build = es.map Draft.build ∧
        ∀ start tagName attributes parentTag parentIsHelper,
          (Binder.mk start (ds.map Draft.build)).bind? tagName attributes parentTag parentIsHelper =
            (Binder.mk start (es.map Draft.build)).bind? tagName attributes parentTag
              parentIsHelper) ∧
    (∀ (start start' : Text) (ds es : List Draft),
      Collisionless (· ∈ (Binder.mk start (ds.map Draft.build)).hashed
        ++ (Binder.mk start' (es.map Draft.build)).hashed) →
      (Binder.mk start (ds.map Draft.build)).digest =
        (Binder.mk start' (es.map Draft.build)).digest →
        ∀ tagName attributes parentTag parentIsHelper,
          (Binder.mk start (ds.map Draft.build)).bind? tagName attributes parentTag parentIsHelper =
            (Binder.mk start' (es.map Draft.build)).bind? tagName attributes parentTag
              parentIsHelper) := by
  refine ⟨fun d e safe same => ?_, fun ds es safe same => ?_, fun start start' ds es safe same => ?_⟩
  · have descriptors := Draft.build_eq_of_digest safe same
    exact ⟨descriptors, congrArg allDiagnostics descriptors⟩
  · have sets := TagHelperSet.eq_of_digest safe (Draft.all_built ds) (Draft.all_built es)
      (fun _ => List.mem_append_left _) (fun _ => List.mem_append_right _) same
    have items : ds.map Draft.build = es.map Draft.build := congrArg TagHelperSet.items sets
    refine ⟨items, fun start tagName attributes parentTag parentIsHelper => ?_⟩
    rw [items]
  · have binders := Binder.eq_of_digest safe (Draft.all_built ds) (Draft.all_built es)
      (fun _ => List.mem_append_left _) (fun _ => List.mem_append_right _) same
    intro tagName attributes parentTag parentIsHelper
    rw [binders]

/-- A draft that leaves a kind and the names shown to be completed. -/
def emailDraft : Draft :=
  { kind := "ITagHelper", name := "Email", attributes := [{ name := "to", typeName := "string" }] }

/-- The same draft with everything given that building completes. -/
def fullEmailDraft : Draft :=
  { kind := "ITagHelper", name := "Email", displayName := "Email"
    attributes := [{ kind := "ITagHelper", name := "to", typeName := "string"
                     displayName := "to" }] }

theorem digest_identifies_email :
    Collisionless (· ∈ emailDraft.build.hashed ++ fullEmailDraft.build.hashed) ∧
      emailDraft.build.digest = fullEmailDraft.build.digest ∧
      emailDraft ≠ fullEmailDraft ∧ emailDraft.build = fullEmailDraft.build := by
  have short : ∀ t ∈ emailDraft.build.hashed ++ fullEmailDraft.build.hashed, t.length < 2 ^ 61 := by
    decide +kernel
  have injective : ∀ s ∈ emailDraft.build.hashed ++ fullEmailDraft.build.hashed,
      ∀ t ∈ emailDraft.build.hashed ++ fullEmailDraft.build.hashed,
        Sha256.hash s = Sha256.hash t → s = t := by
    decide +kernel
  have safe : Collisionless (· ∈ emailDraft.build.hashed ++ fullEmailDraft.build.hashed) :=
    ⟨fun member => short _ member, fun member member' => injective _ member _ member'⟩
  have same : emailDraft.build.digest = fullEmailDraft.build.digest := by decide +kernel
  exact ⟨safe, same, by decide, (digest_identifies.1 _ _ safe same).1⟩

end TagHelper

end TemplateCompiler
