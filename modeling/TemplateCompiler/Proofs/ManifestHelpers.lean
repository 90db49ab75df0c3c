import TemplateCompiler.Proofs.HashedHelpers
import TemplateCompiler.Proofs.ManifestRoundTrip
import TemplateCompiler.Session.Basic

/-!
# Tag helpers of sessions

A session has its tag helpers from manifests, so they are built from drafts and their digests tell
everything about them (`Session.built_of_readManifests`).
-/

namespace TemplateCompiler

section Except

variable {ε α β : Type} {x : Except ε α} {b : β}

theorem ok_of_bind {f : α → Except ε β} (done : x >>= f = .ok b) :
    ∃ a, x = .ok a ∧ f a = .ok b := by
  cases x with
  | error e => cases done
  | ok a => exact ⟨a, rfl, done⟩

theorem ok_of_map {f : α → β} (done : x.map f = .ok b) : ∃ a, x = .ok a ∧ f a = b := by
  cases x with
  | error e => cases done
  | ok a => exact ⟨a, rfl, Except.ok.inj done⟩

theorem ok_of_mapError {δ : Type} {f : ε → δ} {a : α} (done : x.mapError f = .ok a) :
    x = .ok a := by
  cases x with
  | error e => cases done
  | ok a' => exact congrArg Except.ok (Except.ok.inj done)

end Except

namespace TagHelper

namespace Manifest

theorem built_of_readJson {t : Text} {pool after : Pool} {s : TagHelperSet}
    (done : readJson t pool = (after, .ok s)) : ∀ d ∈ s.items, d.Built := by
  rw [readJson] at done
  cases part : Json.readPart t with
  | error e =>
    rw [part] at done
    cases done
  | ok value =>
    rw [part] at done
    dsimp only at done
    cases manifest : ofJson value.1 with
    | error e =>
      rw [manifest] at done
      cases done
    | ok m =>
      rw [manifest] at done
      dsimp only at done
      rw [build] at done
      split at done
      · cases done
      · cases done
        dsimp only
        rw [buildAll_eq]
        exact List.forall_mem_map.mpr fun e _ => e.toDraft.built

end Manifest

end TagHelper

theorem TagHelperSet.mem_of_mem_distinctFrom {d : TagHelper} :
    ∀ {ds : List TagHelper} {seen : List Digest}, d ∈ distinctFrom seen ds → d ∈ ds := by
  intro ds
  induction ds with
  | nil => exact fun member => member
  | cons e ds ih =>
    intro seen member
    rw [distinctFrom] at member
    split at member
    · exact List.mem_cons_of_mem e (ih member)
    · rcases List.mem_cons.mp member with rfl | rest
      · exact List.mem_cons_self
      · exact List.mem_cons_of_mem e (ih rest)

/-- The tag helpers that a session reads from its manifests are built from drafts. -/
theorem Session.built_of_readManifests {source : FileSource} :
    ∀ {names : List Text} {pool : TagHelper.Pool} {helpers all : TagHelperSet},
      (∀ d ∈ helpers.items, d.Built) → readManifests source pool helpers names = .ok all →
      ∀ d ∈ all.items, d.Built := by
  intro names
  induction names with
  | nil =>
    intro pool helpers all built done
    cases done
    exact built
  | cons name names ih =>
    intro pool helpers all built done
    rw [readManifests] at done
    cases content : source.readStream (Path.clean name) with
    | error failure =>
      rw [content] at done
      cases done
    | ok text =>
      rw [content] at done
      dsimp only at done
      rcases set : TagHelper.Manifest.readJson text pool with ⟨next, read⟩
      rw [set] at done
      cases read with
      | error cause => cases done
      | ok more =>
        refine ih (fun d member => ?_) done
        rcases List.mem_append.mp (TagHelperSet.mem_of_mem_distinctFrom member) with old | new
        · exact built d old
        · exact TagHelper.Manifest.built_of_readJson set d new

end TemplateCompiler
