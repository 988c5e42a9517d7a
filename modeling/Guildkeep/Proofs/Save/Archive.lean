import Guildkeep.Proofs.Store.View
import Guildkeep.Save.Archive

/-!
# What an Operation Does to the Texts

For every operation of the archive all that it can come to, on any store whose accesses fail without
effect. The cases follow the order of the accesses: whatever an operation has done when it breaks
off is what a case says, and nothing else.

## Main results

* `add_cases`, `fetch_cases`, `remove_cases`, `list_cases`: the outcomes of each operation, with the
  texts afterwards.
* `add_of_manifest_error`, `remove_of_manifest_error`: without a manifest nothing is done.
-/

namespace Guildkeep.Save.Archive

open Game Store

/-- The **manifest** that texts hold; where there is none, it is empty. -/
def listing (texts : Texts) : Except CodecFault Manifest :=
  match texts Manifest.key with
  | none => .ok {}
  | some text => Manifest.ofText text

/-- The texts without those of some keys. -/
def without (gone : List String) (texts : Texts) : Texts := fun key =>
  if key ∈ gone then none else texts key

/-- Without nothing the texts are **all the texts**. -/
theorem without_nil (texts : Texts) : without [] texts = texts :=
  funext fun _ => if_neg List.not_mem_nil

/-- One key that is taken out, and then others, are **all taken out**. -/
theorem without_cons (id : String) (gone : List String) (texts : Texts) :
    without gone (Function.update texts id none) = without (id :: gone) texts := by
  funext key
  simp only [without, Function.update_apply, List.mem_cons]
  by_cases hkey : key = id <;> simp [hkey]

/-- The **order** in which keys are taken out does not matter. -/
theorem without_reverse (gone : List String) (texts : Texts) :
    without gone.reverse texts = without gone texts := by
  funext key
  simp only [without, List.mem_reverse]

/-- What is listed depends on the text of **one key**. -/
theorem listing_congr {before after : Texts} (h : after Manifest.key = before Manifest.key) :
    listing after = listing before := by
  rw [listing, listing, h]

variable {σ : Type} [Store σ] [Viewed σ]

/-! ### The manifest -/

/-- Reading the manifest changes **no text**. -/
theorem manifest_cases (s : σ) :
    (∃ why s', manifest s = (.error why, s') ∧ texts s' = texts s) ∨
    (∃ m s', manifest s = (.ok m, s') ∧ texts s' = texts s ∧ listing (texts s) = .ok m) := by
  rw [manifest, listing]
  rcases Viewed.load_cases s Manifest.key with ⟨why, s', hload, htexts⟩ | ⟨s', hload, htexts⟩
  · exact .inl ⟨.store why, s', by rw [hload], htexts⟩
  cases hkey : texts s Manifest.key with
  | none => exact .inr ⟨{}, s', by rw [hload, hkey], htexts, rfl⟩
  | some text =>
    cases htext : Manifest.ofText text with
    | error why => exact .inl ⟨.codec why, s', by simp only [hload, hkey, htext], htexts⟩
    | ok m => exact .inr ⟨m, s', by simp only [hload, hkey, htext], htexts, htext⟩

/-- Writing the manifest **fails and does nothing**, or the manifest is written. -/
theorem putManifest_cases (s : σ) (m : Manifest) :
    (∃ why s', putManifest s m = (.error why, s') ∧ texts s' = texts s) ∨
    (∃ s', putManifest s m = (.ok (), s') ∧
      texts s' = Function.update (texts s) Manifest.key (some m.text)) := by
  rw [putManifest]
  rcases Viewed.save_cases s Manifest.key m.text with ⟨why, s', hsave, htexts⟩ | ⟨s', hsave, htexts⟩
  · exact .inl ⟨.store why, s', by rw [hsave], htexts⟩
  · exact .inr ⟨s', by rw [hsave], htexts⟩

/-- Of the keys that are to be cleared **some are gone**, and nothing else is. -/
theorem texts_clear (s : σ) (ids : List String) :
    ∃ gone, gone ⊆ ids ∧ texts (clear s ids) = without gone (texts s) := by
  induction ids generalizing s with
  | nil => exact ⟨[], List.nil_subset _, (without_nil _).symm⟩
  | cons id ids ih =>
    rw [clear, List.foldl_cons]
    rcases Viewed.delete_cases s id with ⟨why, s', hdelete, htexts⟩ | ⟨s', hdelete, htexts⟩
    · obtain ⟨gone, hgone, hclear⟩ := ih s'
      refine ⟨gone, List.Subset.trans hgone (List.subset_cons_self id ids), ?_⟩
      rw [hdelete, ← htexts]
      exact hclear
    · obtain ⟨gone, hgone, hclear⟩ := ih s'
      refine ⟨id :: gone, List.cons_subset_cons id hgone, ?_⟩
      rw [hdelete, ← without_cons, ← htexts]
      exact hclear

/-! ### Adding -/

/-- The texts after a save was **added** and listed, and some of those given up are gone. -/
def addedTexts (before : Texts) (id payload : String) (m : Manifest) (gone : List String) : Texts :=
  without gone
    (Function.update (Function.update before id (some payload)) Manifest.key (some m.text))

/-- All that **adding** a save can come to. -/
theorem add_cases (s : σ) (keep : Nat) (entry : Entry) (payload : String) :
    (∃ why s', add s keep entry payload = (.error why, s') ∧
      (texts s' = texts s ∨ texts s' = Function.update (texts s) entry.id (some payload))) ∨
    (∃ m gone s', listing (texts s) = .ok m ∧
      gone ⊆ ((m.push entry).evictOver keep).1.map (·.id) ∧
      add s keep entry payload = (.ok ((m.push entry).evictOver keep).1, s') ∧
      texts s' =
        addedTexts (texts s) entry.id payload ((m.push entry).evictOver keep).2 gone) := by
  rw [add]
  rcases manifest_cases s with ⟨why, s₁, hread, htexts₁⟩ | ⟨m, s₁, hread, htexts₁, hlisting⟩
  · exact .inl ⟨why, s₁, by simp only [hread], .inl htexts₁⟩
  rcases Viewed.save_cases s₁ entry.id payload with ⟨why, s₂, hsave, htexts₂⟩ | ⟨s₂, hsave, htexts₂⟩
  · exact .inl ⟨.store why, s₂, by simp only [hread, hsave], .inl (htexts₂.trans htexts₁)⟩
  rw [htexts₁] at htexts₂
  rcases putManifest_cases s₂ ((m.push entry).evictOver keep).2 with
    ⟨why, s₃, hput, htexts₃⟩ | ⟨s₃, hput, htexts₃⟩
  · exact .inl ⟨why, s₃, by simp only [hread, hsave, hput], .inr (htexts₃.trans htexts₂)⟩
  obtain ⟨gone, hgone, hclear⟩ := texts_clear s₃ (((m.push entry).evictOver keep).1.map (·.id))
  refine .inr ⟨m, gone, clear s₃ (((m.push entry).evictOver keep).1.map (·.id)), hlisting, hgone,
    by simp only [hread, hsave, hput], ?_⟩
  rw [hclear, htexts₃, htexts₂, addedTexts]

omit [Viewed σ] in
/-- Without a manifest **nothing is added**. -/
theorem add_of_manifest_error {s s' : σ} {why : Error} (h : manifest s = (.error why, s'))
    (keep : Nat) (entry : Entry) (payload : String) :
    add s keep entry payload = (.error why, s') := by
  rw [add, h]

/-! ### Reading -/

/-- All that **reading** a save can come to. -/
theorem fetch_cases (s : σ) (id : String) :
    (∃ why s', fetch s id = (.error why, s') ∧ texts s' = texts s) ∨
    (∃ snapshot s', fetch s id = (.ok snapshot, s') ∧ texts s' = texts s) := by
  rw [fetch]
  split
  · exact .inl ⟨.notFound id, s, rfl, rfl⟩
  rcases Viewed.load_cases s id with ⟨why, s', hload, htexts⟩ | ⟨s', hload, htexts⟩
  · exact .inl ⟨.store why, s', by simp only [hload], htexts⟩
  cases hid : texts s id with
  | none => exact .inl ⟨.notFound id, s', by simp only [hload, hid], htexts⟩
  | some payload =>
    cases hdecode : Payload.decode payload with
    | error why => exact .inl ⟨.codec why, s', by simp only [hload, hid, hdecode], htexts⟩
    | ok snapshot => exact .inr ⟨snapshot, s', by simp only [hload, hid, hdecode], htexts⟩

/-- **Listing** changes no text. -/
theorem list_cases (s : σ) :
    (∃ why s', list s = (.error why, s') ∧ texts s' = texts s) ∨
    (∃ m s', list s = (.ok m.newestFirst, s') ∧ texts s' = texts s ∧
      listing (texts s) = .ok m) := by
  rw [list]
  rcases manifest_cases s with ⟨why, s', hread, htexts⟩ | ⟨m, s', hread, htexts, hlisting⟩
  · exact .inl ⟨why, s', by rw [hread], htexts⟩
  · exact .inr ⟨m, s', by rw [hread], htexts, hlisting⟩

/-! ### Removing -/

/-- All that **removing** a save can come to. -/
theorem remove_cases (s : σ) (id : String) :
    (∃ why s', remove s id = (.error why, s') ∧ texts s' = texts s) ∨
    (remove s id = (.ok false, s)) ∨
    (id ≠ Manifest.key ∧ ∃ m s', listing (texts s) = .ok m ∧ remove s id = (.ok true, s') ∧
      (((m.find? id).isSome = true ∧ ∃ gone, gone ⊆ [id] ∧
        texts s' = without gone
          (Function.update (texts s) Manifest.key (some (m.remove id).text))) ∨
      (m.find? id = none ∧ texts s' = Function.update (texts s) id none))) := by
  rw [remove]
  split
  · exact .inr (.inl rfl)
  case isFalse hid =>
  rcases manifest_cases s with ⟨why, s₁, hread, htexts₁⟩ | ⟨m, s₁, hread, htexts₁, hlisting⟩
  · exact .inl ⟨why, s₁, by simp only [hread], htexts₁⟩
  cases hfind : m.find? id with
  | some entry =>
    rcases putManifest_cases s₁ (m.remove id) with ⟨why, s₂, hput, htexts₂⟩ | ⟨s₂, hput, htexts₂⟩
    · exact .inl ⟨why, s₂, by simp only [hread, hfind, hput], htexts₂.trans htexts₁⟩
    obtain ⟨gone, hgone, hclear⟩ := texts_clear s₂ [id]
    refine .inr (.inr ⟨hid, m, clear s₂ [id], hlisting, by simp only [hread, hfind, hput], ?_⟩)
    exact .inl ⟨by simp [hfind], gone, hgone, by rw [hclear, htexts₂, htexts₁]⟩
  | none =>
    rcases Viewed.delete_cases s₁ id with ⟨why, s₂, hdelete, htexts₂⟩ | ⟨s₂, hdelete, htexts₂⟩
    · exact .inl ⟨.store why, s₂, by simp only [hread, hfind, hdelete], htexts₂.trans htexts₁⟩
    refine .inr (.inr ⟨hid, m, s₂, hlisting, by simp only [hread, hfind, hdelete], ?_⟩)
    exact .inr ⟨hfind, by rw [htexts₂, htexts₁]⟩

omit [Viewed σ] in
/-- Without a manifest **nothing is removed**. -/
theorem remove_of_manifest_error {s s' : σ} {why : Error} (h : manifest s = (.error why, s'))
    {id : String} (hid : id ≠ Manifest.key) : remove s id = (.error why, s') := by
  rw [remove, if_neg hid, h]

end Guildkeep.Save.Archive
