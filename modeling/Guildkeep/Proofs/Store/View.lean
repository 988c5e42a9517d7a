import Guildkeep.Store.Counted
import Guildkeep.Store.Gated
import Guildkeep.Store.Memory
import Mathlib.Logic.Function.Basic

/-!
# What a Store Holds

A store is seen through the text of each key. The stores in memory have one law in common, and a
gate in front of a store keeps it, whatever the outage: an access fails and changes nothing, or it
does what it is for.

## Main results

* `Store.Viewed`: the law, with `Memory` and every `Gated` store under it.
* `Store.Viewed.behind`: a store that **answers as** the one behind it has the law of that one.
-/

namespace Guildkeep.Store

/-- The **texts** of a store, key by key. -/
abbrev Texts := String → Option String

/-- A store whose accesses either fail **without effect** or do what they are for. -/
class Viewed (σ : Type) [Store σ] where
  /-- The texts that the store holds. -/
  texts : σ → Texts
  load_cases (s : σ) (key : String) :
    (∃ why s', Store.load s key = (.error why, s') ∧ texts s' = texts s) ∨
    (∃ s', Store.load s key = (.ok (texts s key), s') ∧ texts s' = texts s)
  save_cases (s : σ) (key text : String) :
    (∃ why s', Store.save s key text = (.error why, s') ∧ texts s' = texts s) ∨
    (∃ s', Store.save s key text = (.ok (), s') ∧
      texts s' = Function.update (texts s) key (some text))
  delete_cases (s : σ) (key : String) :
    (∃ why s', Store.delete s key = (.error why, s') ∧ texts s' = texts s) ∨
    (∃ s', Store.delete s key = (.ok (), s') ∧ texts s' = Function.update (texts s) key none)

export Viewed (texts)

/-! ### Memory -/

namespace Memory

/-- What is put is an **update** of what is found. -/
theorem get?_put_eq (t : Table String String) (key text : String) :
    (t.put key text).get? = Function.update t.get? key (some text) := by
  funext k
  rw [Table.get?_put, Function.update_apply]

/-- What is erased is an **update** of what is found. -/
theorem get?_erase_eq (t : Table String String) (key : String) :
    (t.erase key).get? = Function.update t.get? key none := by
  funext k
  rw [Table.get?_erase, Function.update_apply]

/-- A memory shows the **texts** of its table, and fails while it is switched off. -/
instance : Viewed Memory where
  texts m := m.texts.get?
  load_cases m key := by
    by_cases h : m.available = true
    · exact .inr ⟨m, if_pos h, rfl⟩
    · exact .inl ⟨switchedOff, m, if_neg h, rfl⟩
  save_cases m key text := by
    by_cases h : m.available = true
    · exact .inr ⟨_, if_pos h, get?_put_eq m.texts key text⟩
    · exact .inl ⟨switchedOff, m, if_neg h, rfl⟩
  delete_cases m key := by
    by_cases h : m.available = true
    · exact .inr ⟨_, if_pos h, get?_erase_eq m.texts key⟩
    · exact .inl ⟨switchedOff, m, if_neg h, rfl⟩

end Memory

/-! ### Gates -/

namespace Gated

variable {σ : Type} {α : Type}

/-- A **closed** gate leaves the store behind it alone. -/
theorem pass_of_refused {g : Gated σ} {access : Access} (h : g.outage g.log access = true)
    (reach : σ → Except Error α × σ) :
    g.pass access reach = (.error closed, { g with log := g.log ++ [⟨access, true⟩] }) := by
  simp [pass, h]

/-- An **open** gate hands the access on. -/
theorem pass_of_passed {g : Gated σ} {access : Access} (h : g.outage g.log access = false)
    {reach : σ → Except Error α × σ} {result : Except Error α} {inner : σ}
    (hreach : reach g.inner = (result, inner)) :
    g.pass access reach = (result, { g with inner, log := g.log ++ [⟨access, false⟩] }) := by
  simp [pass, h, hreach]

/-- A store behind a gate shows the **texts** of that store. -/
instance [Store σ] [Viewed σ] : Viewed (Gated σ) where
  texts g := texts g.inner
  load_cases g key := by
    cases h : g.outage g.log ⟨.load, key⟩ with
    | true => exact .inl ⟨closed, _, pass_of_refused h _, rfl⟩
    | false =>
      rcases Viewed.load_cases g.inner key with ⟨why, s', hload, htexts⟩ | ⟨s', hload, htexts⟩
      · exact .inl ⟨why, _, pass_of_passed h hload, htexts⟩
      · exact .inr ⟨_, pass_of_passed h hload, htexts⟩
  save_cases g key text := by
    cases h : g.outage g.log ⟨.save, key⟩ with
    | true => exact .inl ⟨closed, _, pass_of_refused h _, rfl⟩
    | false =>
      rcases Viewed.save_cases g.inner key text with ⟨why, s', hsave, htexts⟩ | ⟨s', hsave, htexts⟩
      · exact .inl ⟨why, _, pass_of_passed h hsave, htexts⟩
      · exact .inr ⟨_, pass_of_passed h hsave, htexts⟩
  delete_cases g key := by
    cases h : g.outage g.log ⟨.delete, key⟩ with
    | true => exact .inl ⟨closed, _, pass_of_refused h _, rfl⟩
    | false =>
      rcases Viewed.delete_cases g.inner key with ⟨why, s', hdelete, htexts⟩ | ⟨s', hdelete, htexts⟩
      · exact .inl ⟨why, _, pass_of_passed h hdelete, htexts⟩
      · exact .inr ⟨_, pass_of_passed h hdelete, htexts⟩

end Gated

/-! ### Stores in front of others -/

/-- The pair behind one that a store in front of another answers with. -/
theorem exists_of_map {σ τ α : Type} {inner : τ → σ} {p : α × τ} {result : α} {s : σ}
    (h : Prod.map id inner p = (result, s)) : ∃ t, p = (result, t) ∧ inner t = s := by
  obtain ⟨hresult, hinner⟩ := Prod.mk.inj h
  exact ⟨p.2, Prod.ext hresult rfl, hinner⟩

/-- A store that **answers as** the one behind it holds the texts of that one. -/
@[reducible] def Viewed.behind {σ τ : Type} [Store σ] [Viewed σ] [Store τ] (inner : τ → σ)
    (hload : ∀ t key, Prod.map id inner (Store.load t key) = Store.load (inner t) key)
    (hsave : ∀ t key text,
      Prod.map id inner (Store.save t key text) = Store.save (inner t) key text)
    (hdelete : ∀ t key, Prod.map id inner (Store.delete t key) = Store.delete (inner t) key) :
    Viewed τ where
  texts t := texts (inner t)
  load_cases t key := by
    rcases Viewed.load_cases (inner t) key with ⟨why, s', hs, htexts⟩ | ⟨s', hs, htexts⟩
    all_goals obtain ⟨t', ht, rfl⟩ := exists_of_map ((hload t key).trans hs)
    · exact .inl ⟨why, t', ht, htexts⟩
    · exact .inr ⟨t', ht, htexts⟩
  save_cases t key text := by
    rcases Viewed.save_cases (inner t) key text with ⟨why, s', hs, htexts⟩ | ⟨s', hs, htexts⟩
    all_goals obtain ⟨t', ht, rfl⟩ := exists_of_map ((hsave t key text).trans hs)
    · exact .inl ⟨why, t', ht, htexts⟩
    · exact .inr ⟨t', ht, htexts⟩
  delete_cases t key := by
    rcases Viewed.delete_cases (inner t) key with ⟨why, s', hs, htexts⟩ | ⟨s', hs, htexts⟩
    all_goals obtain ⟨t', ht, rfl⟩ := exists_of_map ((hdelete t key).trans hs)
    · exact .inl ⟨why, t', ht, htexts⟩
    · exact .inr ⟨t', ht, htexts⟩

/-- A store that is counted shows the **texts** of that store. -/
instance {σ : Type} [Store σ] [Viewed σ] : Viewed (Counted σ) :=
  .behind Counted.inner (fun _ _ => rfl) (fun _ _ _ => rfl) (fun _ _ => rfl)

end Guildkeep.Store
