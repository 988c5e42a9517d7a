import Guildkeep.Store.Basic

/-!
# Stores That Count

A store that counts the accesses to it, those that fail included. It answers as the store behind it
does.
-/

namespace Guildkeep.Store

/-- A store with a **count** of the accesses. -/
structure Counted (σ : Type) where
  inner : σ
  accesses : Nat := 0

namespace Counted

variable {σ : Type}

/-- One more access. -/
def pass {α : Type} (c : Counted σ) (reach : σ → Except Error α × σ) :
    Except Error α × Counted σ :=
  let (result, inner) := reach c.inner
  (result, ⟨inner, c.accesses + 1⟩)

/-- A store that is counted is a **store**. -/
instance [Store σ] : Store (Counted σ) where
  save c key text := c.pass (Store.save · key text)
  load c key := c.pass (Store.load · key)
  delete c key := c.pass (Store.delete · key)

end Counted

end Guildkeep.Store
