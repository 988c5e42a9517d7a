import Guildkeep.House
import Guildkeep.Proofs.Bus.Moments
import Guildkeep.Proofs.Store.View

/-!
# Many Saves Leave the Store as Single Ones Do

However savers take turns, the store is only changed by one of them at a time, and by each as if it
were alone. So whatever every single save keeps of the store is kept by all of them together.

## Main results

* `Desk.saveAll_rel`: what **every save** keeps of the store, many saves at once keep.
-/

namespace Guildkeep.Save

open Store

variable {σ : Type}

/-! ### Savers -/

namespace Crowd

/-- A saver that waits for a delivery leaves the **store** alone. -/
theorem store_await (c : Crowd σ) (seat : Seat) (mark : Nat) :
    (c.await seat mark).store = c.store := by
  rw [await]
  split <;> rfl

/-- Telling does not touch **the store**. -/
theorem store_tell (seat : Seat) (answer : Answer) (events : List Outline) (c : Crowd σ) :
    (tell seat answer events c).rest.store = c.store := by
  induction events generalizing c with
  | nil => rfl
  | cons o events ih =>
    rw [tell]
    dsimp only
    split
    · exact store_await ..
    · exact ih ..

/-- A saver that stays to tell its events leaves the **store** alone. -/
theorem store_stay (c : Crowd σ) (seat : Seat) (left : Nat) (answer : Answer)
    (events : List Outline) : (c.stay seat left answer events).rest.store = c.store := by
  rw [stay]
  split
  · exact store_tell ..
  · rfl

/-- The courier leaves the **store** alone. -/
theorem store_carry (fuel : Nat) (c : Crowd σ) : (carry fuel c).2.store = c.store := by
  induction fuel generalizing c with
  | zero => rfl
  | succ fuel ih =>
    rw [carry]
    split
    · dsimp only
      split
      · exact ih ..
      · rfl
    · split
      · rfl
      · split
        · rfl
        · exact ih ..

variable [Store σ] {rel : σ → σ → Prop}

/-- A turn of a saver changes the store as **a single save** does, or not at all. -/
theorem save_rel (hrefl : ∀ s, rel s s)
    (hsave : ∀ (m : Manager) (store : σ) (ambient : Ambient) (title : Option String),
      rel store (m.answer (⟨store, 0⟩ : Counted σ) ambient (.save title)).store.inner)
    (seat : Seat) (w : Saver) (c : Crowd σ) : rel c.store (save seat w c).rest.store := by
  cases w with
  | done => exact hrefl _
  | inside left answer events =>
    rw [save, store_stay]
    exact hrefl _
  | outside number title =>
    rw [save]
    split
    · exact hrefl _
    · split
      · rw [enter, store_stay]
        exact hsave ..
      · exact hrefl _
  | telling mark answer events =>
    rw [save]
    split
    · rw [store_tell]
      exact hrefl _
    · rw [store_await]
      exact hrefl _

end Crowd

/-! ### Rounds -/

namespace Rush

/-- A call leaves the **store** alone. -/
theorem store_call (r : Rush σ) (seat : Seat) : (r.call seat).crowd.store = r.crowd.store := by
  cases seat with
  | front => rfl
  | behind => rfl
  | member number index =>
    rw [call]
    split
    · rfl
    · split <;> rfl

/-- Calls leave the **store** alone. -/
theorem store_callAll (r : Rush σ) (seats : List Seat) :
    (r.callAll seats).crowd.store = r.crowd.store := by
  induction seats generalizing r with
  | nil => rfl
  | cons seat seats ih => exact (ih (r.call seat)).trans (r.store_call seat)

/-- Whoever runs behind leaves the **store** alone. -/
theorem store_goBehind (turns : Nat) (r : Rush σ) :
    (goBehind turns r).crowd.store = r.crowd.store := by
  induction turns generalizing r with
  | zero => rfl
  | succ turns ih =>
    rw [goBehind]
    split
    · rw [ih, store_callAll]
      exact Crowd.store_carry ..
    · rfl

/-- Calling back who gave way leaves the **store** alone. -/
theorem store_callBack (r : Rush σ) : r.callBack.crowd.store = r.crowd.store :=
  store_callAll ..

variable [Store σ] {rel : σ → σ → Prop}

/-- What every save **relates** a rush relates from its start to its end. -/
theorem settle_rel (hrefl : ∀ s, rel s s) (htrans : ∀ {r s t}, rel r s → rel s t → rel r t)
    (hsave : ∀ (m : Manager) (store : σ) (ambient : Ambient) (title : Option String),
      rel store (m.answer (⟨store, 0⟩ : Counted σ) ambient (.save title)).store.inner)
    (rounds : Nat) (r : Rush σ) : rel r.crowd.store (settle rounds r).crowd.store := by
  have hturn (seat : Seat) (savers : Circle Saver) (c : Crowd σ) :
      rel c.store (savers.turn Crowd.save seat c).rest.store :=
    @Circle.turn_rel _ _ (fun c c' => rel c.store c'.store) _ (fun c => hrefl c.store) htrans _
      (Crowd.save_rel hrefl hsave) seat savers c
  have hfront (r : Rush σ) : rel r.crowd.store r.goInFront.crowd.store := by
    rw [goInFront]
    split
    · rw [store_callAll]
      exact hturn .front r.savers { r.crowd with credit := Crowd.creditPerTurn }
    · exact hrefl _
  induction rounds generalizing r with
  | zero => exact hrefl _
  | succ rounds ih =>
    rw [settle]
    split
    · exact hfront r
    · refine htrans (hfront r) ?_
      have hrest := ih (goBehind Seat.behind.turnsInARow r.goInFront).callBack
      rwa [store_callBack, store_goBehind] at hrest

end Rush

/-- What **every save** keeps of the store, many saves at once keep. -/
theorem Desk.saveAll_rel [Store σ] {rel : σ → σ → Prop} (hrefl : ∀ s, rel s s)
    (htrans : ∀ {r s t}, rel r s → rel s t → rel r t)
    (hsave : ∀ (m : Manager) (store : σ) (ambient : Ambient) (title : Option String),
      rel store (m.answer (⟨store, 0⟩ : Counted σ) ambient (.save title)).store.inner)
    (d : Desk) (store : σ) (pauses : Bool) (titles : List String) :
    rel store (d.saveAll store pauses titles).2.1 := by
  rw [saveAll]
  split
  case h_1 savers scene _ =>
    exact Rush.settle_rel hrefl htrans hsave _
      { savers, crowd := { store, desk := { d with scene }, pauses } }

end Guildkeep.Save
