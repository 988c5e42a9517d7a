import Guildkeep.Proofs.Game.Rules

/-!
# The Inventory Keeps Count

Items come one at a time and go one at a time. An item may be held more than once, and more items
may be held than there are slots, in a state that was loaded; but nothing is lost and nothing turns
up on its own. What is held of an item is what was held at first, with what was added and without
what was removed.

## Conventions

Calls are made one after another. One that is refused leaves the state as it was.

## Main results

* `State.count_carriedAll`: every item is **accounted for**.
* `State.length_carriedAll_le`: no call fills the inventory beyond its **slots**.
* `removeItem_of_mem`: what is removed is the **first** of its kind.
* `removeItem_of_added`: an item that was not held goes as it **came**.
* `inventory_keeps_count`: all of this for every run of calls.
-/

namespace Guildkeep.Game

open Time

/-- A **call** on the inventory. -/
inductive Carry where
  | add (item : String)
  | remove (item : String)
  deriving DecidableEq

/-! ### One call -/

/-- With a slot free an item is **added at the end**. -/
theorem addItem_of_lt {s : State} (hfree : s.inventory.length < inventorySlots) (item : String)
    (now : Instant) : addItem s item now = .ok (s.withInventory (s.inventory ++ [item]) now) :=
  if_neg (Nat.not_le.2 hfree)

/-- What is removed is the **first** of its kind, and all others keep their order. -/
theorem removeItem_of_mem {s : State} {item : String} (hheld : item ∈ s.inventory) (now : Instant) :
    ∃ front back, s.inventory = front ++ item :: back ∧ item ∉ front ∧
      removeItem s item now = .ok (s.withInventory (front ++ back) now) := by
  obtain ⟨front, back, hfirst, hsplit, herase⟩ := List.exists_erase_eq hheld
  refine ⟨front, back, hsplit, hfirst, ?_⟩
  rw [removeItem, if_pos hheld, herase]

/-- An item that was not held is added and removed **without a trace**. -/
theorem removeItem_of_added {s added : State} {item : String} {now : Instant}
    (hnew : item ∉ s.inventory) (hadded : addItem s item now = .ok added) (later : Instant) :
    removeItem added item later = .ok (s.withInventory s.inventory later) := by
  obtain ⟨-, rfl⟩ := addItem_inventory hadded
  have hmem : item ∈ s.inventory ++ [item] := List.mem_append_right _ (List.mem_singleton.2 rfl)
  have herase : (s.inventory ++ [item]).erase item = s.inventory := by
    rw [List.erase_append_right _ hnew, List.erase_cons_head, List.append_nil]
  refine (if_pos hmem).trans ?_
  change Except.ok (s.withInventory ((s.inventory ++ [item]).erase item) later) = _
  rw [herase]

/-- What is held is **in the inventory**. -/
theorem holds_eq_true_iff {s : State} {item : String} :
    holds s item = true ↔ item ∈ s.inventory :=
  List.contains_iff_mem

/-- What is not held is **not in the inventory**. -/
theorem holds_eq_false_iff {s : State} {item : String} :
    holds s item = false ↔ item ∉ s.inventory := by
  rw [← holds_eq_true_iff, Bool.not_eq_true]

namespace State

/-- What comes of a call. -/
def carry (s : State) (c : Carry) (now : Instant) : Except Refusal State :=
  match c with
  | .add item => addItem s item now
  | .remove item => removeItem s item now

/-- The state after a call was **made**, and when. -/
def carried (s : State) (call : Carry × Instant) : State :=
  match s.carry call.1 call.2 with
  | .ok after => after
  | .error _ => s

/-- The state after calls, one after another. -/
def carriedAll (s : State) (calls : List (Carry × Instant)) : State :=
  calls.foldl carried s

/-- The calls that are **granted**, in order. -/
def granted : State → List (Carry × Instant) → List Carry
  | _, [] => []
  | s, call :: calls =>
    (if (s.carry call.1 call.2).isOk then [call.1] else []) ++ granted (s.carried call) calls

/-- What a call does: it is **refused** and nothing changes, or it adds an item where a slot is
left, or it removes an item that is held. -/
inductive Carried (s : State) : Carry → List Carry → State → Prop
  | refused {c : Carry} : Carried s c [] s
  | added {item : String} {now : Instant} (hfree : s.inventory.length < inventorySlots) :
      Carried s (.add item) [.add item] (s.withInventory (s.inventory ++ [item]) now)
  | removed {item : String} {now : Instant} (hheld : item ∈ s.inventory) :
      Carried s (.remove item) [.remove item] (s.withInventory (s.inventory.erase item) now)

/-- Every call is one of these, and is **granted** unless it is refused. -/
theorem exists_carried (s : State) (call : Carry × Instant) (calls : List (Carry × Instant)) :
    ∃ given, Carried s call.1 given (s.carried call) ∧
      s.granted (call :: calls) = given ++ (s.carried call).granted calls := by
  obtain ⟨c, now⟩ := call
  rw [granted, carried]
  cases hcarry : s.carry c now with
  | error why => exact ⟨[], .refused, rfl⟩
  | ok after =>
    refine ⟨[c], ?_, rfl⟩
    cases c with
    | add item =>
      obtain ⟨hfree, rfl⟩ := addItem_inventory hcarry
      exact .added hfree
    | remove item =>
      obtain ⟨hheld, rfl⟩ := removeItem_inventory hcarry
      exact .removed hheld

/-- One call keeps the **count** of every item. -/
theorem Carried.count {s after : State} {c : Carry} {given : List Carry}
    (h : Carried s c given after)    (item : String) :
    after.inventory.count item + given.count (.remove item) =
      s.inventory.count item + given.count (.add item) := by
  cases h with
  | refused => rfl
  | @added other _ hfree =>
    change (s.inventory ++ [other]).count item + [Carry.add other].count (.remove item) =
      s.inventory.count item + [Carry.add other].count (.add item)
    simp [List.count_append, List.count_singleton]
  | @removed other _ hheld =>
    change (s.inventory.erase other).count item + [Carry.remove other].count (.remove item) =
      s.inventory.count item + [Carry.remove other].count (.add item)
    by_cases hitem : other = item
    · subst hitem
      have hpos := List.count_pos_iff.2 hheld
      simp [List.count_erase_self, Nat.sub_add_cancel hpos]
    · simp [List.count_erase_of_ne (Ne.symm hitem), hitem]

/-- One call leaves **no more items** than there are slots, or were carried. -/
theorem Carried.length_le {s after : State} {c : Carry} {given : List Carry}
    (h : Carried s c given after) :
    after.inventory.length ≤ max inventorySlots s.inventory.length := by
  cases h with
  | refused => exact Nat.le_max_right _ _
  | added hfree =>
    change (s.inventory ++ [_]).length ≤ _
    rw [List.length_append, List.length_singleton]
    omega
  | removed hheld => exact Nat.le_trans List.length_erase_le (Nat.le_max_right _ _)

/-! ### Every run of calls -/

/-- Every item is **accounted for**: what is held and what was removed is what was held at first and
what was added. -/
theorem count_carriedAll (s : State) (calls : List (Carry × Instant)) (item : String) :
    (s.carriedAll calls).inventory.count item + (s.granted calls).count (.remove item) =
      s.inventory.count item + (s.granted calls).count (.add item) := by
  induction calls generalizing s with
  | nil => rfl
  | cons call calls ih =>
    obtain ⟨given, hcarried, hgranted⟩ := s.exists_carried call calls
    have hfirst := hcarried.count item
    have hrest := ih (s.carried call)
    rw [hgranted, List.count_append, List.count_append]
    change ((s.carried call).carriedAll calls).inventory.count item + _ = _
    omega

/-- No call fills the inventory **beyond its slots**. -/
theorem length_carriedAll_le (s : State) (calls : List (Carry × Instant)) :
    (s.carriedAll calls).inventory.length ≤ max inventorySlots s.inventory.length := by
  induction calls generalizing s with
  | nil => exact Nat.le_max_right _ _
  | cons call calls ih =>
    obtain ⟨given, hcarried, -⟩ := s.exists_carried call calls
    have hfirst := hcarried.length_le
    have hrest := ih (s.carried call)
    change ((s.carried call).carriedAll calls).inventory.length ≤ _
    omega

end State

/-- **The inventory keeps count**, whatever was held at first and whatever is asked of it. Of every
item as many are held as at first, with those that were added and without those that were removed;
and never more items in all than there are slots, unless there were at first. An item is refused
exactly where no slot is left, and else comes last. A removal is refused exactly where the item is
not held, and else takes the first of its kind and leaves the others in order. So an item that was
not held is added and removed without a trace. -/
theorem inventory_keeps_count (s : State) (calls : List (Carry × Instant)) :
    let after := s.carriedAll calls
    (∀ item, after.inventory.count item + (s.granted calls).count (.remove item) =
      s.inventory.count item + (s.granted calls).count (.add item)) ∧
    after.inventory.length ≤ max 20 s.inventory.length ∧
    ∀ item now,
      (∀ why, addItem after item now = .error why ↔
        20 ≤ after.inventory.length ∧ .inventoryFull 20 = why) ∧
      (after.inventory.length < 20 →
        addItem after item now = .ok (after.withInventory (after.inventory ++ [item]) now)) ∧
      (∀ why, removeItem after item now = .error why ↔
        holds after item = false ∧ .itemNotFound item = why) ∧
      (holds after item = true → ∃ front back, after.inventory = front ++ item :: back ∧
        item ∉ front ∧ removeItem after item now = .ok (after.withInventory (front ++ back) now)) ∧
      ∀ added later, holds after item = false → addItem after item now = .ok added →
        removeItem added item later = .ok (after.withInventory after.inventory later) := by
  intro after
  refine ⟨s.count_carriedAll calls, s.length_carriedAll_le calls, fun item now => ⟨fun why => ?_,
    fun hfree => addItem_of_lt hfree item now, fun why => ?_, fun hheld => ?_,
    fun added later hnew hadded => ?_⟩⟩
  · exact addItem_eq_error_iff
  · rw [holds_eq_false_iff]
    exact removeItem_eq_error_iff
  · exact removeItem_of_mem (holds_eq_true_iff.1 hheld) now
  · exact removeItem_of_added (holds_eq_false_iff.1 hnew) hadded later

/-- An inventory with more items than slots: nothing is added before there is a slot for it. -/
theorem inventory_keeps_count_overfull :
    let s := { State.opening "s" 100 .epoch with inventory := "sword" :: .replicate 20 "potion" }
    let calls : List (Carry × Instant) :=
      [(.add "shield", .epoch), (.remove "potion", .epoch), (.remove "shield", .epoch),
        (.remove "potion", .epoch)]
    let after := s.carriedAll calls
    s.granted calls = [.remove "potion", .remove "potion"] ∧
      after.inventory.count "potion" = 18 ∧ after.inventory.length < 20 ∧
      holds after "shield" = false ∧
      ∃ added, addItem after "shield" .epoch = .ok added ∧
        removeItem added "shield" .epoch = .ok (after.withInventory after.inventory .epoch) := by
  intro s calls after
  obtain ⟨hcount, -, hcalls⟩ := inventory_keeps_count s calls
  obtain ⟨-, hadd, -, -, hrestored⟩ := hcalls "shield" .epoch
  have hgranted : s.granted calls = [.remove "potion", .remove "potion"] := by decide
  have hfree : after.inventory.length < 20 := by decide
  have hnew : holds after "shield" = false := by decide
  have hpotions : after.inventory.count "potion" + 2 = 18 + 2 := by
    have htotal := hcount "potion"
    rw [hgranted] at htotal
    exact htotal
  exact ⟨hgranted, Nat.add_right_cancel hpotions, hfree, hnew, _, hadd hfree,
    hrestored _ .epoch hnew (hadd hfree)⟩

end Guildkeep.Game
