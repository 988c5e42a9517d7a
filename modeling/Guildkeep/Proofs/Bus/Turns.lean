import Guildkeep.Circle
import Mathlib.Data.List.Nodup
import Mathlib.Data.List.Perm.Subperm

/-!
# Turns without Calls

While its members call nobody, a turn of a circle is simple, small or large: one member after
another has one turn. In a large circle these are the members that were called, in the order of the
calls, and nobody is left called afterwards; the counts that may break a turn off come into play no
sooner.

## Main results

* `turn_quiet`: a turn in which **nobody calls** is a turn for each of those who are called, in
  order.
-/

namespace Guildkeep.Circle

variable {ω σ : Type}

/-- One turn for each of the members in a list of places, in that order. -/
def turnAt (step : Step ω σ) (seatOf : Nat → Seat) : List Nat → List ω → σ → List ω × σ
  | [], ws, s => (ws, s)
  | i :: order, ws, s =>
    match ws[i]? with
    | none => turnAt step seatOf order ws s
    | some w =>
      let t := step (seatOf i) w s
      turnAt step seatOf order (ws.set i t.work) t.rest

section Places

variable {step : Step ω σ} {seatOf : Nat → Seat} {order : List Nat} {ws : List ω}

/-- A member at no place of the list has **no turn**. -/
theorem turnAt_other {i : Nat} (hi : i ∉ order) (s : σ) :
    (turnAt step seatOf order ws s).1[i]? = ws[i]? := by
  induction order generalizing ws s with
  | nil => rfl
  | cons j order ih =>
    obtain ⟨hne, hi⟩ := not_or.1 (mt List.mem_cons.2 hi)
    rw [turnAt]
    split
    · exact ih hi s
    · exact (ih hi _).trans (List.getElem?_set_ne (Ne.symm hne))

/-- What a turn of **any member** keeps, turns at any places keep. -/
theorem turnAt_keeps (keep : List ω → σ → Prop)
    (hstep : ∀ {ws s i w}, keep ws s → ws[i]? = some w → ∀ seat,
      keep (ws.set i (step seat w s).work) (step seat w s).rest) {s : σ} (h : keep ws s) :
    keep (turnAt step seatOf order ws s).1 (turnAt step seatOf order ws s).2 := by
  induction order generalizing ws s with
  | nil => exact h
  | cons i order ih =>
    rw [turnAt]
    split
    · exact ih h
    case h_2 w hw => exact ih (hstep h hw (seatOf i))

/-- Each member at a place of the list has **one turn**, if no place is named twice. -/
theorem getElem?_turnAt {next : ω → ω} (hnodup : order.Nodup)
    (hnext : ∀ i ∈ order, ∀ w, ws[i]? = some w → ∀ seat s, (step seat w s).work = next w) {i : Nat}
    (hi : i ∈ order) (s : σ) : (turnAt step seatOf order ws s).1[i]? = ws[i]?.map next := by
  induction order generalizing ws s with
  | nil => cases hi
  | cons j order ih =>
    obtain ⟨hj, hnodup⟩ := List.nodup_cons.1 hnodup
    obtain ⟨hfirst, hothers⟩ := List.forall_mem_cons.1 hnext
    rw [turnAt]
    split
    case h_1 hnone =>
      obtain rfl | hi := List.mem_cons.1 hi
      · rw [turnAt_other hj, hnone]
        rfl
      · exact ih hnodup hothers hi s
    case h_2 w hw =>
      have hwork := hfirst w hw (seatOf j) s
      obtain rfl | hi := List.mem_cons.1 hi
      · obtain ⟨hlt, -⟩ := List.getElem?_eq_some_iff.1 hw
        rw [turnAt_other hj, hwork, List.getElem?_set_self hlt, hw]
        rfl
      · have hset (k : Nat) (hk : k ∈ order) (w' : ω) : (ws.set j w')[k]? = ws[k]? :=
          List.getElem?_set_ne fun hjk : j = k => hj (hjk ▸ hk)
        rw [ih hnodup (fun k hk w' hw' => hothers k hk w' ((hset k hk _).symm.trans hw')) hi,
          hset i hi]

/-- If only those have **no turn** who would do nothing in it, all have a turn. -/
theorem turnAt_members {next : ω → ω} (hnodup : order.Nodup)
    (hnext : ∀ w ∈ ws, ∀ seat s, (step seat w s).work = next w)
    (hrest : ∀ i w, ws[i]? = some w → i ∉ order → next w = w) (s : σ) :
    (turnAt step seatOf order ws s).1 = ws.map next := by
  refine List.ext_getElem? fun i => ?_
  rw [List.getElem?_map]
  by_cases hi : i ∈ order
  · exact getElem?_turnAt hnodup
      (fun j _ w hw => hnext w (List.mem_of_getElem? hw)) hi s
  · rw [turnAt_other hi]
    cases hw : ws[i]? with
    | none => rfl
    | some w => rw [Option.map_some, hrest i w hw hi]

/-- Where each turn of some **leaves a mark**, all their marks are left. -/
theorem turnAt_marks (mark : Seat → σ → Prop) {plain : ω → Prop} (leaves : ω → Prop)
    (hplain : ∀ w s seat, plain w → plain (step seat w s).work)
    (hkeep : ∀ w s seat other, plain w → mark other s → mark other (step seat w s).rest)
    (hmark : ∀ w s seat, leaves w → mark seat (step seat w s).rest) (hws : ∀ w ∈ ws, plain w)
    (hnodup : order.Nodup) {i : Nat} {w : ω} (hi : i ∈ order) (hw : ws[i]? = some w)
    (hleaves : leaves w) (s : σ) : mark (seatOf i) (turnAt step seatOf order ws s).2 := by
  have hset {ws : List ω} (hws : ∀ w ∈ ws, plain w) {i : Nat} {w : ω} (hw : ws[i]? = some w)
      (s : σ) (seat : Seat) : ∀ w' ∈ ws.set i (step seat w s).work, plain w' := by
    intro w' hw'
    obtain hw' | rfl := List.mem_or_eq_of_mem_set hw'
    · exact hws w' hw'
    · exact hplain w s seat (hws w (List.mem_of_getElem? hw))
  induction order generalizing ws s with
  | nil => cases hi
  | cons j order ih =>
    obtain ⟨hj, hnodup⟩ := List.nodup_cons.1 hnodup
    rw [turnAt]
    obtain rfl | hi := List.mem_cons.1 hi
    · rw [hw]
      refine (turnAt_keeps (fun ws s => (∀ w ∈ ws, plain w) ∧ mark (seatOf i) s) ?_
        ⟨hset hws hw s _, hmark w s _ hleaves⟩).2
      intro ws s j v ⟨hws, hs⟩ hv seat
      exact ⟨hset hws hv s seat, hkeep v s seat _ (hws v (List.mem_of_getElem? hv)) hs⟩
    · split
      · exact ih hws hnodup hi hw s
      case h_2 v hv =>
        refine ih (hset hws hv s _) hnodup hi ?_ _
        rwa [List.getElem?_set_ne fun hji : j = i => hj (hji ▸ hi)]

end Places

/-- A work that calls **nobody** in its turn. -/
def Quiet (step : Step ω σ) (w : ω) : Prop :=
  ∀ seat s, (step seat w s).calls = []

/-! ### Small circles -/

/-- A turn for each is a turn for each of the **places**, in order. -/
theorem turnEach_eq_turnAt (step : Step ω σ) (seat : Seat) (before ws : List ω) (s : σ) :
    turnAt step (fun _ => seat) (List.range' before.length ws.length) (before ++ ws) s =
      (before ++ (turnEach step seat ws s).work, (turnEach step seat ws s).rest) := by
  induction ws generalizing before s with
  | nil => rfl
  | cons w ws ih =>
    have hget : (before ++ w :: ws)[before.length]? = some w := by simp
    have hset (w' : ω) : (before ++ w :: ws).set before.length w' = (before ++ [w']) ++ ws := by
      simp
    have hnext := ih (before ++ [(step seat w s).work]) (step seat w s).rest
    rw [List.length_append, List.length_singleton] at hnext
    rw [List.length_cons, List.range'_succ]
    simp only [turnAt, hget, hset, hnext, turnEach]
    rw [List.append_assoc, List.singleton_append]

/-- No calls come out of a turn for each if none come out of any. -/
theorem calls_turnEach {step : Step ω σ} {ws : List ω}
    (hquiet : ∀ w ∈ ws, Quiet step w) (seat : Seat) (s : σ) :
    (turnEach step seat ws s).calls = [] := by
  induction ws generalizing s with
  | nil => rfl
  | cons w ws ih =>
    obtain ⟨hw, hws⟩ := List.forall_mem_cons.1 hquiet
    simp only [turnEach, hw seat s, ih hws, List.nil_append]

/-! ### Large circles -/

section Large

variable [Task ω]

/-- A member that has **not ended**. -/
def IsGoing (c : Circle ω) (i : Nat) : Prop :=
  ∃ w, c.members[i]? = some w ∧ Task.ended w = false

/-- Who **can be called** is going on and not called already. -/
theorem canCall_iff {c : Circle ω} {i : Nat} : c.canCall i = true ↔ c.IsGoing i ∧ i ∉ c.called := by
  simp only [canCall, IsGoing, Bool.and_eq_true, Option.any_eq_true, Bool.not_eq_true',
    List.contains_eq_mem, decide_eq_false_iff_not]

/-- There are at least as many members that have not ended as are named in a list. -/
theorem length_le_going {c : Circle ω} {order : List Nat} (hnodup : order.Nodup)
    (h : ∀ i ∈ order, c.IsGoing i) : order.length ≤ c.going := by
  have hsubset : order ⊆ c.members.findIdxs fun w => !Task.ended w := by
    intro i hi
    obtain ⟨w, hw, hended⟩ := h i hi
    obtain ⟨hlt, rfl⟩ := List.getElem?_eq_some_iff.1 hw
    exact List.mem_findIdxs_iff_exists_getElem_pos.2 ⟨hlt, by simp [hended]⟩
  rw [going, ← List.length_findIdxs]
  exact (hnodup.subperm hsubset).length_le

/-- Whoever is called has one turn, and then **nobody is called**. Turns are not broken off before,
because no more members are called than turns are left. -/
theorem turnCalled_quiet {step : Step ω σ} (seat : Seat) {fuel size turns : Nat} {c : Circle ω}
    (hquiet : ∀ i ∈ c.called, ∀ w, c.members[i]? = some w → Quiet step w) (hnodup : c.called.Nodup)
    (hgoing : ∀ i ∈ c.called, c.IsGoing i) (hfuel : c.called.length < fuel)
    (hsize : turns + c.called.length ≤ size) (s : σ) :
    (turnCalled step seat fuel size turns 0 c s).work =
        ⟨c.number, (turnAt step (.member c.number) c.called c.members s).1, []⟩ ∧
      (turnCalled step seat fuel size turns 0 c s).rest =
        (turnAt step (.member c.number) c.called c.members s).2 := by
  induction fuel generalizing size turns c s with
  | zero => omega
  | succ fuel ih =>
    obtain ⟨number, members, called⟩ := c
    cases called with
    | nil => exact ⟨rfl, rfl⟩
    | cons i called =>
      obtain ⟨hi, hothers⟩ := List.nodup_cons.1 hnodup
      obtain ⟨w, hw, -⟩ := hgoing i List.mem_cons_self
      simp only at hw
      have hcalls : (step (.member number i) w s).calls = [] :=
        hquiet i List.mem_cons_self w hw _ s
      simp only [List.length_cons] at hfuel hsize
      simp only [turnCalled, turnAt, hw, hcalls, heedAll]
      generalize step (.member number i) w s = t
      -- The others are called and going as before.
      have hne : ∀ j ∈ called, i ≠ j := fun j hj hij => hi (hij ▸ hj)
      have hquiet' : ∀ j ∈ called, ∀ w, (members.set i t.work)[j]? = some w → Quiet step w := by
        intro j hj w' hw'
        rw [List.getElem?_set_ne (hne j hj)] at hw'
        exact hquiet j (List.mem_cons_of_mem i hj) w' hw'
      have hgoing' : ∀ j ∈ called, IsGoing ⟨number, members.set i t.work, called⟩ j := by
        intro j hj
        obtain ⟨w', hw', hended⟩ := hgoing j (List.mem_cons_of_mem i hj)
        exact ⟨w', (List.getElem?_set_ne (hne j hj)).trans hw', hended⟩
      split
      · have hleft := length_le_going hothers hgoing'
        exact ih hquiet' hothers hgoing' (by simp only; omega) (by simpa using hleft) t.rest
      · split
        case isTrue hbreak =>
          obtain rfl : called = [] := by
            apply List.eq_nil_of_length_eq_zero
            simp at hbreak
            omega
          exact ⟨rfl, rfl⟩
        case isFalse hbreak =>
          exact ih hquiet' hothers hgoing' (by simp only; omega) (by simp only; omega) t.rest

/-- A large circle in which **nobody is called** does nothing. -/
theorem turn_uncalled {step : Step ω σ} {seat : Seat} {c : Circle ω} (hlarge : c.isLarge = true)
    (hcalled : c.called = []) (s : σ) : c.turn step seat s = ⟨c, s, []⟩ := by
  obtain ⟨fuel, hfuel⟩ : ∃ n, (c.members.length + 1) * (c.members.length + 1) = n + 1 :=
    Nat.exists_eq_add_one.2 (Nat.mul_pos (Nat.succ_pos _) (Nat.succ_pos _))
  simp only [turn, if_pos hlarge, hfuel, turnCalled, hcalled]

/-- Who is called in a large circle are those who have **not ended**, each of them once. -/
def Ready (c : Circle ω) : Prop :=
  c.isLarge = true → c.called.Nodup ∧ ∀ i, i ∈ c.called ↔ c.IsGoing i

/-- Who has a turn, in order. -/
def order (c : Circle ω) : List Nat :=
  if c.isLarge then c.called else List.range c.members.length

omit [Task ω] in
/-- The seat of a member. -/
def seatOf (c : Circle ω) (seat : Seat) (i : Nat) : Seat :=
  if c.isLarge then .member c.number i else seat

/-- Nobody stands in the order of turns **twice**. -/
theorem nodup_order {c : Circle ω} (h : c.Ready) : c.order.Nodup := by
  rw [order]
  split
  case isTrue hlarge => exact (h hlarge).1
  case isFalse => exact List.nodup_range

/-- Everybody who is going on **stands in the order** of turns. -/
theorem mem_order {c : Circle ω} (h : c.Ready) {i : Nat} (hi : c.IsGoing i) : i ∈ c.order := by
  rw [order]
  split
  case isTrue hlarge => exact ((h hlarge).2 i).2 hi
  case isFalse =>
    obtain ⟨w, hw, -⟩ := hi
    obtain ⟨hlt, -⟩ := List.getElem?_eq_some_iff.1 hw
    exact List.mem_range.2 hlt

/-- A turn in which **nobody calls** is a turn for each of those who have not ended, and then nobody
in a large circle is called. -/
theorem turn_quiet {step : Step ω σ} (seat : Seat) {c : Circle ω}
    (hquiet : ∀ w ∈ c.members, Quiet step w) (hready : c.Ready) (s : σ) :
    (c.turn step seat s).work =
        ⟨c.number, (turnAt step (c.seatOf seat) c.order c.members s).1,
          if c.isLarge then [] else c.called⟩ ∧
      (c.turn step seat s).rest = (turnAt step (c.seatOf seat) c.order c.members s).2 ∧
      (c.isLarge = false → (c.turn step seat s).calls = []) := by
  by_cases hlarge : c.isLarge = true
  · obtain ⟨hnodup, hcalled⟩ := hready hlarge
    have hgoing : ∀ i ∈ c.called, c.IsGoing i := fun i => (hcalled i).1
    have hle : c.called.length ≤ c.going := length_le_going hnodup hgoing
    have hfuel : c.called.length < (c.members.length + 1) * (c.members.length + 1) := by
      have hall : c.going ≤ c.members.length := List.countP_le_length
      calc c.called.length < c.members.length + 1 := by omega
        _ ≤ (c.members.length + 1) * (c.members.length + 1) := Nat.le_mul_self _
    have hseat : c.seatOf seat = .member c.number := by
      funext i
      rw [seatOf, if_pos hlarge]
    have hturn := turnCalled_quiet seat
      (fun i _ w hw => hquiet w (List.mem_of_getElem? hw)) hnodup hgoing hfuel
      (by omega : 0 + c.called.length ≤ c.going) s
    rw [turn, if_pos hlarge, hseat, order, if_pos hlarge, if_pos hlarge]
    exact ⟨hturn.1, hturn.2, fun hsmall => absurd hlarge (by simp [hsmall])⟩
  · have hseat : c.seatOf seat = fun _ => seat := by
      funext i
      rw [seatOf, if_neg hlarge]
    have heach := turnEach_eq_turnAt step seat [] c.members s
    rw [List.nil_append, List.nil_append, List.length_nil, ← List.range_eq_range'] at heach
    rw [turn, if_neg hlarge, hseat, order, if_neg hlarge, if_neg hlarge, heach]
    exact ⟨rfl, rfl, fun _ => calls_turnEach hquiet seat s⟩

end Large

end Guildkeep.Circle
