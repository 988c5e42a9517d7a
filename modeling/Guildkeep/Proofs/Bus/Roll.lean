import Guildkeep.Bus.Delivery
import Mathlib.Data.List.Nodup
import Mathlib.Logic.Function.Basic

/-!
# The Roll of a Bus

The roll says what subscribing and disposing come to, without a bus: every subscription that was
ever made is entered with its number, and those that were disposed or dropped are crossed off. A
scene that keeps to the roll has on its bus exactly the subscriptions that are not crossed off, in
the order in which they were made.

## Conventions

A subscription has the number of subscriptions before it for its own number. It is held under the
name of its handler until it is dropped; one that takes over the name has the other dropped.

Publications are counted as well, because their number is the number of the occasion.

A handler is silent if on no occasion it publishes anything or subscribes a handler that is not
silent.

## Main results

* `Roll.Sound`: numbers are given **once**, and a live subscription is the one held under its name.
* `Scene.Tracks`: the scene **keeps to the roll**, whatever is subscribed, disposed or dropped.
-/

namespace Guildkeep

namespace Bus

/-! ### Silent handlers -/

mutual

/-- An action that publishes **nothing**, nor does the handler that it may subscribe. -/
def Action.IsSilent : Action → Prop
  | .subscribe _ script _ _ => ∀ o, AreSilent (script o)
  | .dispose _ | .drop _ => True
  | .publish _ => False

/-- A script that publishes nothing. -/
def AreSilent : List Action → Prop
  | [] => True
  | a :: rest => a.IsSilent ∧ AreSilent rest

end

/-- A **silent** handler. -/
def Handler.IsSilent (h : Handler) : Prop :=
  ∀ o, AreSilent (h.script o)

/-! ### The roll -/

/-- The **roll** of a bus. -/
structure Roll where
  /-- Every subscription that was made, with its number, in order. -/
  made : List (Nat × Handler) := []
  /-- The numbers of those that were disposed or dropped. -/
  gone : List Nat := []
  /-- The number that is held under a name. -/
  holder : String → Option Nat := fun _ => none
  /-- How many events were published. -/
  published : Nat := 0

namespace Roll

/-- The subscriptions that are **neither disposed nor dropped**. -/
def live (r : Roll) : List (Nat × Handler) :=
  r.made.filter fun p => p.1 ∉ r.gone

/-- A subscription is made; the one that was held under the name is dropped. -/
def subscribe (r : Roll) (h : Handler) : Roll where
  made := r.made ++ [(r.made.length, h)]
  gone := (r.holder h.name).toList ++ r.gone
  holder := Function.update r.holder h.name (some r.made.length)
  published := r.published

/-- The subscription under a name is disposed, and still held. -/
def dispose (r : Roll) (name : String) : Roll :=
  { r with gone := (r.holder name).toList ++ r.gone }

/-- The subscription under a name is dropped. -/
def drop (r : Roll) (name : String) : Roll :=
  { r.dispose name with holder := Function.update r.holder name none }

/-- What an action of a handler does. -/
def act (r : Roll) : Action → Roll
  | .subscribe name script pauses ending =>
    if (r.holder name).isSome then r else r.subscribe ⟨name, script, pauses, ending⟩
  | .dispose name => r.dispose name
  | .drop name => r.drop name
  | .publish _ => r

/-- What a handler does when it is invoked: its whole script, unless it breaks down at once. -/
def invoke (o : Occasion) (r : Roll) (h : Handler) : Roll :=
  if (h.ending o).isAtOnce then r else (h.script o).foldl act r

/-- Another event is published. -/
def publish (r : Roll) : Roll :=
  { r with published := r.published + 1 }

/-- What a publication does: those who are live **when it begins** are invoked, in order. -/
def deliver (r : Roll) (e : Event) : Roll :=
  (r.live.map (·.2)).foldl (invoke ⟨r.published, e⟩) r.publish

/-- What passes a test at the end of a list stays at the end. -/
theorem filter_concat {α : Type} {p : α → Bool} (l : List α) {a : α} (h : p a = true) :
    (l ++ [a]).filter p = l.filter p ++ [a] := by
  simp [h]

/-- Disposing takes the subscription under a name off, and **no other**. -/
theorem live_dispose (r : Roll) (name : String) :
    (r.dispose name).live = r.live.filter fun p => r.holder name ≠ some p.1 := by
  simp only [live, dispose, List.filter_filter]
  refine List.filter_congr fun p _ => ?_
  simp [not_or]

/-- A roll as it comes about. -/
structure Sound (r : Roll) : Prop where
  numbered : r.made.map (·.1) = List.range r.made.length
  gone : ∀ i ∈ r.gone, i < r.made.length
  held : ∀ {name i}, r.holder name = some i → ∃ h, (i, h) ∈ r.made ∧ h.name = name
  holder : ∀ p ∈ r.live, r.holder p.2.name = some p.1
  silent : ∀ p ∈ r.made, p.2.IsSilent

namespace Sound

variable {r : Roll}

/-- A roll on which nothing stands is **sound**. -/
theorem empty : Sound {} where
  numbered := rfl
  gone := List.forall_mem_nil _
  held := nofun
  holder := List.forall_mem_nil _
  silent := List.forall_mem_nil _

/-- Every number is one of those that **were given out**. -/
theorem lt (h : r.Sound) {p : Nat × Handler} (hp : p ∈ r.made) : p.1 < r.made.length := by
  have hmem : p.1 ∈ r.made.map (·.1) := List.mem_map_of_mem hp
  rw [h.numbered] at hmem
  exact List.mem_range.1 hmem

/-- The number that is held under a name **was given out**. -/
theorem held_lt (h : r.Sound) {name : String} {i : Nat} (hi : r.holder name = some i) :
    i < r.made.length := by
  obtain ⟨g, hmem, -⟩ := h.held hi
  exact h.lt hmem

/-- A number is given **once**. -/
theorem nodup_numbers (h : r.Sound) : (r.made.map (·.1)).Nodup := by
  rw [h.numbered]
  exact List.nodup_range

/-- A number is given out **once**. -/
theorem eq_of_number (h : r.Sound) {p q : Nat × Handler} (hp : p ∈ r.made) (hq : q ∈ r.made)
    (hnumber : p.1 = q.1) : p = q :=
  List.inj_on_of_nodup_map h.nodup_numbers hp hq hnumber

/-- Of those who are live no two have **the same name**. -/
theorem nodup_names (h : r.Sound) : (r.live.map (·.2.name)).Nodup := by
  have hlive : r.live.Nodup := (List.Nodup.of_map _ h.nodup_numbers).sublist List.filter_sublist
  refine hlive.map_on fun p hp q hq hname => ?_
  have hnumber : some p.1 = some q.1 := by
    rw [← h.holder p hp, ← h.holder q hq, hname]
  exact h.eq_of_number (List.mem_filter.1 hp).1 (List.mem_filter.1 hq).1 (Option.some.inj hnumber)

/-- Handlers that are there publish **nothing**. -/
theorem silent_live (h : r.Sound) : ∀ g ∈ r.live.map (·.2), g.IsSilent := by
  intro g hg
  obtain ⟨p, hp, rfl⟩ := List.mem_map.1 hg
  exact h.silent p (List.mem_filter.1 hp).1

/-- A new subscription is live, beside all those that it does not take the name from. -/
theorem live_subscribe (h : r.Sound) (g : Handler) :
    (r.subscribe g).live =
      (r.live.filter fun p => r.holder g.name ≠ some p.1) ++ [(r.made.length, g)] := by
  have hnew : r.made.length ∉ (r.holder g.name).toList ++ r.gone := by
    intro hmem
    obtain hmem | hmem := List.mem_append.1 hmem
    · exact absurd (h.held_lt (Option.mem_toList.1 hmem)) (Nat.lt_irrefl _)
    · exact absurd (h.gone _ hmem) (Nat.lt_irrefl _)
  rw [← live_dispose]
  exact filter_concat r.made (decide_eq_true hnew)

/-- Disposing changes only who is live. -/
theorem dispose (h : r.Sound) (name : String) : (r.dispose name).Sound where
  numbered := h.numbered
  gone i hi := by
    obtain hi | hi := List.mem_append.1 hi
    · exact h.held_lt (Option.mem_toList.1 hi)
    · exact h.gone i hi
  held := h.held
  holder p hp := by
    rw [live_dispose] at hp
    exact h.holder p (List.mem_filter.1 hp).1
  silent := h.silent

/-- Who is live after the one under a name is gone has **another name**. -/
theorem name_ne (h : r.Sound) {name : String} {p : Nat × Handler}
    (hp : p ∈ r.live.filter fun p => r.holder name ≠ some p.1) : p.2.name ≠ name := by
  obtain ⟨hlive, hne⟩ := List.mem_filter.1 hp
  rintro rfl
  exact of_decide_eq_true hne (h.holder p hlive)

/-- Letting go of a subscription leaves a roll **sound**. -/
theorem drop (h : r.Sound) (name : String) : (r.drop name).Sound where
  numbered := h.numbered
  gone := (h.dispose name).gone
  held {other i} hi := by
    simp only [Roll.drop, Function.update_apply] at hi
    split at hi
    · cases hi
    · exact h.held hi
  holder p hp := by
    have hlive : p ∈ r.live.filter fun p => r.holder name ≠ some p.1 := by
      rwa [← live_dispose]
    exact (Function.update_of_ne (h.name_ne hlive) _ _).trans
      (h.holder p (List.mem_filter.1 hlive).1)
  silent := h.silent

/-- A subscription leaves a roll **sound**. -/
theorem subscribe (h : r.Sound) {g : Handler} (hg : g.IsSilent) : (r.subscribe g).Sound where
  numbered := by
    simp [Roll.subscribe, h.numbered, List.range_succ]
  gone i hi := by
    have hlt := (h.dispose g.name).gone i hi
    simp only [Roll.subscribe, Roll.dispose, List.length_append] at hlt ⊢
    omega
  held {name i} hi := by
    simp only [Roll.subscribe, Function.update_apply] at hi
    split at hi
    case isTrue hname =>
      cases hi
      exact ⟨g, List.mem_append_right _ (List.mem_singleton.2 rfl), hname.symm⟩
    case isFalse =>
      obtain ⟨g', hmem, hname⟩ := h.held hi
      exact ⟨g', List.mem_append_left _ hmem, hname⟩
  holder p hp := by
    rw [h.live_subscribe] at hp
    obtain hp | hp := List.mem_append.1 hp
    · exact (Function.update_of_ne (h.name_ne hp) _ _).trans
        (h.holder p (List.mem_filter.1 hp).1)
    · obtain rfl := List.mem_singleton.1 hp
      exact Function.update_self ..
  silent p hp := by
    obtain hp | hp := List.mem_append.1 hp
    · exact h.silent p hp
    · obtain rfl := List.mem_singleton.1 hp
      exact hg

end Sound

end Roll

end Bus

/-! ### Scenes that keep to a roll -/

namespace Scene

open Bus

/-- What an action of a silent handler does to the scene. -/
def act (s : Scene) : Action → Scene
  | .subscribe name script pauses ending => s.subscribeNew ⟨name, script, pauses, ending⟩
  | .dispose name => s.dispose name
  | .drop name => s.release name
  | .publish _ => s

/-- The scene **keeps to the roll**: its bus has the live subscriptions in order, its names hold
what the roll says, and it has gathered a circle for each publication. -/
structure Tracks (r : Roll) (s : Scene) : Prop where
  sound : r.Sound
  nextId : s.bus.nextId = r.made.length
  handlers : s.bus.handlers = r.live
  held : ∀ name, s.held.get? name = r.holder name
  circles : s.circles = r.published

namespace Tracks

variable {r : Roll} {s t : Scene}

/-- At first a roll on which nothing stands **keeps track**. -/
theorem start (ambient : Ambient) : Tracks {} { ambient } where
  sound := .empty
  nextId := rfl
  handlers := rfl
  held _ := rfl
  circles := rfl

/-- Keeping to the roll is a matter of the bus, the names and the circles **alone**. -/
theorem of_eq (h : Tracks r s) (hbus : t.bus = s.bus) (hheld : t.held = s.held)
    (hcircles : t.circles = s.circles) : Tracks r t where
  sound := h.sound
  nextId := hbus ▸ h.nextId
  handlers := hbus ▸ h.handlers
  held := hheld ▸ h.held
  circles := hcircles ▸ h.circles

/-- Gathering the handlers for an event is publishing one. -/
theorem muster (h : Tracks r s) (e : Event) : Tracks r.publish (s.muster e).2 where
  sound := ⟨h.sound.numbered, h.sound.gone, h.sound.held, h.sound.holder, h.sound.silent⟩
  nextId := h.nextId
  handlers := h.handlers
  held := h.held
  circles := congrArg (· + 1) h.circles

/-- The roll keeps track of **disposals**. -/
theorem dispose (h : Tracks r s) (name : String) : Tracks (r.dispose name) (s.dispose name) := by
  have hheld := h.held name
  rw [Scene.dispose]
  split
  case h_1 i hi =>
    refine ⟨h.sound.dispose name, h.nextId, ?_, h.held, h.circles⟩
    rw [Roll.live_dispose, ← hheld, hi, ← h.handlers]
    refine List.filter_congr fun p _ => ?_
    simp [eq_comm]
  case h_2 hnone =>
    have hsame : r.dispose name = r := by
      rw [Roll.dispose, ← hheld, hnone]
      rfl
    rw [hsame]
    exact h

/-- The roll keeps track of subscriptions that are **let go of**. -/
theorem release (h : Tracks r s) (name : String) : Tracks (r.drop name) (s.release name) where
  sound := h.sound.drop name
  nextId := (h.dispose name).nextId
  handlers := (h.dispose name).handlers
  held other := by
    have herase := Table.get?_erase s.held name other
    rw [h.held other] at herase
    exact herase.trans (Function.update_apply ..).symm
  circles := (h.dispose name).circles

/-- The roll keeps track of **subscriptions**. -/
theorem subscribe (h : Tracks r s) {g : Handler} (hg : g.IsSilent) :
    Tracks (r.subscribe g) (s.subscribe g).2 := by
  have hheld := h.held g.name
  refine ⟨h.sound.subscribe hg, ?_, ?_, ?_, h.circles⟩
  · simp only [Scene.subscribe]
    split <;> simp [Bus.subscribe, Bus.dispose, Roll.subscribe, h.nextId]
  · rw [h.sound.live_subscribe, ← hheld, ← h.handlers, ← h.nextId]
    simp only [Scene.subscribe]
    split
    case h_1 i hi =>
      have hne : s.bus.nextId ≠ i := by
        have hlt := h.sound.held_lt (hheld.symm.trans hi)
        rw [h.nextId]
        omega
      have hfilter : (fun p : Nat × Handler => decide (p.1 ≠ i)) =
          fun p => decide (s.held.get? g.name ≠ some p.1) := by
        funext p
        simp [hi, eq_comm]
      rw [← hfilter]
      exact Roll.filter_concat s.bus.handlers (decide_eq_true hne)
    case h_2 hnone =>
      have hall : s.bus.handlers.filter (fun p => s.held.get? g.name ≠ some p.1) =
          s.bus.handlers := by
        refine List.filter_eq_self.2 fun p _ => ?_
        simp [hnone]
      rw [hall, Bus.subscribe]
  · intro name
    have hput := Table.get?_put s.held g.name name s.bus.nextId
    rw [h.held name] at hput
    rw [Roll.subscribe, ← h.nextId]
    exact hput.trans (Function.update_apply ..).symm

/-- An action of a silent handler. -/
theorem act (h : Tracks r s) {a : Action} (ha : a.IsSilent) : Tracks (r.act a) (s.act a) := by
  cases a with
  | subscribe name script pauses ending =>
    rw [Roll.act, Scene.act, subscribeNew, Table.has, h.held name]
    split
    · exact h
    · exact h.subscribe ha
  | dispose name => exact h.dispose name
  | drop name => exact h.release name
  | publish outline => exact h

/-- A script of a silent handler. -/
theorem acts (h : Tracks r s) {script : List Action} (hscript : AreSilent script) :
    Tracks (script.foldl Roll.act r) (script.foldl Scene.act s) := by
  induction script generalizing r s with
  | nil => exact h
  | cons a script ih =>
    rw [AreSilent] at hscript
    exact ih (h.act hscript.1) hscript.2

end Tracks

end Scene

end Guildkeep
