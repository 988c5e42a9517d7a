import Guildkeep.Proofs.Engine.Reconstruction

/-!
# A Session Keeps Within Its Bounds

A session that starts with some health lives as long as it is played: its health stays between zero
and what it started with, and is zero only when the session has ended in defeat. Nobody carries more
than there are slots for, and what names a session and what it is played under never change.

## Conventions

How a session ended is told by the one event of its end, and its reason tells a defeat from an end
that was ordered.

## Main results

* `WithinBounds`: the **bounds** of a state; `action_withinBounds`, `action_alive`: what is played
  keeps them, and keeps the session alive unless it is lost over it.
* `Effect.sound`: every effect keeps the session **sound** and its fate told.
* `session_within_bounds`: the bounds of **every session** of a new engine.
-/

namespace Guildkeep.Engine

open Game

/-! ### Actions -/

/-- The health and the items of a state are **within bounds**. -/
structure WithinBounds (config : Config) (s : State) : Prop where
  nonneg : 0 ≤ s.health.toInt
  le_initial : s.health.toInt ≤ config.initialHealth.toInt
  slots : s.inventory.length ≤ inventorySlots

section Actions

variable {order : Order} {now : Time.Instant} {action : Action} {before after : State}
  {config : Config}

/-- What is **played** keeps the bounds, and the name of the session. -/
theorem action_withinBounds (hasks : order.action? now = some action)
    (hplays : action.rule before config = .ok after) (h : WithinBounds config before) :
    WithinBounds config after ∧ after.id = before.id := by
  obtain ⟨hnonneg, hle, hslots⟩ := h
  cases order with
  | start | pause | resume | finish => cases hasks
  | move dx dy =>
    cases hasks
    cases hplays
    exact ⟨⟨hnonneg, hle, hslots⟩, rfl⟩
  | damage amount =>
    cases hasks
    obtain ⟨taken, health, -, htaken, rfl, hhealth⟩ := applyDamage_ok hplays
    refine ⟨⟨?_, ?_, hslots⟩, rfl⟩
    · change 0 ≤ health.toInt
      omega
    · change health.toInt ≤ config.initialHealth.toInt
      omega
  | heal amount =>
    cases hasks
    obtain ⟨hamount, hhealth⟩ := heal_health hplays
    have hroom := before.health.toInt_lt
    have hmax : maxInt32 = 2147483647 := rfl
    obtain ⟨health, rfl⟩ := heal_ok hplays
    exact ⟨⟨by omega, by omega, hslots⟩, rfl⟩
  | award points =>
    cases hasks
    obtain ⟨score, level, rfl⟩ := award_ok hplays
    exact ⟨⟨hnonneg, hle, hslots⟩, rfl⟩
  | pickUp item =>
    cases hasks
    obtain ⟨hfree, rfl⟩ := addItem_inventory hplays
    refine ⟨⟨hnonneg, hle, ?_⟩, rfl⟩
    change (before.inventory ++ [item]).length ≤ inventorySlots
    rw [List.length_append, List.length_singleton]
    exact hfree
  | drop item =>
    cases hasks
    obtain ⟨-, rfl⟩ := removeItem_inventory hplays
    exact ⟨⟨hnonneg, hle, Nat.le_trans List.length_erase_le hslots⟩, rfl⟩

/-- Only a hit can take the **last** of the health. -/
theorem action_alive (hasks : order.action? now = some action)
    (hplays : action.rule before config = .ok after)
    (hlasts : ∀ amount, order = .damage amount → isDefeated after = false)
    (h : WithinBounds config before) (halive : 1 ≤ before.health.toInt) :
    1 ≤ after.health.toInt := by
  cases order with
  | start | pause | resume | finish => cases hasks
  | move dx dy =>
    cases hasks
    cases hplays
    exact halive
  | damage amount =>
    have hleft : 0 < after.health.toInt := by
      simpa [isDefeated, State.isAlive] using hlasts amount rfl
    exact hleft
  | heal amount =>
    cases hasks
    obtain ⟨hamount, hhealth⟩ := heal_health hplays
    have hle := h.le_initial
    have hmax : maxInt32 = 2147483647 := rfl
    omega
  | award points =>
    cases hasks
    obtain ⟨score, level, rfl⟩ := award_ok hplays
    exact halive
  | pickUp item =>
    cases hasks
    obtain ⟨inventory, rfl⟩ := addItem_ok hplays
    exact halive
  | drop item =>
    cases hasks
    obtain ⟨inventory, rfl⟩ := removeItem_ok hplays
    exact halive

end Actions

/-! ### The end -/

/-- The events that tell of an **end**. -/
def endings (events : List Outline) : List Outline :=
  events.filter (·.type == Event.Kind.gameEnded.type)

/-- What tells of play tells of **no end**. -/
theorem endings_play {told : List (Phase × Outline)} (h : Play told) :
    endings (told.map (·.2)) = [] := by
  rw [endings, List.filter_eq_nil_iff]
  intro o ho htype
  obtain ⟨e, he, rfl⟩ := List.mem_map.1 ho
  obtain ⟨-, kind, hkind, hplays⟩ := h e he
  rw [Event.Kind.type_injective (hplays.symm.trans (beq_iff_eq.1 htype))] at hkind
  cases hkind

/-- Endings are counted **piece by piece**. -/
theorem endings_append (told more : List (Phase × Outline)) :
    endings ((told ++ more).map (·.2)) = endings (told.map (·.2)) ++ endings (more.map (·.2)) := by
  rw [List.map_append, endings, List.filter_append]
  rfl

/-- The **fate** of a session: no end is told of before it has come, and then one, which is a defeat
exactly if no health is left. -/
def Fate (s : State) (told : List (Phase × Outline)) : Phase → Prop
  | .ended => ∃ e, endings (told.map (·.2)) = [e] ∧
      (s.health.toInt = 0 ↔ e.member? "reason" = some (.string "defeated"))
  | _ => endings (told.map (·.2)) = []

/-- While a session can be played or ended, no end was told of. -/
theorem Fate.endings_eq_nil {s : State} {told : List (Phase × Outline)} {phase : Phase}
    (h : Fate s told phase) (hphase : phase = .running ∨ phase = .paused) :
    endings (told.map (·.2)) = [] := by
  rcases hphase with rfl | rfl
  all_goals exact h

/-! ### One order -/

/-- A session is **sound**: it is still the one that opened as `first`, within bounds, and alive
until it has ended. -/
structure Sound (first : Snapshot) (phase : Phase) (s : Snapshot) : Prop where
  id : s.state.id = first.state.id
  config : s.config = first.config
  bounds : WithinBounds first.config s.state
  alive : phase = .running ∨ phase = .paused → 1 ≤ s.state.health.toInt

namespace Effect

variable {g g' : Engine} {m : Moment} {order : Order} {reply : Reply} {first s : Snapshot}
  {told more : List (Phase × Outline)}

/-- Every effect keeps the session **sound**, and its fate told. -/
theorem sound (h : Effect g m order reply g' more) (hphase : g.phase ≠ .initialized)
    (hsession : g.session = some s) (hsound : Sound first g.phase s)
    (hfate : Fate s.state told g.phase) :
    ∃ s', g'.session = some s' ∧ Sound first g'.phase s' ∧
      Fate s'.state (told ++ more) g'.phase := by
  cases h with
  | launched fresh => exact absurd fresh hphase
  | denied | refused | idle =>
    rw [List.append_nil]
    exact ⟨s, hsession, hsound, hfate⟩
  | shifted asks within allowed =>
    rw [List.append_nil]
    obtain ⟨hid, hconfig, hbounds, halive⟩ := hsound
    generalize g.phase = phase at allowed halive hfate
    rcases within with rfl | rfl
    all_goals
      cases allowed
      exact ⟨s, hsession, ⟨hid, hconfig, hbounds, fun _ => halive (by decide)⟩, hfate⟩
  | closed allowed =>
    obtain ⟨hid, hconfig, hbounds, halive⟩ := hsound
    have hplayed : g.phase = .running ∨ g.phase = .paused := by
      generalize g.phase = phase at allowed
      cases allowed with
      | finishRunning => exact .inl rfl
      | finishPaused => exact .inr rfl
    refine ⟨s, hsession, ⟨hid, hconfig, hbounds, nofun⟩, ?_⟩
    refine ⟨ended "ended" ((g.state?.map (·.score)).getD 0), ?_, ?_⟩
    · rw [endings_append, hfate.endings_eq_nil hplayed]
      rfl
    · refine iff_of_false ?_ ?_
      · have hleft := halive hplayed
        omega
      · intro hreason
        exact absurd (Json.string.inj (Option.some.inj hreason)) (by decide)
  | @played _ action now after asks running plays lasts =>
    subst running
    obtain rfl := Option.some.inj hsession
    obtain ⟨hid, hconfig, hbounds, halive⟩ := hsound
    rw [← hconfig] at hbounds
    obtain ⟨hkept, hname⟩ := action_withinBounds asks plays hbounds
    have hleft := action_alive asks plays lasts hbounds (halive (.inl rfl))
    refine ⟨⟨after, now.config⟩, rfl,
      ⟨hname.trans hid, hconfig, hconfig ▸ hkept, fun _ => hleft⟩, ?_⟩
    change endings ((told ++ _).map (·.2)) = []
    rw [endings_append, hfate.endings_eq_nil (.inl rfl), endings_play (play_events asks _ _)]
    rfl
  | @defeated amount now after running plays lost =>
    subst running
    obtain rfl := Option.some.inj hsession
    obtain ⟨hid, hconfig, hbounds, -⟩ := hsound
    have hasks : Order.action? m.now (.damage amount) = some (strike amount m.now) := rfl
    rw [← hconfig] at hbounds
    obtain ⟨hkept, hname⟩ := action_withinBounds hasks plays hbounds
    refine ⟨⟨after, now.config⟩, rfl, ⟨hname.trans hid, hconfig, hconfig ▸ hkept, nofun⟩, ?_⟩
    refine ⟨ended "defeated" after.score, ?_, iff_of_true ?_ rfl⟩
    · rw [endings_append, hfate.endings_eq_nil (.inl rfl), endings_append,
        endings_play (play_events hasks _ _)]
      rfl
    · have hnone : after.health.toInt ≤ 0 := by simpa [isDefeated, State.isAlive] using lost
      exact Int.le_antisymm hnone hkept.nonneg

end Effect

/-! ### Every run -/

/-- The session that the **first** order to start opens. -/
def opening? (orders : List (Order × Moment)) : Option Snapshot :=
  orders.findSome? fun order => order.1.config?.map (opened · order.2)

/-- The **first order** that opens a session is the one that did. -/
theorem opening?_concat (orders : List (Order × Moment)) (order : Order) (m : Moment) :
    opening? (orders ++ [(order, m)]) = (opening? orders).or (order.config?.map (opened · m)) := by
  rw [opening?, List.findSome?_append]
  simp [opening?]

/-- The **rule** over a run: before a start was ordered nothing happened, and a session that opened
with some health is sound from then on. -/
def Ruled (orders : List (Order × Moment)) (g : Engine) (told : List (Phase × Outline)) : Prop :=
  match opening? orders with
  | none => g = {} ∧ told = []
  | some first => 0 < first.config.initialHealth.toInt → g.phase ≠ .initialized ∧
      ∃ s, g.session = some s ∧ Sound first g.phase s ∧ Fate s.state told g.phase

/-- A session that opens with some health is **sound**. -/
theorem sound_opened {config : Config} (h : 0 < config.initialHealth.toInt) (m : Moment) :
    Sound (opened config m) .running (opened config m) where
  id := rfl
  config := rfl
  bounds := ⟨Int.le_of_lt h, Int.le_refl _, Nat.zero_le _⟩
  alive _ := h

/-- What an order does leaves the engine **ruled** by what it was told. -/
theorem Effect.ruled {g g' : Engine} {m : Moment} {order : Order} {reply : Reply}
    {orders : List (Order × Moment)} {told more : List (Phase × Outline)}
    (h : Effect g m order reply g' more) (hruled : Ruled orders g told) :
    Ruled (orders ++ [(order, m)]) g' (told ++ more) := by
  rw [Ruled, opening?_concat]
  rw [Ruled] at hruled
  cases hopening : opening? orders with
  | none =>
    rw [hopening] at hruled
    obtain ⟨rfl, rfl⟩ := hruled
    rcases h.first rfl with ⟨config, rfl, rfl, rfl⟩ | ⟨hnone, rfl, rfl⟩
    · exact fun halive => ⟨nofun, _, rfl, sound_opened halive m, rfl⟩
    · rw [hnone]
      exact ⟨rfl, rfl⟩
  | some first =>
    rw [hopening] at hruled
    intro halive
    obtain ⟨hphase, s, hsession, hsound, hfate⟩ := hruled halive
    obtain ⟨s', hsession', hsound', hfate'⟩ := h.sound hphase hsession hsound hfate
    have hstaged := h.staged (iff_of_true (by rw [hsession]; rfl) hphase)
    exact ⟨hstaged.1 (by rw [hsession']; rfl), s', hsession', hsound', hfate'⟩

/-- **A session keeps within its bounds.** After any orders, each at any moment, to a new engine,
the first of which to start opens a session with some health: that session is there, with the name
and under the configuration it opened with; its health is between zero and what it started with, and
not zero while the session is running or paused; it holds no more items than there are slots; and
once it has ended exactly one event told so, with defeat for its reason exactly if no health is
left. -/
theorem session_within_bounds (orders : List (Order × Moment)) (first : Snapshot)
    (hopening : opening? orders = some first) (halive : 0 < first.config.initialHealth.toInt) :
    let g := ({} : Engine).after orders
    ∃ s, g.session = some s ∧ s.state.id = first.state.id ∧ s.config = first.config ∧
      (0 ≤ s.state.health.toInt ∧ s.state.health.toInt ≤ first.config.initialHealth.toInt) ∧
      (g.phase = .running ∨ g.phase = .paused → 1 ≤ s.state.health.toInt) ∧
      (g.phase = .ended → ∃ e, endings (({} : Engine).events orders) = [e] ∧
        (s.state.health.toInt = 0 ↔ e.member? "reason" = some (.string "defeated"))) ∧
      s.state.inventory.length ≤ 20 := by
  intro g
  have hruled := run_invariant Ruled ⟨rfl, rfl⟩ (fun h heffect => heffect.ruled h) orders
  rw [Ruled, hopening] at hruled
  obtain ⟨-, s, hsession, hsound, hfate⟩ := hruled halive
  obtain ⟨hid, hconfig, ⟨hnonneg, hle, hslots⟩, hleft⟩ := hsound
  refine ⟨s, hsession, hid, hconfig, ⟨hnonneg, hle⟩, hleft, ?_, hslots⟩
  intro hended
  rw [hended, Fate, map_snd_told] at hfate
  exact hfate

/-- A session that opens with 3 points of health, is given a lamp and hit for 7 has ended in defeat;
neither a pause before its start nor healing after its end changes that. -/
theorem session_within_bounds_defeat :
    let m : Moment := ⟨⟨⟨2024, 2, 29, by decide⟩, 12, 30, 0, 0, by decide⟩, "5e55"⟩
    let config : Config := { initialHealth := 3 }
    let orders : List (Order × Moment) :=
      [(.pause, m), (.start config, m), (.pickUp "lamp", m), (.damage 7, m), (.heal 5, m)]
    opening? orders = some (opened config m) ∧ 0 < config.initialHealth.toInt ∧
      ∃ s e, (({} : Engine).after orders).session = some s ∧ s.state.id = "session-5e55" ∧
        s.state.health.toInt = 0 ∧ s.state.inventory.length ≤ 20 ∧
        endings (({} : Engine).events orders) = [e] ∧
        e.member? "reason" = some (.string "defeated") := by
  intro m config orders
  have halive : 0 < config.initialHealth.toInt := by decide
  obtain ⟨s, hsession, hid, -, -, -, hended, hslots⟩ :=
    session_within_bounds orders (opened config m) rfl halive
  have hphase : (({} : Engine).after orders).phase = .ended := by decide
  have hhealth : (({} : Engine).after orders).session.map (·.state.health.toInt) = some 0 := by
    decide
  rw [hsession] at hhealth
  obtain ⟨e, htold, hreason⟩ := hended hphase
  have hnone : s.state.health.toInt = 0 := Option.some.inj hhealth
  exact ⟨rfl, halive, s, e, hsession, hid, hnone, hslots, htold, hreason.1 hnone⟩

end Guildkeep.Engine
