import Guildkeep.Engine
import Mathlib.Data.List.Induction

/-!
# What an Order Comes To

One relation says all that an order can do to an engine: what is replied, what becomes of the
engine, and what is announced in which phase. Whatever the relation keeps is kept by the engine, and
by every run of it.

## Conventions

An order does what it does in stages, and the events of a stage are announced before the next one
begins. Only a hit that leaves no health has two of them: it is dealt, and then the session ends.

## Main results

* `Effect`: the **effects** of an order.
* `obey_effect`: every order has one of them.
* `after`, `told`: the engine after a **run** of orders, and what was announced in it.
* `run_invariant`: what every effect keeps, every run keeps.
-/

namespace Guildkeep.Engine

open Game

/-! ### Orders -/

/-- The change of phase that an order asks for; an action of play asks for none. -/
def Order.change? : Order → Option Phase.Change
  | .start _ => some .start
  | .pause => some .pause
  | .resume => some .resume
  | .finish => some .finish
  | _ => none

/-- An **action** of play: the rule that it plays by, and the events that tell of it. -/
structure Action where
  rule : State → Config → Except Refusal State
  events : State → State → List Outline

/-- A hit as an action: what is told of it does not depend on whether it was the last one. -/
def strike (amount : Int32) (now : Time.Instant) : Action where
  rule s c := applyDamage s amount c now
  events before after := damaged before after :: healthChanged before after

/-- The action that an order asks for; a change of phase asks for none. -/
def Order.action? (now : Time.Instant) : Order → Option Action
  | .move dx dy =>
    some ⟨fun s _ => .ok (s.withPosition (s.position.movedBy dx dy) now),
      fun _ after => [moved after]⟩
  | .damage amount => some (strike amount now)
  | .heal amount => some ⟨fun s c => Game.heal s amount c now, healthChanged⟩
  | .award points =>
    some ⟨fun s c => Game.award s points c now, fun before after => [scoreChanged before after]⟩
  | .pickUp item => some ⟨fun s _ => addItem s item now, fun _ _ => []⟩
  | .drop item => some ⟨fun s _ => removeItem s item now, fun _ _ => []⟩
  | _ => none

/-! ### Stages -/

/-- A hit is **dealt**, and ends the session if nobody outlives it. -/
theorem hit_eq (g : Engine) (amount : Int32) (now : Time.Instant) :
    g.hit amount now =
      let dealt := g.play (strike amount now).rule (strike amount now).events
      match dealt.reply with
      | .played (.ok after) =>
        if isDefeated after then
          let last := dealt.engine.close "defeated"
          ⟨dealt.reply, last.engine, dealt.events ++ last.events⟩
        else dealt
      | _ => dealt :=
  rfl

/-- The **stages** of an order, each with the events that are announced before the next. -/
def stages (g : Engine) (order : Order) (m : Moment) : List Outcome :=
  match order with
  | .damage amount =>
    let dealt := g.play (strike amount m.now).rule (strike amount m.now).events
    match dealt.reply with
    | .played (.ok after) =>
      if isDefeated after then [dealt, dealt.engine.close "defeated"] else [dealt]
    | _ => [dealt]
  | order => [g.obey order m]

/-- What an order **announces**, each event with the phase in which it is announced. -/
def announces (g : Engine) (order : Order) (m : Moment) : List (Phase × Outline) :=
  (g.stages order m).flatMap fun stage => stage.events.map (stage.engine.phase, ·)

/-- An order with one stage announces all in **the phase that it leads to**. -/
theorem announces_of_one {g : Engine} {order : Order} {m : Moment}
    (h : g.stages order m = [g.obey order m]) :
    g.announces order m = (g.obey order m).events.map ((g.obey order m).engine.phase, ·) := by
  rw [announces, h, List.flatMap_singleton]

/-- Together the stages announce **what the order announces**. -/
theorem map_snd_announces (g : Engine) (order : Order) (m : Moment) :
    (g.announces order m).map (·.2) = (g.obey order m).events := by
  have hevents : (g.announces order m).map (·.2) = (g.stages order m).flatMap (·.events) := by
    simp [announces, List.map_flatMap, Function.comp_def]
  rw [hevents]
  cases order with
  | damage amount =>
    rw [stages, obey, hit_eq]
    dsimp only
    split
    · split
      · simp
      · simp
    · simp
  | start | pause | resume | finish | move | heal | award | pickUp | drop =>
    exact List.append_nil _

/-! ### Effects -/

/-- The session that starts at a moment. -/
def opened (config : Config) (m : Moment) : Snapshot :=
  ⟨.opening (sessionId m) config.initialHealth m.now, config⟩

/-- All that an order can **come to**: the reply, the engine afterwards, and what is announced. -/
inductive Effect (g : Engine) (m : Moment) : Order → Reply → Engine → List (Phase × Outline) → Prop
  /-- A session starts. -/
  | launched {config : Config} (fresh : g.phase = .initialized) :
      Effect g m (.start config) (.changed true) ⟨.running, some (opened config m)⟩
        [(.running, started (opened config m))]
  /-- The session pauses or goes on. -/
  | shifted {order : Order} {c : Phase.Change} {phase : Phase} (asks : order.change? = some c)
      (within : c = .pause ∨ c = .resume) (allowed : Phase.Step g.phase c phase) :
      Effect g m order (.changed true) { g with phase } []
  /-- The session is ended. -/
  | closed (allowed : Phase.Step g.phase .finish .ended) :
      Effect g m .finish (.changed true) { g with phase := .ended }
        [(.ended, ended "ended" ((g.state?.map (·.score)).getD 0))]
  /-- The table does not allow the change. -/
  | denied {order : Order} {c : Phase.Change} (asks : order.change? = some c)
      (barred : ∀ phase, ¬ Phase.Step g.phase c phase) :
      Effect g m order (.changed false) g []
  /-- The action is played, and the session goes on. -/
  | played {order : Order} {action : Action} {s : Snapshot} {after : State}
      (asks : order.action? m.now = some action) (running : g = ⟨.running, some s⟩)
      (plays : action.rule s.state s.config = .ok after)
      (lasts : ∀ amount, order = .damage amount → isDefeated after = false) :
      Effect g m order (.played (.ok after)) ⟨.running, some ⟨after, s.config⟩⟩
        ((action.events s.state after).map (.running, ·))
  /-- A hit leaves no health, and the session ends over it. -/
  | defeated {amount : Int32} {s : Snapshot} {after : State} (running : g = ⟨.running, some s⟩)
      (plays : applyDamage s.state amount s.config m.now = .ok after)
      (lost : isDefeated after = true) :
      Effect g m (.damage amount) (.played (.ok after)) ⟨.ended, some ⟨after, s.config⟩⟩
        (((strike amount m.now).events s.state after).map (.running, ·) ++
          [(.ended, ended "defeated" after.score)])
  /-- The rules refuse the action. -/
  | refused {order : Order} {action : Action} {s : Snapshot} {why : Refusal}
      (asks : order.action? m.now = some action) (running : g = ⟨.running, some s⟩)
      (refuses : action.rule s.state s.config = .error why) :
      Effect g m order (.played (.error (.refused why))) g []
  /-- Nothing is played while no session is running. -/
  | idle {order : Order} {action : Action} (asks : order.action? m.now = some action)
      (still : ∀ s, g ≠ ⟨.running, some s⟩) :
      Effect g m order (.played (.error (.notRunning g.phase))) g []

/-- All that **playing** an action can come to. -/
theorem play_cases (g : Engine) (action : Action) :
    (∃ s after, g = ⟨.running, some s⟩ ∧ action.rule s.state s.config = .ok after ∧
      g.play action.rule action.events = ⟨.played (.ok after),
        ⟨.running, some ⟨after, s.config⟩⟩, action.events s.state after⟩) ∨
    (∃ s why, g = ⟨.running, some s⟩ ∧ action.rule s.state s.config = .error why ∧
      g.play action.rule action.events = ⟨.played (.error (.refused why)), g, []⟩) ∨
    ((∀ s, g ≠ ⟨.running, some s⟩) ∧
      g.play action.rule action.events = ⟨.played (.error (.notRunning g.phase)), g, []⟩) := by
  obtain ⟨phase, session⟩ := g
  cases phase with
  | running =>
    cases session with
    | none => exact .inr (.inr ⟨by simp, rfl⟩)
    | some s =>
      cases hrule : action.rule s.state s.config with
      | ok after => exact .inl ⟨s, after, rfl, hrule, by simp only [play, act, hrule]⟩
      | error why => exact .inr (.inl ⟨s, why, rfl, hrule, by simp only [play, act, hrule]⟩)
  | initialized | paused | ended => exact .inr (.inr ⟨by simp, rfl⟩)

/-- An action that does **no more** than its rule says. -/
theorem action_effect (g : Engine) (m : Moment) (order : Order) {action : Action}
    (hasks : order.action? m.now = some action) (hnot : ∀ amount, order ≠ .damage amount)
    (hone : g.stages order m = [g.obey order m])
    (hobey : g.obey order m = g.play action.rule action.events) :
    Effect g m order (g.obey order m).reply (g.obey order m).engine (g.announces order m) := by
  rw [announces_of_one hone, hobey]
  rcases g.play_cases action with ⟨s, after, hrunning, hrule, hplay⟩ |
    ⟨s, why, hrunning, hrule, hplay⟩ | ⟨hstill, hplay⟩
  · rw [hplay]
    exact .played hasks hrunning hrule fun amount h => absurd h (hnot amount)
  · rw [hplay]
    exact .refused hasks hrunning hrule
  · rw [hplay]
    exact .idle hasks hstill

/-- The **stages** of a hit: it is dealt, and ends the session if it leaves no health. -/
theorem hit_effect (g : Engine) (amount : Int32) (m : Moment) :
    Effect g m (.damage amount) (g.hit amount m.now).reply (g.hit amount m.now).engine
      (g.announces (.damage amount) m) := by
  have hasks : Order.action? m.now (.damage amount) = some (strike amount m.now) := rfl
  rw [announces, stages, hit_eq]
  rcases g.play_cases (strike amount m.now) with ⟨s, after, rfl, hrule, hplay⟩ |
    ⟨s, why, rfl, hrule, hplay⟩ | ⟨hstill, hplay⟩
  · cases hlost : isDefeated after with
    | true =>
      simp only [hplay, hlost, if_true]
      exact .defeated rfl hrule hlost
    | false =>
      simp only [hplay, hlost, Bool.false_eq_true, if_false, List.flatMap_singleton]
      exact .played hasks rfl hrule fun _ _ => hlost
  · simp only [hplay, List.flatMap_singleton]
    exact .refused hasks rfl hrule
  · simp only [hplay, List.flatMap_singleton]
    exact .idle hasks hstill

/-- **Every order** has one of the effects. -/
theorem obey_effect (g : Engine) (order : Order) (m : Moment) :
    Effect g m order (g.obey order m).reply (g.obey order m).engine (g.announces order m) := by
  -- Outside the table of phases no change of phase can be had.
  cases order with
  | start config =>
    obtain ⟨phase, session⟩ := g
    cases phase with
    | initialized => exact .launched rfl
    | running | paused | ended => exact .denied rfl nofun
  | pause =>
    obtain ⟨phase, session⟩ := g
    cases phase with
    | running => exact .shifted rfl (.inl rfl) .pause
    | initialized | paused | ended => exact .denied rfl nofun
  | resume =>
    obtain ⟨phase, session⟩ := g
    cases phase with
    | paused => exact .shifted rfl (.inr rfl) .resume
    | initialized | running | ended => exact .denied rfl nofun
  | finish =>
    obtain ⟨phase, session⟩ := g
    cases phase with
    | running => exact .closed .finishRunning
    | paused => exact .closed .finishPaused
    | initialized | ended => exact .denied rfl nofun
  | damage amount => exact g.hit_effect amount m
  | move dx dy => exact g.action_effect m (.move dx dy) rfl nofun rfl rfl
  | heal amount => exact g.action_effect m (.heal amount) rfl nofun rfl rfl
  | award points => exact g.action_effect m (.award points) rfl nofun rfl rfl
  | pickUp item => exact g.action_effect m (.pickUp item) rfl nofun rfl rfl
  | drop item => exact g.action_effect m (.drop item) rfl nofun rfl rfl

/-! ### Runs -/

/-- The engine **after** orders, each given at its moment. -/
def after (g : Engine) (orders : List (Order × Moment)) : Engine :=
  orders.foldl (fun g order => (g.obey order.1 order.2).engine) g

/-- What was **told** in a run of orders, each event with the phase in which it was announced. -/
def told (g : Engine) : List (Order × Moment) → List (Phase × Outline)
  | [] => []
  | (order, m) :: orders => g.announces order m ++ told (g.obey order m).engine orders

/-- The events of a run of orders. -/
def events (g : Engine) : List (Order × Moment) → List Outline
  | [] => []
  | (order, m) :: orders => (g.obey order m).events ++ events (g.obey order m).engine orders

/-- What is told in a run are **its events**. -/
theorem map_snd_told (g : Engine) (orders : List (Order × Moment)) :
    (g.told orders).map (·.2) = g.events orders := by
  induction orders generalizing g with
  | nil => rfl
  | cons first orders ih => rw [told, List.map_append, map_snd_announces, ih, events]

/-- The last order is given to the engine that the others **left**. -/
theorem after_concat (g : Engine) (orders : List (Order × Moment)) (order : Order) (m : Moment) :
    g.after (orders ++ [(order, m)]) = ((g.after orders).obey order m).engine := by
  rw [after, List.foldl_append]
  rfl

/-- The last order is announced **after** the others. -/
theorem told_concat (g : Engine) (orders : List (Order × Moment)) (order : Order) (m : Moment) :
    g.told (orders ++ [(order, m)]) = g.told orders ++ (g.after orders).announces order m := by
  induction orders generalizing g with
  | nil => exact List.append_nil _
  | cons first orders ih =>
    rw [List.cons_append, told, ih, told, List.append_assoc]
    rfl

/-- What holds at the start and is kept by **every effect** holds after every run. -/
theorem run_invariant (inv : List (Order × Moment) → Engine → List (Phase × Outline) → Prop)
    (hstart : inv [] {} [])
    (hkept : ∀ {orders g told order m reply g' more}, inv orders g told →
      Effect g m order reply g' more → inv (orders ++ [(order, m)]) g' (told ++ more))
    (orders : List (Order × Moment)) :
    inv orders (({} : Engine).after orders) (({} : Engine).told orders) := by
  induction orders using List.reverseRecOn with
  | nil => exact hstart
  | append_singleton orders last ih =>
    obtain ⟨order, m⟩ := last
    rw [after_concat, told_concat]
    exact hkept ih (obey_effect _ order m)

end Guildkeep.Engine
