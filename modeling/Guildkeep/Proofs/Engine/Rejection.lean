import Guildkeep.Proofs.Engine.Lifecycle
import Guildkeep.Proofs.Game.Rules

/-!
# When an Order Is Rejected

An order is rejected by the phase first and by the rules of play then, and a rejected order leaves
no trace. So whoever is told why an order was rejected knows the phase, and whoever is told of a
refusal knows what was wrong with the order.

## Conventions

Whoever hears of a hit may give orders in turn, and the hit has not ended the session by then. Such
an engine is reached as well, though no run of orders that wait for each other comes to it.

## Main results

* `Reachable`: the engines that are **reached**, amid the announcements of a hit included.
* `Order.refusal?`: why the rules refuse an order, **in terms of the session** alone.
* `rule_eq_error_iff`: the rules refuse for that reason and no other.
* `Effect.rejected`: a rejected order **leaves no trace**.
* `rejected_by_phase_then_rules`: when an order is rejected, why, and what becomes of it.
-/

namespace Guildkeep.Engine

open Game

/-! ### Engines that are reached -/

/-- The engines that are **reached** from a new one: after each order, and amid a hit, when it is
dealt and the session has not ended over it yet. -/
inductive Reachable : Engine → Prop where
  | new : Reachable {}
  | obeyed {g : Engine} (h : Reachable g) (order : Order) (m : Moment) :
      Reachable (g.obey order m).engine
  | dealt {g : Engine} (h : Reachable g) (amount : Int32) (now : Time.Instant) :
      Reachable (g.play (strike amount now).rule (strike amount now).events).engine

/-- Wherever an engine is reached there is a session exactly **from its start on**. -/
theorem Reachable.staged {g : Engine} (h : Reachable g) :
    g.session.isSome = true ↔ g.phase ≠ .initialized := by
  induction h with
  | new => decide
  | @obeyed g _ order m ih => exact (g.obey_effect order m).staged ih
  | @dealt g _ amount now ih =>
    rcases g.play_cases (strike amount now) with ⟨s, after, -, -, hplay⟩ | ⟨s, why, -, -, hplay⟩ |
      ⟨-, hplay⟩
    · rw [hplay]
      exact ⟨fun _ => nofun, fun _ => rfl⟩
    · rw [hplay]
      exact ih
    · rw [hplay]
      exact ih

/-- An engine that runs has **a session**. -/
theorem Reachable.exists_session {g : Engine} (h : Reachable g) (hrunning : g.phase = .running) :
    ∃ s, g = ⟨.running, some s⟩ := by
  obtain ⟨phase, session⟩ := g
  obtain rfl : phase = .running := hrunning
  obtain ⟨s, rfl⟩ := Option.isSome_iff_exists.1 (h.staged.2 nofun)
  exact ⟨s, rfl⟩

/-! ### Refusals -/

/-- Why the rules **refuse** an order in a state, if they do: an amount is negative, no slot of the
twenty is left, or the item is not held. -/
def Order.refusal? (s : State) : Order → Option Refusal
  | .damage amount | .heal amount =>
    if amount.toInt < 0 then some (.negativeAmount amount.toInt) else none
  | .award points => if points.toInt < 0 then some (.negativeAmount points.toInt) else none
  | .pickUp _ => if 20 ≤ s.inventory.length then some (.inventoryFull 20) else none
  | .drop item => if item ∈ s.inventory then none else some (.itemNotFound item)
  | _ => none

/-- The rule of an action refuses **for that reason** and for no other. -/
theorem rule_eq_error_iff {order : Order} {now : Time.Instant} {action : Action}
    (h : order.action? now = some action) (s : State) (config : Config) (why : Refusal) :
    action.rule s config = .error why ↔ order.refusal? s = some why := by
  cases order with
  | start | pause | resume | finish => cases h
  | move dx dy =>
    cases h
    exact iff_of_false nofun nofun
  | damage amount =>
    cases h
    rw [strike, applyDamage_eq_error_iff, Order.refusal?, Option.ite_none_right_eq_some,
      Option.some.injEq]
  | heal amount =>
    cases h
    rw [heal_eq_error_iff, Order.refusal?, Option.ite_none_right_eq_some, Option.some.injEq]
  | award points =>
    cases h
    rw [award_eq_error_iff, Order.refusal?, Option.ite_none_right_eq_some, Option.some.injEq]
  | pickUp item =>
    cases h
    rw [addItem_eq_error_iff, Order.refusal?, Option.ite_none_right_eq_some, Option.some.injEq]
    rfl
  | drop item =>
    cases h
    rw [removeItem_eq_error_iff, Order.refusal?, Option.ite_none_left_eq_some, Option.some.injEq]

/-! ### Replies -/

/-- An action is replied to as soon as it has been **played**; that a hit may end the session
changes nothing about the reply. -/
theorem reply_of_action {order : Order} {m : Moment} {action : Action}
    (h : order.action? m.now = some action) (g : Engine) :
    (g.obey order m).reply = (g.play action.rule action.events).reply := by
  cases order with
  | start | pause | resume | finish => cases h
  | move | heal | award | pickUp | drop =>
    cases h
    rfl
  | damage amount =>
    cases h
    rw [obey, hit_eq]
    dsimp only
    split
    · split
      · rfl
      · rfl
    · rfl

/-- While a session is running, an action is replied to with what its **rule** says. -/
theorem reply_of_running {order : Order} {m : Moment} {action : Action}
    (h : order.action? m.now = some action) (s : Snapshot) :
    (obey ⟨.running, some s⟩ order m).reply =
      .played ((action.rule s.state s.config).mapError .refused) := by
  rw [reply_of_action h]
  cases hrule : action.rule s.state s.config with
  | ok after => simp only [play, act, hrule, Except.mapError]
  | error why => simp only [play, act, hrule, Except.mapError]

/-- While none is running, an action is replied to with the **phase**, whatever it asks. -/
theorem reply_of_still {order : Order} {m : Moment} {action : Action}
    (h : order.action? m.now = some action) {g : Engine} (hstill : g.phase ≠ .running) :
    (g.obey order m).reply = .played (.error (.notRunning g.phase)) := by
  rw [reply_of_action h]
  rcases g.play_cases action with ⟨s, after, rfl, -⟩ | ⟨s, why, rfl, -⟩ | ⟨-, hplay⟩
  · exact absurd rfl hstill
  · exact absurd rfl hstill
  · rw [hplay]

/-- A reply that says **no**. -/
def Reply.IsRejection (reply : Reply) : Prop :=
  reply = .changed false ∨ ∃ why, reply = .played (.error why)

/-- A rejected order **leaves no trace**. -/
theorem Effect.rejected {g g' : Engine} {m : Moment} {order : Order} {reply : Reply}
    {more : List (Phase × Outline)} (h : Effect g m order reply g' more) (hno : reply.IsRejection) :
    g' = g ∧ more = [] := by
  cases h with
  | launched | shifted | closed | played | defeated =>
    rcases hno with hno | ⟨why, hno⟩ <;> cases hno
  | denied | refused | idle => exact ⟨rfl, rfl⟩

/-! ### Rejections -/

/-- **Rejected by the phase, then by the rules.** Wherever an engine is reached: an action is
rejected for the phase, the current one, exactly if that is not running, whatever the action asks.
While the session is running the reply is what the rule of the action says, and the rule refuses
exactly for a negative amount, for want of a slot or of the item. And an order that is rejected, be
it an action or a change of phase, leaves phase and session as they were and announces nothing. -/
theorem rejected_by_phase_then_rules {g : Engine} (h : Reachable g) (order : Order) (m : Moment) :
    let outcome := g.obey order m
    (∀ action, order.action? m.now = some action →
      (∀ phase, outcome.reply = .played (.error (.notRunning phase)) ↔
        g.phase ≠ .running ∧ phase = g.phase) ∧
      (g.phase = .running → ∃ s, g.session = some s ∧
        outcome.reply = .played ((action.rule s.state s.config).mapError .refused) ∧
        ∀ why, outcome.reply = .played (.error (.refused why)) ↔
          order.refusal? s.state = some why)) ∧
    (outcome.reply.IsRejection → outcome.engine = g ∧ outcome.events = []) := by
  intro outcome
  refine ⟨fun action hasks => ?_, fun hno => ?_⟩
  · by_cases hrunning : g.phase = .running
    · obtain ⟨s, rfl⟩ := h.exists_session hrunning
      have hreply : outcome.reply = .played ((action.rule s.state s.config).mapError .refused) :=
        reply_of_running hasks s
      refine ⟨fun phase => ?_, fun _ => ⟨s, rfl, hreply, fun why => ?_⟩⟩
      · refine iff_of_false (fun hno => ?_) (fun hno => hno.1 rfl)
        rw [hreply] at hno
        cases hrule : action.rule s.state s.config with
        | ok after => simp [hrule, Except.mapError] at hno
        | error why => simp [hrule, Except.mapError] at hno
      · rw [← rule_eq_error_iff hasks s.state s.config, hreply]
        cases hrule : action.rule s.state s.config with
        | ok after => simp [Except.mapError]
        | error why' => simp [Except.mapError]
    · have hreply : outcome.reply = .played (.error (.notRunning g.phase)) :=
        reply_of_still hasks hrunning
      refine ⟨fun phase => ?_, fun hphase => absurd hphase hrunning⟩
      rw [hreply]
      simp [hrunning, eq_comm]
  · obtain ⟨hengine, hmore⟩ := (g.obey_effect order m).rejected hno
    refine ⟨hengine, ?_⟩
    rw [← map_snd_announces, hmore]
    rfl

/-- Amid a deadly hit the session still runs, without any health, and healing by a negative amount
is refused for the amount. -/
theorem rejected_by_phase_then_rules_amid_hit :
    let m : Moment := ⟨.epoch, "5e55"⟩
    let deadly := strike 10 m.now
    let g := ((({} : Engine).obey (.start { initialHealth := 5 }) m).engine.play
      deadly.rule deadly.events).engine
    Reachable g ∧ g.state?.map (·.health) = some 0 ∧
      (g.obey (.heal (-1)) m).reply = .played (.error (.refused (.negativeAmount (-1)))) ∧
      (g.obey (.heal (-1)) m).engine = g ∧ (g.obey (.heal (-1)) m).events = [] := by
  intro m deadly g
  have hreached : Reachable g :=
    (Reachable.new.obeyed (.start { initialHealth := 5 }) m).dealt 10 m.now
  obtain ⟨hactions, htrace⟩ := rejected_by_phase_then_rules hreached (.heal (-1)) m
  obtain ⟨-, hrunning⟩ := hactions _ rfl
  obtain ⟨s, -, -, hwhy⟩ := hrunning (by decide)
  have hreply := (hwhy (.negativeAmount (-1))).2 rfl
  obtain ⟨hengine, hevents⟩ := htrace (.inr ⟨_, hreply⟩)
  exact ⟨hreached, by decide, hreply, hengine, hevents⟩

end Guildkeep.Engine
