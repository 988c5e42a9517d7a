import Guildkeep.Proofs.Engine.Bounds
import Guildkeep.Proofs.Number.Rounding

/-!
# Where a Session Has Been Moved

The engine takes every move while it is running, whatever the offset, and adds the offset to the
place of the session. Every other order leaves the place alone, and none touches the configuration.
So the place of a session is the sum of the offsets that were played.

## Conventions

Offsets are added one after another, and each sum is rounded at once. Sums may leave the finite
numbers.

## Main results

* `travelled`, `place`: the **offsets** that were played in a run, and where they lead.
* `session_at_place`: a session is **where it was moved**, under the configuration it opened with.
* `finite_of_movedAlong`: whoever has left the finite numbers never comes back.
-/

namespace Guildkeep.Engine

open Game

/-! ### Moves -/

/-- The **offset** of a move that was played. -/
def Order.offset? (order : Order) : Reply → Option (Binary64 × Binary64)
  | .played (.ok _) =>
    match order with
    | .move dx dy => some (dx, dy)
    | _ => none
  | _ => none

/-- The offsets that were **played** in a run of orders. -/
def travelled (g : Engine) : List (Order × Moment) → List (Binary64 × Binary64)
  | [] => []
  | (order, m) :: orders =>
    (order.offset? (g.obey order m).reply).toList ++ travelled (g.obey order m).engine orders

/-- A way is travelled **piece by piece**. -/
theorem travelled_append (g : Engine) (orders later : List (Order × Moment)) :
    g.travelled (orders ++ later) = g.travelled orders ++ (g.after orders).travelled later := by
  induction orders generalizing g with
  | nil => rfl
  | cons first orders ih =>
    rw [List.cons_append, travelled, travelled, ih, List.append_assoc]
    rfl

/-- Where offsets **lead** from a position. -/
def movedAlong (start : Position) (offsets : List (Binary64 × Binary64)) : Position :=
  offsets.foldl (fun p offset => p.movedBy offset.1 offset.2) start

/-- The place to which offsets lead from the **origin**. -/
def place (offsets : List (Binary64 × Binary64)) : Position :=
  movedAlong {} offsets

/-- A position is **finite**. -/
def FinitePosition (p : Position) : Prop :=
  p.x.isFinite = true ∧ p.y.isFinite = true

/-- Whoever has left the finite numbers **never comes back**. -/
theorem finite_of_movedAlong {start : Position} {offsets : List (Binary64 × Binary64)}
    (h : FinitePosition (movedAlong start offsets)) : FinitePosition start := by
  induction offsets generalizing start with
  | nil => exact h
  | cons offset offsets ih =>
    obtain ⟨hx, hy⟩ := ih h
    exact ⟨(Binary64.isFinite_of_add hx).1, (Binary64.isFinite_of_add hy).1⟩

/-- An action that is **played** moves the session by its offset, if it has one. -/
theorem action_position {order : Order} {now : Time.Instant} {action : Action}
    {before after : State} {config : Config} (hasks : order.action? now = some action)
    (hplays : action.rule before config = .ok after) :
    after.position = movedAlong before.position (order.offset? (.played (.ok after))).toList := by
  cases order with
  | start | pause | resume | finish => cases hasks
  | move dx dy =>
    cases hasks
    cases hplays
    rfl
  | damage amount =>
    cases hasks
    obtain ⟨taken, health, -, -, rfl, -⟩ := applyDamage_ok hplays
    rfl
  | heal amount =>
    cases hasks
    obtain ⟨health, rfl⟩ := heal_ok hplays
    rfl
  | award points =>
    cases hasks
    obtain ⟨score, level, rfl⟩ := award_ok hplays
    rfl
  | pickUp item =>
    cases hasks
    obtain ⟨inventory, rfl⟩ := addItem_ok hplays
    rfl
  | drop item =>
    cases hasks
    obtain ⟨inventory, rfl⟩ := removeItem_ok hplays
    rfl

namespace Effect

variable {g g' : Engine} {m : Moment} {order : Order} {reply : Reply} {s : Snapshot}
  {more : List (Phase × Outline)}

/-- Every effect moves the session by the offset that was played, and leaves its **configuration**
alone. -/
theorem moves (h : Effect g m order reply g' more) (hphase : g.phase ≠ .initialized)
    (hsession : g.session = some s) :
    ∃ s', g'.session = some s' ∧ s'.config = s.config ∧
      s'.state.position = movedAlong s.state.position (order.offset? reply).toList := by
  cases h with
  | launched fresh => exact absurd fresh hphase
  | shifted | closed | denied | refused | idle => exact ⟨s, hsession, rfl, rfl⟩
  | @played _ action now after asks running plays lasts =>
    subst running
    obtain rfl := Option.some.inj hsession
    exact ⟨_, rfl, rfl, action_position asks plays⟩
  | @defeated amount now after running plays lost =>
    subst running
    obtain rfl := Option.some.inj hsession
    have hasks : Order.action? m.now (.damage amount) = some (strike amount m.now) := rfl
    exact ⟨_, rfl, rfl, action_position hasks plays⟩

/-- Before the start **no move** is played. -/
theorem unmoved (h : Effect g m order reply g' more) (hphase : g.phase = .initialized) :
    order.offset? reply = none := by
  cases h with
  | launched | shifted | closed | denied | refused | idle => rfl
  | played asks running | defeated running =>
    subst running
    cases hphase

end Effect

/-- What a run of orders makes of the **session**: before a start was ordered nothing happened, and
then the session is where it was moved, under the configuration it opened with. -/
def Moved (orders : List (Order × Moment)) (g : Engine)
    (offsets : List (Binary64 × Binary64)) : Prop :=
  match opening? orders with
  | none => g = {} ∧ offsets = []
  | some first => g.phase ≠ .initialized ∧
      ∃ s, g.session = some s ∧ s.config = first.config ∧ s.state.position = place offsets

/-- **A session is where it was moved.** What every effect keeps of it, every run keeps. -/
theorem session_at_place (orders : List (Order × Moment)) :
    Moved orders (({} : Engine).after orders) (({} : Engine).travelled orders) := by
  induction orders using List.reverseRecOn with
  | nil => exact ⟨rfl, rfl⟩
  | append_singleton orders last ih =>
    obtain ⟨order, m⟩ := last
    have heffect := obey_effect (({} : Engine).after orders) order m
    rw [after_concat, travelled_append, travelled, travelled, List.append_nil]
    rw [Moved, opening?_concat]
    rw [Moved] at ih
    generalize ({} : Engine).after orders = g at ih heffect ⊢
    cases hopening : opening? orders with
    | none =>
      rw [hopening] at ih
      obtain ⟨rfl, hnone⟩ := ih
      rw [hnone, heffect.unmoved rfl]
      rcases heffect.first rfl with ⟨config, rfl, hlaunched, -⟩ | ⟨hconfig, hsame, -⟩
      · rw [hlaunched]
        exact ⟨nofun, opened config m, rfl, rfl, rfl⟩
      · rw [hconfig, hsame]
        exact ⟨rfl, rfl⟩
    | some first =>
      rw [hopening] at ih
      obtain ⟨hphase, s, hsession, hconfig, hplace⟩ := ih
      obtain ⟨s', hsession', hconfig', hplace'⟩ := heffect.moves hphase hsession
      have hstaged := heffect.staged (iff_of_true (by rw [hsession]; rfl) hphase)
      refine ⟨hstaged.1 (by rw [hsession']; rfl), s', hsession', hconfig'.trans hconfig, ?_⟩
      rw [hplace', hplace, place, place, movedAlong, movedAlong, movedAlong, List.foldl_append]

end Guildkeep.Engine
