import Guildkeep.Proofs.Engine.Lifecycle
import Guildkeep.Proofs.Game.Rules

/-!
# The Events Show the Session

Whoever sees the events of an engine, and knows under which configuration the session started, knows
its health, its score, its level and its place at any time: each of them is what the last event of
its kind shows. Nothing that changes them goes untold, and no event tells of a change that was not
made.

## Conventions

A coordinate that is not finite is shown as null, so of such a place the events show only that.

## Main results

* `View`: what can be seen of a session; `Shown`: what **events show** of it.
* `Effect.shown`, `Effect.truthful`: the events of one order show, and truthfully tell, **what it
  did**.
* `events_show_session`: the events of **every run** show the session.
-/

namespace Guildkeep

open Game

/-! ### Reading events -/

/-- The integer that a value shows. -/
def Json.int? : Json → Option Int
  | .number (.unsigned n) => some n.toNat
  | .number (.negative i _) => some i.toInt
  | _ => none

/-- An integer of at most 64 bits is **shown** as it is. -/
theorem Json.int?_ofInt {i : Int} (hlow : minInt64 ≤ i) (hhigh : i ≤ maxInt64) :
    (Json.ofInt i).int? = some i := by
  have hmin : minInt64 = -9223372036854775808 := rfl
  have hmax : maxInt64 = 9223372036854775807 := rfl
  have hword : (Int64.ofInt i).toInt = i := Int64.toInt_ofInt_of_le (by omega) (by omega)
  rw [ofInt]
  split
  · exact congrArg some hword
  case isFalse hnonneg =>
    rw [hword] at hnonneg
    have hnat : (UInt64.ofNat i.toNat).toNat = i.toNat :=
      UInt64.toNat_ofNat_of_lt' (show i.toNat < 18446744073709551616 by omega)
    rw [int?, hnat, Int.toNat_of_nonneg (by omega)]

/-- A signed word of 32 bits is **shown** as the integer that it is. -/
theorem Json.int?_ofInt32 (i : Int32) : (Json.ofInt i.toInt).int? = some i.toInt := by
  have hlow := i.le_toInt
  have hhigh := i.toInt_lt
  refine int?_ofInt ?_ ?_
  · rw [minInt64]
    omega
  · rw [maxInt64]
    omega

/-- A signed word of 64 bits is **shown** as the integer that it is. -/
theorem Json.int?_ofInt64 (i : Int64) : (Json.ofInt i.toInt).int? = some i.toInt := by
  have hlow := i.le_toInt
  have hhigh := i.toInt_lt
  refine int?_ofInt ?_ ?_
  · rw [minInt64]
    omega
  · rw [maxInt64]
    omega

/-- A word of 32 bits without sign is **shown** as the integer that it is. -/
theorem Json.int?_ofUInt32 (n : UInt32) : (Json.ofNat n.toNat).int? = some (n.toNat : Int) := by
  have hlt := n.toNat_lt
  have hnat : (UInt64.ofNat n.toNat).toNat = n.toNat :=
    UInt64.toNat_ofNat_of_lt' (show n.toNat < 18446744073709551616 by omega)
  rw [ofNat, int?, hnat]

namespace Outline

/-- A member of the payload. -/
def member? (o : Outline) (key : String) : Option Json :=
  o.data.bind (Json.get? key)

/-- An integer in the payload. -/
def int? (o : Outline) (key : String) : Option Int :=
  (o.member? key).bind Json.int?

end Outline

namespace Engine

/-- The **last** event of a kind. -/
def lastOf (kind : Event.Kind) (events : List Outline) : Option Outline :=
  (events.filter (·.type == kind.type)).getLast?

/-- What the last event of a kind **shows**; where there is none, what was known before. -/
def lastShown {α : Type} (kind : Event.Kind) (show? : Outline → Option α) (known : α)
    (events : List Outline) : Option α :=
  match lastOf kind events with
  | none => some known
  | some e => show? e

/-- What is shown by later events counts, and where there are none what was shown before. -/
theorem lastShown_append {α : Type} {kind : Event.Kind} {show? : Outline → Option α}
    {known shown : α} {events : List Outline}
    (h : lastShown kind show? known events = some shown) (more : List Outline) :
    lastShown kind show? known (events ++ more) = lastShown kind show? shown more := by
  have hlast : lastOf kind (events ++ more) = (lastOf kind more).or (lastOf kind events) := by
    rw [lastOf, List.filter_append, List.getLast?_append]
    rfl
  rw [lastShown] at h ⊢
  rw [hlast, lastShown]
  cases lastOf kind more with
  | none => exact h
  | some e => rfl

/-- An event shows something of **its own kind** only. -/
theorem lastShown_one {α : Type} (kind kind' : Event.Kind) (show? : Outline → Option α) (known : α)
    (members : List (String × Json)) :
    lastShown kind show? known [outline kind' members] =
      if kind' = kind then show? (outline kind' members) else some known := by
  have htype : ((outline kind' members).type == kind.type) = decide (kind' = kind) := by
    rw [Bool.eq_iff_iff, beq_iff_eq, decide_eq_true_iff]
    exact ⟨Event.Kind.type_injective, congrArg Event.Kind.type⟩
  rw [lastShown, lastOf, List.filter_cons, htype]
  by_cases hkind : kind' = kind
  · simp [hkind]
  · simp [hkind]

/-! ### Views -/

/-- What can be **seen** of a session. -/
structure View where
  health : Int
  score : Int
  level : Int
  x : Json
  y : Json

/-- The view of a state. -/
def viewOf (s : State) : View where
  health := s.health.toInt
  score := s.score.toInt
  level := s.level.toNat
  x := .ofFloat s.position.x
  y := .ofFloat s.position.y

/-- The view of a session that has just started: full health, no points, level 1, the origin. -/
def openingView (config : Config) : View where
  health := config.initialHealth.toInt
  score := 0
  level := 1
  x := .ofFloat .zero
  y := .ofFloat .zero

/-- The view `v` is what **events show** to whoever knew the view before them. -/
structure Shown (known : View) (events : List Outline) (v : View) : Prop where
  health : lastShown .playerHealthChanged (·.int? "current") known.health events = some v.health
  score : lastShown .scoreChanged (·.int? "current") known.score events = some v.score
  level : lastShown .scoreChanged (·.int? "level") known.level events = some v.level
  x : lastShown .playerMoved (·.member? "x") known.x events = some v.x
  y : lastShown .playerMoved (·.member? "y") known.y events = some v.y

/-- No events show **no change**. -/
theorem Shown.nil (v : View) : Shown v [] v :=
  ⟨rfl, rfl, rfl, rfl, rfl⟩

/-- Events show changes **one after another**. -/
theorem Shown.append {u v w : View} {events more : List Outline} (h : Shown u events v)
    (hmore : Shown v more w) : Shown u (events ++ more) w where
  health := (lastShown_append h.health more).trans hmore.health
  score := (lastShown_append h.score more).trans hmore.score
  level := (lastShown_append h.level more).trans hmore.level
  x := (lastShown_append h.x more).trans hmore.x
  y := (lastShown_append h.y more).trans hmore.y

/-- An event of another kind shows **nothing** new. -/
theorem Shown.of_other {kind : Event.Kind} (v : View) (members : List (String × Json))
    (hhealth : kind ≠ .playerHealthChanged) (hscore : kind ≠ .scoreChanged)
    (hmoved : kind ≠ .playerMoved) : Shown v [outline kind members] v where
  health := by rw [lastShown_one, if_neg hhealth]
  score := by rw [lastShown_one, if_neg hscore]
  level := by rw [lastShown_one, if_neg hscore]
  x := by rw [lastShown_one, if_neg hmoved]
  y := by rw [lastShown_one, if_neg hmoved]

section Events

variable (before after : State)

/-- The event of a changed health **shows it**. -/
theorem shown_healthChanged :
    Shown (viewOf before) (healthChanged before after)
      { viewOf before with health := after.health.toInt } := by
  rw [healthChanged]
  split
  case isTrue hsame =>
    rw [← hsame]
    exact .nil _
  case isFalse =>
    refine ⟨?_, ?_, ?_, ?_, ?_⟩
    · rw [lastShown_one, if_pos rfl]
      exact Json.int?_ofInt32 after.health
    all_goals
      rw [lastShown_one, if_neg (by decide)]

/-- The event of a changed score **shows it**. -/
theorem shown_scoreChanged :
    Shown (viewOf before) [scoreChanged before after]
      { viewOf before with score := after.score.toInt, level := after.level.toNat } := by
  rw [scoreChanged]
  refine ⟨?_, ?_, ?_, ?_, ?_⟩
  · rw [lastShown_one, if_neg (by decide)]
  · rw [lastShown_one, if_pos rfl]
    exact Json.int?_ofInt64 after.score
  · rw [lastShown_one, if_pos rfl]
    exact Json.int?_ofUInt32 after.level
  all_goals
    rw [lastShown_one, if_neg (by decide)]

/-- The event of a move **shows the place**. -/
theorem shown_moved :
    Shown (viewOf before) [moved after]
      { viewOf before with x := .ofFloat after.position.x, y := .ofFloat after.position.y } := by
  rw [moved]
  refine ⟨?_, ?_, ?_, ?_, ?_⟩
  iterate 3
    rw [lastShown_one, if_neg (by decide)]
  all_goals
    rw [lastShown_one, if_pos rfl]
    rfl

end Events

/-! ### Actions -/

/-- What an event of a kind has to say about what an order did to a session: the value before is the
value before, the damage is the health that was lost, which a word of 32 bits can hold, and the
score at the end is the score. -/
def Truth (before after : State) (e : Outline) : Event.Kind → Prop
  | .playerHealthChanged => e.int? "previous" = some before.health.toInt
  | .scoreChanged => e.int? "previous" = some before.score.toInt
  | .playerDamaged =>
    e.int? "amount" = some (before.health.toInt - after.health.toInt) ∧
      minInt32 ≤ before.health.toInt - after.health.toInt ∧
      before.health.toInt - after.health.toInt ≤ maxInt32
  | .gameEnded => e.int? "score" = some after.score.toInt
  | _ => True

/-- An event **tells the truth** about what an order did to a session. -/
def Truthful (before after : State) (e : Outline) : Prop :=
  ∀ kind : Event.Kind, e.type = kind.type → Truth before after e kind

section Actions

variable {before after : State} {config : Config}

/-- Of an event only what its **own kind** tells has to be true. -/
theorem truthful_outline {kind : Event.Kind} {members : List (String × Json)}
    (h : Truth before after (outline kind members) kind) :
    Truthful before after (outline kind members) := by
  intro kind' htype
  obtain rfl := Event.Kind.type_injective htype
  exact h

/-- The event of a changed health says **what it was and what it is**. -/
theorem truthful_healthChanged {e : Outline} (he : e ∈ healthChanged before after) :
    Truthful before after e := by
  rw [healthChanged] at he
  split at he
  · cases he
  · rw [List.mem_singleton.1 he]
    exact truthful_outline (Json.int?_ofInt32 before.health)

/-- A hit is told of **as it was dealt**. -/
theorem truthful_damaged {amount : Int32} {now : Time.Instant}
    (h : applyDamage before amount config now = .ok after) :
    Truthful before after (damaged before after) := by
  have hfits := health_change_fits h
  have hshown : (Json.ofInt (before.health.toInt - after.health.toInt)).int? =
      some (before.health.toInt - after.health.toInt) := by
    rw [minInt32, maxInt32] at hfits
    refine Json.int?_ofInt ?_ ?_
    · rw [minInt64]
      omega
    · rw [maxInt64]
      omega
  exact truthful_outline ⟨hshown, hfits⟩

/-- The events of an action **show** the state after it to whoever knew the state before. -/
theorem action_shown {order : Order} {now : Time.Instant} {action : Action}
    (hasks : order.action? now = some action) (hplays : action.rule before config = .ok after) :
    Shown (viewOf before) (action.events before after) (viewOf after) := by
  cases order with
  | start | pause | resume | finish => cases hasks
  | move dx dy =>
    cases hasks
    cases hplays
    exact shown_moved before _
  | damage amount =>
    cases hasks
    have hdamaged : Shown (viewOf before) [damaged before after] (viewOf before) :=
      .of_other _ _ (by decide) (by decide) (by decide)
    have hhealth := shown_healthChanged before after
    obtain ⟨taken, health, -, -, rfl, -⟩ := applyDamage_ok hplays
    exact hdamaged.append hhealth
  | heal amount =>
    cases hasks
    have hhealth := shown_healthChanged before after
    obtain ⟨health, rfl⟩ := heal_ok hplays
    exact hhealth
  | award points =>
    cases hasks
    have hscore := shown_scoreChanged before after
    obtain ⟨score, level, rfl⟩ := award_ok hplays
    exact hscore
  | pickUp item =>
    cases hasks
    obtain ⟨inventory, rfl⟩ := addItem_ok hplays
    exact .nil _
  | drop item =>
    cases hasks
    obtain ⟨inventory, rfl⟩ := removeItem_ok hplays
    exact .nil _

/-- The events of an action tell the **truth** about it. -/
theorem action_truthful {order : Order} {now : Time.Instant} {action : Action}
    (hasks : order.action? now = some action) (hplays : action.rule before config = .ok after)
    {e : Outline} (he : e ∈ action.events before after) : Truthful before after e := by
  cases order with
  | start | pause | resume | finish => cases hasks
  | move dx dy =>
    cases hasks
    rw [List.mem_singleton.1 he]
    exact truthful_outline trivial
  | damage amount =>
    cases hasks
    rcases List.mem_cons.1 he with rfl | he
    · exact truthful_damaged hplays
    · exact truthful_healthChanged he
  | heal amount =>
    cases hasks
    exact truthful_healthChanged he
  | award points =>
    cases hasks
    rw [List.mem_singleton.1 he]
    exact truthful_outline (Json.int?_ofInt64 before.score)
  | pickUp item =>
    cases hasks
    cases he
  | drop item =>
    cases hasks
    cases he

/-- The event of an end shows **no change**. -/
theorem shown_ended (v : View) (reason : String) (score : Int64) : Shown v [ended reason score] v :=
  .of_other v _ (by decide) (by decide) (by decide)

/-- The event of an end says the **score** that it ends with. -/
theorem truthful_ended (reason : String) : Truthful before after (ended reason after.score) :=
  truthful_outline (Json.int?_ofInt64 after.score)

end Actions

/-! ### One order -/

/-- The events of a session that runs are **the events**. -/
theorem map_snd_running (events : List Outline) :
    (events.map (Phase.running, ·)).map (·.2) = events := by
  rw [List.map_map]
  exact List.map_id events

/-- The configuration in an order to start. -/
def Order.config? : Order → Option Config
  | .start config => some config
  | _ => none

namespace Effect

variable {g g' : Engine} {m : Moment} {order : Order} {reply : Reply} {s : Snapshot}
  {more : List (Phase × Outline)}

/-- What an order does to a session that is on stage is **shown** and truthfully told. -/
theorem shown (h : Effect g m order reply g' more) (hphase : g.phase ≠ .initialized)
    (hsession : g.session = some s) :
    ∃ s', g'.session = some s' ∧ s'.config = s.config ∧
      Shown (viewOf s.state) (more.map (·.2)) (viewOf s'.state) ∧
      ∀ e ∈ more, Truthful s.state s'.state e.2 := by
  cases h with
  | launched fresh => exact absurd fresh hphase
  | shifted | denied | refused | idle => exact ⟨s, hsession, rfl, .nil _, nofun⟩
  | closed =>
    have hscore : (g.state?.map (·.score)).getD 0 = s.state.score := by
      rw [state?, hsession]
      rfl
    rw [hscore]
    refine ⟨s, hsession, rfl, shown_ended _ _ _, ?_⟩
    intro e he
    rw [List.mem_singleton.1 he]
    exact truthful_ended _
  | @played _ action _ after asks running plays =>
    subst running
    obtain rfl := Option.some.inj hsession
    refine ⟨⟨after, _⟩, rfl, rfl, ?_, ?_⟩
    · rw [map_snd_running]
      exact action_shown asks plays
    · intro e he
      obtain ⟨o, ho, rfl⟩ := List.mem_map.1 he
      exact action_truthful asks plays ho
  | @defeated amount _ after running plays =>
    subst running
    obtain rfl := Option.some.inj hsession
    have hasks : Order.action? m.now (.damage amount) = some (strike amount m.now) := rfl
    refine ⟨⟨after, _⟩, rfl, rfl, ?_, ?_⟩
    · rw [List.map_append, map_snd_running]
      exact (action_shown hasks plays).append (shown_ended _ _ _)
    · intro e he
      rcases List.mem_append.1 he with he | he
      · obtain ⟨o, ho, rfl⟩ := List.mem_map.1 he
        exact action_truthful hasks plays ho
      · rw [List.mem_singleton.1 he]
        exact truthful_ended _

/-- Before the start **nothing** happens but the start. -/
theorem first (h : Effect g m order reply g' more) (hphase : g.phase = .initialized) :
    (∃ config, order = .start config ∧ g' = ⟨.running, some (opened config m)⟩ ∧
      more = [(.running, started (opened config m))]) ∨
    (order.config? = none ∧ g' = g ∧ more = []) := by
  cases h with
  | @launched config => exact .inl ⟨config, rfl, rfl, rfl⟩
  | shifted asks within allowed =>
    rw [hphase] at allowed
    rcases within with rfl | rfl
    all_goals cases allowed
  | closed allowed =>
    rw [hphase] at allowed
    cases allowed
  | denied asks barred =>
    refine .inr ⟨?_, rfl, rfl⟩
    cases order with
    | start config =>
      cases asks
      rw [hphase] at barred
      exact absurd .start (barred .running)
    | pause | resume | finish | move | damage | heal | award | pickUp | drop => rfl
  | played asks running | defeated running | refused asks running =>
    subst running
    cases hphase
  | idle asks =>
    refine .inr ⟨?_, rfl, rfl⟩
    cases order with
    | start config => cases asks
    | pause | resume | finish | move | damage | heal | award | pickUp | drop => rfl

end Effect

/-! ### Every run -/

/-- The configuration under which the **first** start was ordered. -/
def startedWith? (orders : List (Order × Moment)) : Option Config :=
  orders.findSome? fun order => order.1.config?

/-- The **account** of a run: before a start was ordered nothing happened; from then on there is a
session under the configuration ordered first, and the events show it. -/
def Account (orders : List (Order × Moment)) (g : Engine) (told : List (Phase × Outline)) : Prop :=
  match startedWith? orders with
  | none => g = {} ∧ told = []
  | some config => g.phase ≠ .initialized ∧ ∃ s, g.session = some s ∧ s.config = config ∧
      Shown (openingView config) (told.map (·.2)) (viewOf s.state)

/-- What the end of a session tells is its **final** score. -/
def Final (g : Engine) (told : List (Phase × Outline)) : Prop :=
  ∀ e ∈ told, e.2.type = Event.Kind.gameEnded.type →
    g.phase = .ended ∧ ∃ s, g.session = some s ∧ e.2.int? "score" = some s.state.score.toInt

namespace Effect

variable {g g' : Engine} {m : Moment} {order : Order} {reply : Reply}
  {orders : List (Order × Moment)} {told more : List (Phase × Outline)}

/-- What is told **behind the start** tells the truth about a session that was there before. -/
theorem truthful (h : Effect g m order reply g' more) (haccount : Account orders g told)
    {e : Phase × Outline} (he : e ∈ more) (htype : e.2.type ≠ Event.Kind.gameStarted.type) :
    ∃ before after, g.session = some before ∧ g'.session = some after ∧
      Truthful before.state after.state e.2 := by
  rw [Account] at haccount
  cases hstarted : startedWith? orders with
  | none =>
    rw [hstarted] at haccount
    obtain ⟨rfl, rfl⟩ := haccount
    rcases h.first rfl with ⟨config, -, -, rfl⟩ | ⟨-, -, rfl⟩
    · rw [List.mem_singleton.1 he] at htype
      exact absurd rfl htype
    · cases he
  | some config =>
    rw [hstarted] at haccount
    obtain ⟨hphase, s, hsession, -⟩ := haccount
    obtain ⟨s', hsession', -, -, htruthful⟩ := h.shown hphase hsession
    exact ⟨s, s', hsession, hsession', htruthful e he⟩

/-- What an order does leaves the **final score** as it was told. -/
theorem final (h : Effect g m order reply g' more) (haccount : Account orders g told)
    (hfinal : Final g told) : Final g' (told ++ more) := by
  intro e he htype
  rcases List.mem_append.1 he with he | he
  · obtain ⟨hended, s, hsession, hscore⟩ := hfinal e he htype
    obtain ⟨-, rfl, -⟩ := h.after_end hended
    exact ⟨hended, s, hsession, hscore⟩
  · have hlater : e.2.type ≠ Event.Kind.gameStarted.type := by
      rw [htype]
      exact fun hsame => nomatch Event.Kind.type_injective hsame
    obtain ⟨s, s', -, hsession', htruthful⟩ := h.truthful haccount he hlater
    exact ⟨(h.ends_iff.1 ⟨e, he, htype⟩).2, s', hsession', htruthful .gameEnded htype⟩

end Effect

end Engine

end Guildkeep
