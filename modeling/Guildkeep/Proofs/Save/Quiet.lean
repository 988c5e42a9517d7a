import Guildkeep.Proofs.Bus.Moments
import Guildkeep.Save.Desk

/-!
# A Desk Without Listeners

Where nobody listens, telling events does nothing to the manager but fill and empty its queue. The
bus may be busy all the while: its handlers can use up moments, and that is all that the manager
sees of them.

## Main results

* `Desk.undisturbed_emitAll`: events that are told at a desk **without listeners** leave alone what
  the manager holds.
-/

namespace Guildkeep.Save.Desk

/-- What the manager **holds** is the same at both desks, and in between moments have only
passed. -/
structure Undisturbed (d d' : Desk) : Prop where
  options : d'.manager.options = d.manager.options
  current : d'.manager.current = d.manager.current
  autoSave : d'.manager.autoSave = d.manager.autoSave
  roster : d'.manager.roster = d.manager.roster
  leads : d.scene.Leads d'.scene

namespace Undisturbed

/-- Where nothing happens a desk is **undisturbed**. -/
theorem refl (d : Desk) : Undisturbed d d :=
  ⟨rfl, rfl, rfl, rfl, .refl _⟩

/-- What is undisturbed and stays so is **undisturbed**. -/
theorem trans {d d' d'' : Desk} (h : Undisturbed d d') (h' : Undisturbed d' d'') :
    Undisturbed d d'' :=
  ⟨h'.options.trans h.options, h'.current.trans h.current, h'.autoSave.trans h.autoSave,
    h'.roster.trans h.roster, h.leads.trans h'.leads⟩

end Undisturbed

/-- Queueing an event leaves a desk **undisturbed**. -/
theorem undisturbed_enqueue (d : Desk) (e : Event) : Undisturbed d (d.enqueue e) := by
  rw [enqueue]
  split
  · exact ⟨rfl, rfl, rfl, rfl, .refl _⟩
  · exact .refl d

/-- With nobody registered **nobody is told**. -/
theorem tell_of_no_listeners {d : Desk} (h : d.manager.roster.listeners = []) (e : Event) :
    tell disable e d = d := by
  rw [tell, h]
  rfl

/-- With nobody registered an event leaves a desk **undisturbed**. -/
theorem undisturbed_emit {d : Desk} (h : d.manager.roster.listeners = []) (o : Outline) :
    Undisturbed d (d.emit o) := by
  have htold : Undisturbed d
      { d with scene := (d.scene.make o).2.note (.told (d.scene.make o).1) } :=
    ⟨rfl, rfl, rfl, rfl, d.scene.leads_make o⟩
  rw [emit, emitWith]
  simp only
  rw [tell_of_no_listeners]
  · exact htold.trans (undisturbed_enqueue ..)
  · exact h

/-- Taking an event to the bus leaves a desk **undisturbed**. -/
theorem undisturbed_forward (d : Desk) : Undisturbed d d.forward := by
  rw [forward]
  split
  · exact .refl d
  · exact ⟨rfl, rfl, rfl, rfl, (Scene.passes_publish (d.scene.note _) _ _).leads⟩

/-- Draining the queue leaves a desk **undisturbed**. -/
theorem undisturbed_drain (d : Desk) : Undisturbed d d.drain := by
  rw [drain]
  induction d.manager.queue.length generalizing d with
  | zero => exact .refl d
  | succ n ih => exact (undisturbed_forward d).trans (ih _)

/-- Events that are told **where nobody listens** leave alone what the manager holds. -/
theorem undisturbed_emitAll {d : Desk} (h : d.manager.roster.listeners = []) (waits : Bool)
    (events : List Outline) : Undisturbed d (d.emitAll waits events) := by
  rw [emitAll]
  induction events generalizing d with
  | nil => exact .refl d
  | cons o events ih =>
    have hemit := undisturbed_emit h o
    cases waits with
    | true =>
      have hdrain := hemit.trans (undisturbed_drain _)
      exact hdrain.trans (ih (by rw [← h]; exact congrArg _ hdrain.roster))
    | false => exact hemit.trans (ih (by rw [← h]; exact congrArg _ hemit.roster))

end Guildkeep.Save.Desk
