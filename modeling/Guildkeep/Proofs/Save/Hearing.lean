import Guildkeep.Proofs.Bus.Moments
import Guildkeep.Proofs.Save.Outcome
import Guildkeep.Save.Desk

/-!
# What a Listener Hears

A listener hears every event of its manager once, in the order in which they are emitted, for as
long as it is registered. Others may listen as well, and may register or remove listeners or switch
autosave off when they are told of something. The one thing that a listener hears besides the events
that were to be emitted is that autosave was switched off.

## Conventions

A listener is known by its name. From its registration on the name is known, so no listener that
others register has that name. Whoever removes it removes it for good.

## Main results

* `Desk.Hears`: what is **heard** under a name between two desks.
* `Desk.hears_emitAll`: the events that are emitted are the events that are heard.
-/

namespace Guildkeep

/-! ### News -/

/-- What an event **tells**: its type and its payload. -/
structure Tidings where
  type : String
  data : Option Json

/-- What an event **says**, but for when and under which id. -/
def Event.tidings (e : Event) : Tidings :=
  ⟨e.type, e.data⟩

/-- What an outline **says**. -/
def Outline.tidings (o : Outline) : Tidings :=
  ⟨o.type, o.data⟩

/-- Whether tidings are of more than that autosave was switched off. -/
def Tidings.isNews (t : Tidings) : Bool :=
  t.type != Event.Kind.autoSaveDisabled.type

/-- The **news** that a listener with a name has heard. -/
def Scene.news (s : Scene) (name : String) : List Tidings :=
  ((s.heardBy name).map Event.tidings).filter Tidings.isNews

/-- What passes is **no news** to anybody. -/
theorem Scene.Passes.news {s t : Scene} (h : s.Passes t) (name : String) :
    t.news name = s.news name := by
  rw [Scene.news, h.heard, Scene.news]

/-- A listener hears news when it is **told** some. -/
theorem Scene.news_note_heard (s : Scene) (listener name : String) (e : Event)
    (seen : Option Glimpse) :
    (s.note (.heard listener e seen)).news name =
      s.news name ++ if listener = name then [e.tidings].filter Tidings.isNews else [] := by
  rw [news, heardBy_note, List.map_append, List.filter_append, news, Notice.heardBy?]
  by_cases hname : listener = name
  · simp only [if_pos hname]
    rfl
  · simp only [if_neg hname]
    rfl

namespace Save.Desk

/-- How many listeners with a name are registered. -/
def namesakes (d : Desk) (name : String) : Nat :=
  d.manager.roster.listeners.countP (·.2.name = name)

/-- How many listeners have a name is said by the **roster**. -/
theorem namesakes_eq (d : Desk) (name : String) :
    d.namesakes name = (d.manager.roster.listeners.map (·.2)).countP (·.name = name) := by
  rw [namesakes, List.countP_map]
  rfl

/-- Between two desks moments have passed, and under a name that was known `more` was **heard**. -/
structure Hears (name : String) (d : Desk) (more : List Tidings) (d' : Desk) : Prop where
  leads : d.scene.Leads d'.scene
  known : d.names.has name = true → d'.names.has name = true
  /-- Nobody else is registered under the name. -/
  fewer : d.names.has name = true → d'.namesakes name ≤ d.namesakes name
  news : d'.scene.news name = d.scene.news name ++ more

namespace Hears

variable {name : String} {d d' d'' : Desk} {more later : List Tidings}

/-- Where nothing happens **nothing is heard**. -/
theorem refl (name : String) (d : Desk) : Hears name d [] d :=
  ⟨.refl _, id, fun _ => Nat.le_refl _, (List.append_nil _).symm⟩

/-- What is heard is heard **in order**. -/
theorem trans (h : Hears name d more d') (h' : Hears name d' later d'') :
    Hears name d (more ++ later) d'' where
  leads := h.leads.trans h'.leads
  known hknown := h'.known (h.known hknown)
  fewer hknown := Nat.le_trans (h'.fewer (h.known hknown)) (h.fewer hknown)
  news := by rw [h'.news, h.news, List.append_assoc]

/-- Something that happens in the **scene**, where no listener hears of it. -/
theorem of_passes {scene : Scene} (h : d.scene.Passes scene) :
    Hears name d [] { d with scene } where
  leads := h.leads
  known := id
  fewer _ := Nat.le_refl _
  news := by rw [h.news, List.append_nil]

end Hears

variable (name : String)

/-! ### Listeners come and go -/

/-- Removing a listener is **not heard**. -/
theorem hears_unlisten (d : Desk) (other : String) : Hears name d [] (d.unlisten other).2 := by
  rw [unlisten]
  split
  case h_1 number _ =>
    refine ⟨.refl _, id, fun _ => ?_, (List.append_nil _).symm⟩
    exact List.Sublist.countP_le List.filter_sublist
  case h_2 => exact .refl name d

/-- Whoever registers under **another** name does not change what is heard. -/
theorem hears_listen (d : Desk) {l : Listener} (hother : l.name ≠ name) :
    Hears name d [] (d.listen l) where
  leads := .refl _
  known hknown := by
    change ((d.names.put l.name d.manager.roster.nextId).get? name).isSome = true
    rw [Table.get?_put, if_neg (Ne.symm hother)]
    exact hknown
  fewer _ := by
    simp [namesakes, listen, Roster.add, hother]
  news := (List.append_nil _).symm

/-- Listeners that register one after another stand in that **order**. -/
theorem listeners_foldl_listen (listeners : List Listener) (d : Desk) :
    (listeners.foldl listen d).manager.roster.listeners.map (·.2) =
      d.manager.roster.listeners.map (·.2) ++ listeners := by
  induction listeners generalizing d with
  | nil => exact (List.append_nil _).symm
  | cons l rest ih =>
    rw [List.foldl_cons, ih, listen, Roster.add, List.map_append, List.append_assoc]
    rfl

/-- Registering listeners does not touch the **scene**. -/
theorem scene_foldl_listen (listeners : List Listener) (d : Desk) :
    (listeners.foldl listen d).scene = d.scene := by
  induction listeners generalizing d with
  | nil => rfl
  | cons l rest ih => exact ih _

/-- Registering a listener under a new name is **not heard**. -/
theorem hears_listenNew (d : Desk) (l : Listener) : Hears name d [] (d.listenNew l) := by
  rw [listenNew]
  split
  case isTrue => exact .refl name d
  case isFalse hnew =>
    by_cases hname : l.name = name
    · -- Under a name that is known nobody registers.
      rw [hname] at hnew
      exact ⟨.refl _, fun h => absurd h hnew, fun h => absurd h hnew, (List.append_nil _).symm⟩
    · exact hears_listen name d hname

/-! ### Telling -/

/-- While a listener does what it does, **nothing new** is heard. -/
theorem hears_react {disable : Desk → Desk} (hdisable : ∀ d, Hears name d [] (disable d))
    (reactions : List Reaction) (d : Desk) : Hears name d [] (react disable reactions d) := by
  induction reactions generalizing d with
  | nil => exact .refl name d
  | cons reaction rest ih =>
    cases reaction with
    | panics => exact .refl name d
    | removes other => exact (hears_unlisten name d other).trans (ih _)
    | adds other reactions => exact (hears_listenNew name d _).trans (ih _)
    | disablesAutoSave => exact (hdisable d).trans (ih _)
    | peeks => exact ih d

/-- When one listener is told, **that one** hears it. -/
theorem hears_tellOne {disable : Desk → Desk} (hdisable : ∀ d, Hears name d [] (disable d))
    (e : Event) (d : Desk) (l : Listener) :
    Hears name d (if l.name = name then [e.tidings].filter Tidings.isNews else [])
      (tellOne disable e d l) := by
  have hnote : Hears name d (if l.name = name then [e.tidings].filter Tidings.isNews else [])
      { d with scene := d.scene.note (.heard l.name e (d.seenBy e l)) } :=
    ⟨.refl _, id, fun _ => Nat.le_refl _, d.scene.news_note_heard l.name name e _⟩
  have h := hnote.trans (hears_react name hdisable (l.reactions (d.occasion e)) _)
  rwa [List.append_nil] at h

/-- Those who are told hear of the event, **as often** as they have the name. -/
theorem hears_tellAll {disable : Desk → Desk} (hdisable : ∀ d, Hears name d [] (disable d))
    (e : Event) (listeners : List Listener) (d : Desk) :
    Hears name d
      ((List.replicate (listeners.countP (·.name = name)) e.tidings).filter Tidings.isNews)
      (listeners.foldl (tellOne disable e) d) := by
  induction listeners generalizing d with
  | nil => exact .refl name d
  | cons l rest ih =>
    have h := (hears_tellOne name hdisable e d l).trans (ih _)
    rw [List.foldl_cons]
    by_cases hname : l.name = name
    · rw [if_pos hname, ← List.filter_append] at h
      rw [List.countP_cons_of_pos (by simpa using hname), List.replicate_succ]
      exact h
    · rw [if_neg hname, List.nil_append] at h
      rw [List.countP_cons_of_neg (by simpa using hname)]
      exact h

/-- Queueing an event is **not heard**. -/
theorem hears_enqueue (d : Desk) (e : Event) : Hears name d [] (d.enqueue e) := by
  rw [enqueue]
  split
  · exact ⟨.refl _, id, fun _ => Nat.le_refl _, (List.append_nil _).symm⟩
  · exact .refl name d

/-- An event that is emitted is heard **as often** as listeners have the name. -/
theorem hears_emitWith {disable : Desk → Desk} (hdisable : ∀ d, Hears name d [] (disable d))
    (d : Desk) (o : Outline) :
    Hears name d ((List.replicate (d.namesakes name) o.tidings).filter Tidings.isNews)
      (emitWith disable d o) := by
  have hmake : Hears name d []
      { d with scene := (d.scene.make o).2.note (.told (d.scene.make o).1) } :=
    .of_passes ((d.scene.passes_make o).trans (.note _ fun _ => rfl))
  have htell := hears_tellAll name hdisable (d.scene.make o).1
    (d.manager.roster.listeners.map (·.2))
    { d with scene := (d.scene.make o).2.note (.told (d.scene.make o).1) }
  rw [← namesakes_eq] at htell
  have h := (hmake.trans htell).trans (hears_enqueue name _ (d.scene.make o).1)
  rwa [List.nil_append, List.append_nil] at h

/-- That autosave was switched off is **no news**. -/
theorem hears_disable (d : Desk) : Hears name d [] d.disable := by
  have hsilent : ∀ n, (List.replicate n Manager.disabled.tidings).filter Tidings.isNews = [] :=
    fun n => List.filter_replicate_of_neg (by decide)
  rw [disable]
  split
  · have hswitch : Hears name d [] { d with manager := { d.manager with autoSave := false } } :=
      ⟨.refl _, id, fun _ => Nat.le_refl _, (List.append_nil _).symm⟩
    have hemit := hears_emitWith name (Hears.refl name)
      { d with manager := { d.manager with autoSave := false } } Manager.disabled
    rw [hsilent] at hemit
    exact hswitch.trans hemit
  · exact .refl name d

/-! ### Events on their way -/

/-- Taking an event to the bus is **not heard**. -/
theorem hears_forward (d : Desk) : Hears name d [] d.forward := by
  rw [forward]
  split
  case h_1 => exact .refl name d
  case h_2 e queue _ =>
    have hpasses : d.scene.Passes ((d.scene.note (.taken e)).publish e .behind) :=
      (Scene.Passes.note d.scene fun _ => rfl).trans (Scene.passes_publish ..)
    exact ⟨hpasses.leads, id, fun _ => Nat.le_refl _, by rw [hpasses.news, List.append_nil]⟩

/-- The desk when somebody else has announced an event on the bus. -/
def announce (d : Desk) (o : Outline) : Desk :=
  { d with scene := d.scene.announce o }

/-- An announcement is **not heard**. -/
theorem hears_announce (d : Desk) (o : Outline) : Hears name d [] (d.announce o) :=
  .of_passes (d.scene.passes_announce o)

/-- Draining the queue is **not heard**. -/
theorem hears_drain (d : Desk) : Hears name d [] d.drain := by
  rw [drain]
  induction d.manager.queue.length generalizing d with
  | zero => exact .refl name d
  | succ n ih => exact (hears_forward name d).trans (ih _)

/-- **Everything that is emitted is heard.** A listener that is alone under its name and is still
registered at the end has heard the events that were emitted, once each and in order. -/
theorem hears_emitAll (waits : Bool) (events : List Outline) (d : Desk) :
    ∃ more, Hears name d more (d.emitAll waits events) ∧
      (d.names.has name = true → d.namesakes name ≤ 1 →
        (d.emitAll waits events).namesakes name = 1 →
        more = (events.map Outline.tidings).filter Tidings.isNews) := by
  induction events generalizing d with
  | nil => exact ⟨[], .refl name d, fun _ _ _ => rfl⟩
  | cons o events ih =>
    obtain ⟨next, hnext, htold⟩ : ∃ next,
        emitAll waits d (o :: events) = emitAll waits next events ∧
        Hears name d ((List.replicate (d.namesakes name) o.tidings).filter Tidings.isNews)
          next := by
      have hemit := hears_emitWith name (hears_disable name) d o
      refine ⟨_, rfl, ?_⟩
      split
      · exact List.append_nil (List.filter ..) ▸ hemit.trans (hears_drain name _)
      · exact hemit
    obtain ⟨more, hmore, hall⟩ := ih next
    rw [hnext]
    refine ⟨_, htold.trans hmore, fun hknown halone hstays => ?_⟩
    have hfewer := htold.fewer hknown
    have hfewer' := hmore.fewer (htold.known hknown)
    rw [hall (htold.known hknown) (by omega) hstays, List.map_cons, ← List.singleton_append,
      List.filter_append]
    obtain hone : d.namesakes name = 1 := by omega
    rw [hone]
    rfl

/-! ### Requests -/

section Requests

variable {σ : Type} [Store σ]

/-- The desk when a request has been **answered** and nothing has been told of it yet. -/
def answered (d : Desk) (store : σ) (request : Request) : Desk :=
  { d with
    manager := (d.manager.answer store d.scene.ambient request).manager
    scene := { d.scene with ambient := (d.manager.answer store d.scene.ambient request).ambient } }

/-- Until it tells anybody, a desk that answers is **not heard**. -/
theorem hears_answered (d : Desk) (store : σ) (request : Request) :
    Hears name d [] (d.answered store request) where
  leads := by
    change d.scene.ambient.Leads (d.manager.answer store d.scene.ambient request).ambient
    rw [Manager.ambient_answer]
    split
    · exact (Ambient.Leads.next _).trans (.next _)
    · exact .refl _
  known := id
  fewer _ := by
    obtain ⟨current, autoSave, hmanager⟩ := d.manager.manager_answer store d.scene.ambient request
    rw [namesakes, answered, hmanager]
    exact Nat.le_refl _
  news := (List.append_nil _).symm

end Requests

end Save.Desk

end Guildkeep
