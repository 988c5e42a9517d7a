import Guildkeep.Bus.Delivery

/-!
# Moments Only Pass

Whatever handlers do, the supply of moments stays the same supply, and moments that have passed do
not come back. This is what lets an assumption about the supply speak of a whole run. And whatever
is handled on the bus is noticed on the bus: at the save manager's desk nothing is told, heard or
taken over it.

## Main results

* `Circle.turn_rel`: what every step of a member keeps, a turn of the circle keeps.
* `Scene.busied_publish`: while an event is delivered moments **only pass**, and all that is noticed
  is noticed on the bus.
* `Scene.passes_publish`: so no listener hears anything.
-/

namespace Guildkeep

/-- The second supply is the first one, with moments **passed**. -/
structure Ambient.Leads (a b : Ambient) : Prop where
  moments : b.moments = a.moments
  passed : a.passed ≤ b.passed

namespace Ambient.Leads

/-- A supply of moments leads to **itself**. -/
theorem refl (a : Ambient) : Leads a a :=
  ⟨rfl, Nat.le_refl _⟩

/-- What is led to leads **further**. -/
theorem trans {a b c : Ambient} (hab : Leads a b) (hbc : Leads b c) : Leads a c :=
  ⟨hbc.moments.trans hab.moments, Nat.le_trans hab.passed hbc.passed⟩

/-- Taking a moment leads to **what is left**. -/
theorem next (a : Ambient) : Leads a a.next.2 :=
  ⟨rfl, Nat.le_succ _⟩

end Ambient.Leads

/-! ### Circles -/

namespace Circle

variable {ω σ : Type} {rel : σ → σ → Prop}

/-- What each turn **relates** the turns of all works relate. -/
theorem turnEach_rel (hrefl : ∀ s, rel s s) (htrans : ∀ {r s t}, rel r s → rel s t → rel r t)
    {step : Step ω σ} (hstep : ∀ seat w s, rel s (step seat w s).rest) (seat : Seat) (ws : List ω)
    (s : σ) : rel s (turnEach step seat ws s).rest := by
  induction ws generalizing s with
  | nil => exact hrefl s
  | cons w ws ih => exact htrans (hstep seat w s) (ih _)

variable [Task ω]

/-- What each turn **relates** the turns of those who are called relate. -/
theorem turnCalled_rel (hrefl : ∀ s, rel s s) (htrans : ∀ {r s t}, rel r s → rel s t → rel r t)
    {step : Step ω σ} (hstep : ∀ seat w s, rel s (step seat w s).rest) (seat : Seat)
    (fuel size turns again : Nat) (c : Circle ω) (s : σ) :
    rel s (turnCalled step seat fuel size turns again c s).rest := by
  induction fuel generalizing size turns again c s with
  | zero => exact hrefl s
  | succ fuel ih =>
    rw [turnCalled]
    split
    · exact hrefl s
    · split
      · exact ih ..
      · dsimp only
        split
        · exact htrans (hstep ..) (ih ..)
        · split
          · exact hstep ..
          · exact htrans (hstep ..) (ih ..)

/-- What every **step** of a member keeps, a turn of the circle keeps. -/
theorem turn_rel (hrefl : ∀ s, rel s s) (htrans : ∀ {r s t}, rel r s → rel s t → rel r t)
    {step : Step ω σ} (hstep : ∀ seat w s, rel s (step seat w s).rest) (seat : Seat) (c : Circle ω)
    (s : σ) : rel s (c.turn step seat s).rest := by
  rw [turn]
  split
  · exact turnCalled_rel hrefl htrans hstep ..
  · exact turnEach_rel hrefl htrans hstep ..

end Circle

/-! ### Scenes -/

/-- Whether something is noticed **on the bus**; all else is noticed at the save manager's desk. -/
def Notice.isOfBus : Notice → Bool
  | started .. | finished .. | reported .. => true
  | told .. | heard .. | taken .. => false

/-- The event that a listener with a name was told of. -/
def Notice.heardBy? (name : String) : Notice → Option Event
  | heard listener e _ => if listener = name then some e else none
  | _ => none

namespace Scene

open Bus

/-- The events that listeners with a name have **heard**, in order. -/
def heardBy (s : Scene) (name : String) : List Event :=
  s.log.filterMap (Notice.heardBy? name)

/-- What a log shows of a notice that comes **last**. -/
theorem filterMap_log_note {α : Type} (f : Notice → Option α) (s : Scene) (n : Notice) :
    (s.note n).log.filterMap f = s.log.filterMap f ++ (f n).toList := by
  rw [log_note, List.filterMap_append]
  cases hn : f n with
  | none => simp [hn]
  | some e => simp [hn]

/-- What a listener heard grows by **one notice** at most. -/
theorem heardBy_note (s : Scene) (n : Notice) (name : String) :
    (s.note n).heardBy name = s.heardBy name ++ (n.heardBy? name).toList :=
  filterMap_log_note ..

/-- Between two scenes moments have only passed. -/
def Leads (s t : Scene) : Prop :=
  s.ambient.Leads t.ambient

/-- Scenes lead **further**. -/
theorem Leads.trans {r s t : Scene} (hrs : Leads r s) (hst : Leads s t) : Leads r t :=
  Ambient.Leads.trans hrs hst

/-- A scene leads to **itself**. -/
theorem Leads.refl (s : Scene) : Leads s s :=
  Ambient.Leads.refl _

/-- Between two scenes moments have **passed**, and no listener has heard anything. -/
structure Passes (s t : Scene) : Prop where
  leads : s.Leads t
  heard : ∀ name, t.heardBy name = s.heardBy name

namespace Passes

/-- What passes, and passes again, **passes**. -/
theorem trans {r s t : Scene} (hrs : Passes r s) (hst : Passes s t) : Passes r t :=
  ⟨hrs.leads.trans hst.leads, fun name => (hst.heard name).trans (hrs.heard name)⟩

/-- A notice that tells of no listener. -/
theorem note (s : Scene) {n : Notice} (h : ∀ name, n.heardBy? name = none) :
    Passes s (s.note n) := by
  refine ⟨Ambient.Leads.refl _, fun name => ?_⟩
  rw [heardBy_note, h name]
  exact List.append_nil _

end Passes

/-- Between two scenes the bus was **busy**: moments have passed, and whatever was noticed was
noticed on the bus. -/
structure Busied (s t : Scene) : Prop where
  leads : s.Leads t
  noticed : ∃ more, t.log = s.log ++ more ∧ ∀ n ∈ more, n.isOfBus = true

namespace Busied

/-- A scene is busied into **itself**. -/
theorem refl (s : Scene) : Busied s s :=
  ⟨.refl s, [], (List.append_nil _).symm, List.forall_mem_nil _⟩

/-- Work that goes on **goes on**. -/
theorem trans {r s t : Scene} (hrs : Busied r s) (hst : Busied s t) : Busied r t := by
  obtain ⟨hleads, more, hlog, hmore⟩ := hrs
  obtain ⟨hleads', more', hlog', hmore'⟩ := hst
  refine ⟨hleads.trans hleads', more ++ more', ?_, ?_⟩
  · rw [hlog', hlog, List.append_assoc]
  · exact List.forall_mem_append.2 ⟨hmore, hmore'⟩

/-- Only the **moments and the record** tell that a scene was at work. -/
theorem of_eq {s t : Scene} (hambient : t.ambient = s.ambient) (hrecord : t.record = s.record) :
    Busied s t := by
  refine ⟨?_, [], ?_, List.forall_mem_nil _⟩
  · rw [Leads, hambient]
    exact Ambient.Leads.refl _
  · rw [log, hrecord, List.append_nil]
    rfl

/-- A notice of the bus is **work of the bus**. -/
theorem note (s : Scene) {n : Notice} (h : n.isOfBus = true) : Busied s (s.note n) :=
  ⟨Ambient.Leads.refl _, [n], log_note s n, List.forall_mem_singleton.2 h⟩

/-- What is **not** noticed on the bus was not noticed. -/
theorem filterMap_log {s t : Scene} (h : Busied s t) {α : Type} {f : Notice → Option α}
    (hf : ∀ n, n.isOfBus = true → f n = none) : t.log.filterMap f = s.log.filterMap f := by
  obtain ⟨-, more, hlog, hmore⟩ := h
  have hnone : more.filterMap f = [] :=
    List.filterMap_eq_nil_iff.2 fun n hn => hf n (hmore n hn)
  rw [hlog, List.filterMap_append, hnone, List.append_nil]

/-- What listeners hear is not noticed on the bus. -/
theorem heardBy {s t : Scene} (h : Busied s t) (name : String) : t.heardBy name = s.heardBy name :=
  h.filterMap_log fun n hn => by cases n <;> first | rfl | cases hn

/-- What the bus does nobody who listens to a manager **hears**. -/
theorem passes {s t : Scene} (h : Busied s t) : Passes s t :=
  ⟨h.leads, h.heardBy⟩

end Busied

/-- Making an event takes **moments** only. -/
theorem leads_make (s : Scene) (o : Outline) : Leads s (s.make o).2 :=
  Ambient.Leads.next _

/-- Making an event is no more than **work of the bus**. -/
theorem busied_make (s : Scene) (o : Outline) : Busied s (s.make o).2 :=
  ⟨leads_make s o, [], (List.append_nil _).symm, List.forall_mem_nil _⟩

/-- Nobody hears that an event is **made**. -/
theorem passes_make (s : Scene) (o : Outline) : Passes s (s.make o).2 :=
  (s.busied_make o).passes

/-- Giving way is no more than **work of the bus**. -/
theorem busied_giveWay (s : Scene) (seat : Seat) : Busied s (s.giveWay seat) := by
  rw [giveWay]
  split
  · exact .refl s
  · exact .of_eq rfl rfl

/-- A subscription is no more than **work of the bus**. -/
theorem busied_subscribe (s : Scene) (h : Handler) : Busied s (s.subscribe h).2 :=
  .of_eq rfl rfl

/-- A subscription under a new name is no more than **work of the bus**. -/
theorem busied_subscribeNew (s : Scene) (h : Handler) : Busied s (s.subscribeNew h) := by
  rw [subscribeNew]
  split
  · exact .refl s
  · exact s.busied_subscribe h

/-- A disposal is no more than **work of the bus**. -/
theorem busied_dispose (s : Scene) (name : String) : Busied s (s.dispose name) := by
  rw [dispose]
  split
  · exact .of_eq rfl rfl
  · exact .refl s

/-- Letting go of a subscription is no more than **work of the bus**. -/
theorem busied_release (s : Scene) (name : String) : Busied s (s.release name) :=
  (s.busied_dispose name).trans (.of_eq rfl rfl)

/-- The end of a handler is no more than **work of the bus**. -/
theorem busied_finish (s : Scene) (h : Handler) (o : Occasion) : Busied s (s.finish h o).rest :=
  .note s rfl

/-- Reporting what failed is no more than **work of the bus**. -/
theorem busied_report (s : Scene) (e : Event) (works : List Work) :
    Busied s (s.report e works) := by
  rw [report]
  induction works.filterMap Work.failure? generalizing s with
  | nil => exact .refl s
  | cons why failures ih => exact (Busied.note s rfl).trans (ih _)

/-- Mustering the handlers is no more than **work of the bus**. -/
theorem busied_muster (s : Scene) (e : Event) : Busied s (s.muster e).2 :=
  .of_eq rfl rfl

/-- A script from an action on, if the bus alone is busy in the turns of those who get what it
publishes. -/
theorem busied_perform {step : Circle.Step Work Scene}
    (hstep : ∀ seat w s, Busied s (step seat w s).rest) (seat : Seat) (h : Handler) (o : Occasion)
    (script : List Action) (s : Scene) : Busied s (perform step seat h o script s).rest := by
  induction script generalizing s with
  | nil =>
    rw [perform]
    split
    · exact busied_finish s h o
    · exact busied_giveWay s seat
  | cons action rest ih =>
    cases action with
    | subscribe name script pauses ending => exact (busied_subscribeNew s _).trans (ih _)
    | dispose name => exact (busied_dispose s name).trans (ih _)
    | drop name => exact (busied_release s name).trans (ih _)
    | publish outline =>
      rw [perform]
      split
      · exact ih s
      dsimp only
      have hmuster : Busied s ((s.make outline).2.muster (s.make outline).1).2 :=
        (busied_make s outline).trans (busied_muster ..)
      have hturn := hmuster.trans (Circle.turn_rel Busied.refl Busied.trans hstep seat
        ((s.make outline).2.muster (s.make outline).1).1 _)
      split
      · exact (hturn.trans (busied_report ..)).trans (ih _)
      · exact hturn

/-- The bus alone is busy in a **turn** of a handler's work. -/
theorem busied_work (depth : Nat) (seat : Seat) (w : Work) (s : Scene) :
    Busied s (work depth seat w s).rest := by
  induction depth generalizing seat w s with
  | zero => exact .refl s
  | succ depth ih =>
    cases w with
    | done failure => exact .refl s
    | fresh h o =>
      rw [work]
      split
      · exact .refl s
      · exact (Busied.note s rfl).trans (busied_perform ih ..)
    | pausing h o left =>
      rw [work]
      split
      · exact busied_finish s h o
      · exact busied_giveWay s seat
    | awaiting h o rest inner circle =>
      rw [work]
      have hturn := Circle.turn_rel Busied.refl Busied.trans ih seat circle s
      split
      · exact (hturn.trans (busied_report ..)).trans (busied_perform ih ..)
      · exact hturn

/-- The bus alone is busy in a turn of a **delivery**. -/
theorem busied_deliver (s : Scene) (seat : Seat) (circle : Circle Work) :
    Busied s (s.deliver seat circle).rest :=
  Circle.turn_rel Busied.refl Busied.trans (busied_work maxDepth) seat circle s

/-- A delivery is no more than **work of the bus**. -/
theorem busied_deliverOn (seat : Seat) (turns : Nat) (circle : Circle Work) (s : Scene) :
    Busied s (deliverOn seat turns circle s).2 := by
  induction turns generalizing circle s with
  | zero => exact .refl s
  | succ turns ih =>
    have hdeliver := s.busied_deliver seat circle
    rw [deliverOn]
    split
    · exact hdeliver.trans (ih ..)
    · exact hdeliver

/-- Calling a circle back is no more than **work of the bus**. -/
theorem busied_callBack (seat : Seat) (circle : Circle Work) (s : Scene) :
    Busied s (callBack seat circle s).2 :=
  .of_eq rfl rfl

/-- Settling a publish is no more than **work of the bus**. -/
theorem busied_settle (seat : Seat) (rounds : Nat) (circle : Circle Work) (s : Scene) :
    Busied s (settle seat rounds circle s).2 := by
  induction rounds generalizing circle s with
  | zero => exact .refl s
  | succ rounds ih =>
    rw [settle]
    split
    · exact .refl s
    · have hdeliver := busied_deliverOn seat seat.turnsInARow circle s
      have hback := busied_callBack seat (deliverOn seat seat.turnsInARow circle s).1
        (deliverOn seat seat.turnsInARow circle s).2
      exact (hdeliver.trans hback).trans (ih ..)

/-- While an event is delivered moments **only pass**, and the bus alone is busy. -/
theorem busied_publish (s : Scene) (e : Event) (seat : Seat) : Busied s (s.publish e seat) := by
  rw [publish]
  -- The number of rounds is far too large to be computed.
  generalize roundsEnough (s.muster e).1 = rounds
  exact ((busied_muster s e).trans (busied_settle seat rounds _ _)).trans (busied_report ..)

/-- While an event is delivered **no listener** hears anything. -/
theorem passes_publish (s : Scene) (e : Event) (seat : Seat) : Passes s (s.publish e seat) :=
  (s.busied_publish e seat).passes

/-- Nobody who listens to a manager hears of an **announcement**. -/
theorem passes_announce (s : Scene) (o : Outline) : Passes s (s.announce o) :=
  ((s.busied_make o).trans (busied_publish ..)).passes

end Scene

end Guildkeep
