import Guildkeep.Proofs.House.Schedule
import Guildkeep.Proofs.Save.Rush
import Guildkeep.Proofs.Save.Tick

/-!
# Autosaves Keep Their Schedule

A worker is started, the clock goes on or leaps, and in between anything may be done: requests to
the manager, other managers, listeners, orders to the engine, goings-on at the bus, outages of the
store. None of this moves a tick, adds one or takes one away; what it decides is what comes of the
tick.

## Conventions

A run is a list of happenings. Two runs have the same schedule if their clocks were moved alike and
their workers were stopped at the same point.

A tick that no access hinders answers with the id of a save, and yet there may be none: the save is
given up at once where as many later ones are listed as are kept, and it is listed nowhere where the
manifest is given up with an entry of its name. What a tick does says exactly when.

## Main results

* `SameWatch.callsAll`: the times of the ticks depend on the **moves of the clock** alone.
* `readable_callsAll`: at every tick the manifest is **readable**.
* `autosaves_keep_schedule`: when ticks are made, and what each of them does.
-/

namespace Guildkeep.House

open Save Save.Archive
open Store (Viewed texts Counted Watched Gated Memory)

/-! ### What happens otherwise -/

section Aside

variable {σ : Type}

/-- The clock, the worker and the diary are **left alone**. -/
structure Aside (a b : House σ) : Prop extends SameWatch a b where
  diary : b.diary = a.diary

/-- Where nothing happens the watch is **left alone**. -/
theorem Aside.refl (h : House σ) : Aside h h :=
  ⟨⟨rfl, rfl⟩, rfl⟩

/-- What is left alone twice is **left alone**. -/
theorem Aside.trans {a b c : House σ} (hab : Aside a b) (hbc : Aside b c) : Aside a c :=
  ⟨⟨hbc.clock.trans hab.clock, hbc.worker.trans hab.worker⟩, hbc.diary.trans hab.diary⟩

variable [Store σ]

/-- A request leaves the watch **alone**. -/
theorem aside_ask (h : House σ) (request : Request) : Aside h (h.ask request).2 :=
  ⟨⟨rfl, rfl⟩, rfl⟩

/-- Another manager leaves the watch **alone**. -/
theorem aside_reopen (h : House σ) (options : Options) (forwards : Bool) :
    Aside h (h.reopen options forwards).2 := by
  rw [reopen]
  split <;> exact ⟨⟨rfl, rfl⟩, rfl⟩

/-- What every request keeps, many saves **one after another** keep. -/
theorem saveAll_slow_rel {rel : House σ → House σ → Prop} (hrefl : ∀ h, rel h h)
    (htrans : ∀ {a b c}, rel a b → rel b c → rel a c)
    (hask : ∀ (h : House σ) (title : String), rel h (h.ask (.save (some title))).2)
    (h : House σ) (titles : List String) : rel h (h.saveAll .slow titles).2 := by
  have hfold (f : List Answer × House σ → String → List Answer × House σ)
      (hf : ∀ p title, rel p.2 (f p title).2) (titles : List String) (p : List Answer × House σ) :
      rel p.2 (titles.foldl f p).2 := by
    induction titles generalizing p with
    | nil => exact hrefl p.2
    | cons title titles ih => exact htrans (hf p title) (ih _)
  exact hfold _ (fun p title => hask p.2 title) titles ([], h)

/-- Many saves, at whatever pace, leave the watch **alone**. -/
theorem aside_saveAll (h : House σ) (pace : Pace) (titles : List String) :
    Aside h (h.saveAll pace titles).2 := by
  cases pace with
  | prompt | pausing => exact ⟨⟨rfl, rfl⟩, rfl⟩
  | slow => exact saveAll_slow_rel Aside.refl Aside.trans (fun h title => h.aside_ask _) h titles

end Aside

/-! ### Readable manifests -/

section Readable

variable {σ : Type} [Store σ] [Viewed σ] {h : House σ}

/-- After a request the manifest is **readable**. -/
theorem readable_ask (hreadable : Readable (texts h.store)) (request : Request) :
    Readable (texts (h.ask request).2.store) :=
  h.manager.readable_answer hreadable h.scene.ambient request

/-- After many saves, at whatever pace, the manifest is **readable**. -/
theorem readable_saveAll (hreadable : Readable (texts h.store)) (pace : Pace)
    (titles : List String) : Readable (texts (h.saveAll pace titles).2.store) := by
  have hsave (m : Manager) (store : σ) (ambient : Ambient) (title : Option String)
      (hstore : Readable (texts store)) :
      Readable (texts (m.answer (⟨store, 0⟩ : Counted σ) ambient (.save title)).store.inner) :=
    @Manager.readable_answer (Counted σ) _ _ m ⟨store, 0⟩ hstore ambient (.save title)
  have hrush (pauses : Bool) : Readable (texts (h.desk.saveAll h.store pauses titles).2.1) :=
    @Desk.saveAll_rel _ _ (fun s s' => Readable (texts s) → Readable (texts s')) (fun _ => id)
      (fun hrs hst hr => hst (hrs hr)) hsave h.desk h.store pauses titles hreadable
  cases pace with
  | prompt => exact hrush _
  | pausing => exact hrush _
  | slow =>
    exact @saveAll_slow_rel _ _
      (fun a b => Readable (texts a.store) → Readable (texts b.store)) (fun _ => id)
      (fun hab hbc ha => hbc (hab ha)) (fun h title hr => readable_ask hr _) h titles hreadable

/-- After another manager was opened the manifest is **readable**. -/
theorem readable_reopen (hreadable : Readable (texts h.store)) (options : Options)
    (forwards : Bool) : Readable (texts (h.reopen options forwards).2.store) := by
  have htexts := Visit.texts_openOn h.store options forwards
  rw [reopen]
  split
  case h_1 hopen =>
    rw [hopen] at htexts
    rwa [← htexts] at hreadable
  case h_2 hopen =>
    rw [hopen] at htexts
    rwa [← htexts] at hreadable

/-- After a tick the manifest is **readable**. -/
theorem readable_tick (hreadable : Readable (texts h.store)) : Readable (texts h.tick.store) := by
  have hanswer := h.employer.manager.readable_answer hreadable h.scene.ambient .tick
  rw [tick]
  cases h.former <;> exact hanswer

/-- While work is done the manifest is readable **at every call**. -/
theorem readable_work (hreadable : Readable (texts h.store)) :
    Readable (texts h.work.store) ∧ ∀ call ∈ h.calls, Readable (texts call.store) := by
  induction h using work.induct with
  | case1 h hworker =>
    obtain ⟨hwork, hcalls⟩ := work_of_none hworker
    rw [hwork, hcalls]
    exact ⟨hreadable, List.forall_mem_nil _⟩
  | case2 h w hworker hdue ih =>
    obtain ⟨hwork, hcalls⟩ := work_of_due hworker hdue
    obtain ⟨hlater, hothers⟩ := ih (readable_tick (h := h.withNext w) hreadable)
    rw [hwork, hcalls]
    exact ⟨hlater, List.forall_mem_cons.2 ⟨hreadable, hothers⟩⟩
  | case3 h w hworker hidle =>
    obtain ⟨hwork, hcalls⟩ := work_of_idle hworker hidle
    rw [hwork, hcalls]
    exact ⟨hreadable, List.forall_mem_nil _⟩

/-- While the clock goes through some times the manifest is readable **at every call**. -/
theorem readable_through (hreadable : Readable (texts h.store)) (times : List Nat) :
    Readable (texts (times.foldl jumpTo h).store) ∧
      ∀ call ∈ h.callsThrough times, Readable (texts call.store) := by
  induction times generalizing h with
  | nil => exact ⟨hreadable, List.forall_mem_nil _⟩
  | cons time times ih =>
    obtain ⟨hnow, hcalls⟩ := readable_work (h := { h with clock := time }) hreadable
    obtain ⟨hlater, hothers⟩ := ih hnow
    refine ⟨hlater, fun call hcall => ?_⟩
    rcases List.mem_append.1 hcall with hcall | hcall
    · exact hcalls call hcall
    · exact hothers call hcall

/-- While the clock is moved the manifest is readable **at every call**. -/
theorem readable_move (hreadable : Readable (texts h.store)) (m : Move) :
    Readable (texts (h.move m).store) ∧ ∀ call ∈ h.callsIn m, Readable (texts call.store) := by
  obtain ⟨hlater, hcalls⟩ := readable_through hreadable (m.times h)
  refine ⟨?_, hcalls⟩
  cases m with
  | jump span => exact hlater
  | wait span => exact hlater
  | stop => exact hreadable

end Readable

/-! ### Runs -/

/-- What may go on in a house **beside** the clock. -/
inductive Affair (σ : Type) [Store σ] [Viewed σ] where
  | ask (request : Request)
  | saveAll (pace : Pace) (titles : List String)
  | listen (l : Listener)
  | unlisten (name : String)
  | drain
  | reopen (options : Options) (forwards : Bool)
  | order (o : Engine.Order)
  /-- Something is done at the bus. -/
  | scene (change : Scene → Scene)
  /-- Other accesses fail from now on, or none: the store is not what it was, but its texts are. -/
  | outage (change : σ → σ) (keeps : ∀ store, texts (change store) = texts store)

/-- What may **happen** in a house while a worker is employed. -/
inductive Happening (σ : Type) [Store σ] [Viewed σ] where
  | move (m : Move)
  | affair (a : Affair σ)

section

variable {σ : Type} [Store σ] [Viewed σ]

/-- The **moves** among happenings. -/
def moves (happenings : List (Happening σ)) : List Move :=
  happenings.filterMap fun
    | .move m => some m
    | .affair _ => none

/-- The house after something went on beside the clock. -/
def attend (h : House σ) : Affair σ → House σ
  | .ask request => (h.ask request).2
  | .saveAll pace titles => (h.saveAll pace titles).2
  | .listen l => h.listen l
  | .unlisten name => (h.unlisten name).2
  | .drain => h.drain
  | .reopen options forwards => (h.reopen options forwards).2
  | .order o => (h.order o).2
  | .scene change => { h with scene := change h.scene }
  | .outage change _ => { h with store := change h.store }

/-- The house after **happenings**, one after another. -/
def liveThrough (h : House σ) : List (Happening σ) → House σ
  | [] => h
  | .move m :: happenings => liveThrough (h.move m) happenings
  | .affair a :: happenings => liveThrough (h.attend a) happenings

/-- The calls in the course of happenings. -/
def callsAll (h : House σ) : List (Happening σ) → List (House σ)
  | [] => []
  | .move m :: happenings => h.callsIn m ++ callsAll (h.move m) happenings
  | .affair a :: happenings => callsAll (h.attend a) happenings

end

section Runs

variable {σ : Type} [Store σ] [Viewed σ] {h : House σ}

/-- Only moves touch **the clock**, the worker and the diary. -/
theorem aside_attend (h : House σ) (a : Affair σ) : Aside h (h.attend a) := by
  cases a with
  | ask request => exact h.aside_ask request
  | saveAll pace titles => exact h.aside_saveAll pace titles
  | reopen options forwards => exact h.aside_reopen options forwards
  | listen | unlisten | drain | order | scene | outage => exact ⟨⟨rfl, rfl⟩, rfl⟩

/-- After whatever goes on beside the clock the manifest is **readable**. -/
theorem readable_attend (hreadable : Readable (texts h.store)) (a : Affair σ) :
    Readable (texts (h.attend a).store) := by
  cases a with
  | ask request => exact readable_ask hreadable request
  | saveAll pace titles => exact readable_saveAll hreadable pace titles
  | reopen options forwards => exact readable_reopen hreadable options forwards
  | listen | unlisten | drain | order | scene => exact hreadable
  | outage change keeps =>
    change Readable (texts (change h.store))
    rwa [keeps]

/-- Nothing but the moves takes the clock **any further**. -/
theorem clock_liveThrough (h : House σ) (happenings : List (Happening σ)) :
    (h.liveThrough happenings).clock = h.clock + ((moves happenings).map Move.span).sum := by
  induction happenings generalizing h with
  | nil => rfl
  | cons happening happenings ih =>
    cases happening with
    | move m =>
      rw [liveThrough, ih, clock_move, Nat.add_assoc]
      exact congrArg (h.clock + ·) List.sum_cons.symm
    | affair a =>
      rw [liveThrough, ih, (h.aside_attend a).clock]
      rfl

/-- A run has **one line in the diary** for each of its calls. -/
theorem diary_liveThrough (h : House σ) (happenings : List (Happening σ)) :
    (h.liveThrough happenings).diary = h.diary ++ (h.callsAll happenings).map diaryLine := by
  induction happenings generalizing h with
  | nil => exact (List.append_nil _).symm
  | cons happening happenings ih =>
    cases happening with
    | move m =>
      rw [liveThrough, ih, callsAll, List.map_append, ← List.append_assoc, diary_move]
    | affair a =>
      rw [liveThrough, ih, callsAll, (h.aside_attend a).diary]

/-- The calls of a run come when they come in a house with the same watch where the clock is moved
alike and **nothing else** happens. -/
theorem SameWatch.callsAll {τ : Type} [Store τ] [Viewed τ] {a : House σ} {b : House τ}
    (h : SameWatch a b) (happenings : List (Happening σ)) :
    (b.callsAll ((moves happenings).map .move)).map House.clock =
      (a.callsAll happenings).map House.clock := by
  induction happenings generalizing a b with
  | nil => rfl
  | cons happening happenings ih =>
    cases happening with
    | move m =>
      obtain ⟨hwatch, hcalls⟩ := h.move m
      have hothers := ih hwatch
      rw [House.callsAll, List.map_append, ← hcalls, ← hothers, ← List.map_append]
      rfl
    | affair x =>
      have hwatch : SameWatch (a.attend x) b := by
        have haside := a.aside_attend x
        exact ⟨h.clock.trans haside.clock.symm, h.worker.trans haside.worker.symm⟩
      exact ih hwatch

/-- At **every call** of a run the manifest is readable. -/
theorem readable_callsAll (hreadable : Readable (texts h.store)) (happenings : List (Happening σ)) :
    ∀ call ∈ h.callsAll happenings, Readable (texts call.store) := by
  induction happenings generalizing h with
  | nil => exact List.forall_mem_nil _
  | cons happening happenings ih =>
    cases happening with
    | move m =>
      obtain ⟨hlater, hcalls⟩ := readable_move hreadable m
      intro call hcall
      rcases List.mem_append.1 hcall with hcall | hcall
      · exact hcalls call hcall
      · exact ih hlater call hcall
    | affair a => exact ih (readable_attend hreadable a)

/-- **Before the stop** nothing is left that is due. -/
theorem AtRest.liveThrough {started interval : Nat} {times : List Nat}
    (hrest : AtRest started interval times h) {happenings : List (Happening σ)}
    (hgoing : Move.stop ∉ moves happenings) :
    AtRest started interval (times ++ (h.callsAll happenings).map House.clock)
      (h.liveThrough happenings) := by
  induction happenings generalizing h times with
  | nil =>
    rw [callsAll, List.map_nil, List.append_nil]
    exact hrest
  | cons happening happenings ih =>
    cases happening with
    | move m =>
      have hm : m ≠ .stop := by
        rintro rfl
        exact hgoing List.mem_cons_self
      have hothers : Move.stop ∉ moves happenings := fun hmem =>
        hgoing (List.mem_cons_of_mem _ hmem)
      have hrun := ih (hrest.move hm) hothers
      rw [List.append_assoc, ← List.map_append] at hrun
      exact hrun
    | affair a =>
      obtain ⟨w, hworker, hpunctual, hidle⟩ := hrest
      have haside := h.aside_attend a
      exact ih ⟨w, haside.worker.trans hworker, hpunctual, haside.clock ▸ hidle⟩ hgoing

/-- Where there is no worker, **no tick is made** whatever happens. -/
theorem callsAll_of_none (hworker : h.worker = none) (happenings : List (Happening σ)) :
    h.callsAll happenings = [] := by
  induction happenings generalizing h with
  | nil => rfl
  | cons happening happenings ih =>
    cases happening with
    | move m =>
      obtain ⟨hnone, hcalls⟩ := move_of_none hworker m
      rw [callsAll, hcalls, List.nil_append, ih hnone]
    | affair a => exact ih ((h.aside_attend a).worker.trans hworker)

/-- **After the stop** no tick is made. -/
theorem callsAll_stop (h : House σ) (before after : List (Happening σ)) :
    h.callsAll (before ++ .move .stop :: after) = h.callsAll before := by
  induction before generalizing h with
  | nil => exact callsAll_of_none (h := h.stopWorker) rfl after
  | cons happening before ih =>
    cases happening with
    | move m => exact congrArg (h.callsIn m ++ ·) (ih _)
    | affair a => exact ih _

end Runs

/-! ### Ticks -/

section Ticks

variable {σ : Type} [Store σ]

/-- Whether an access **fails** in a tick, given the house just before it. -/
def Hindered (call : House σ) : Prop :=
  (call.employer.manager.answer (⟨call.store, false⟩ : Watched σ)
    call.scene.ambient .tick).store.failed = true

variable [Viewed σ]

/-- What a **tick** does, given the house just before it. -/
structure TickEffect (call : House σ) : Prop where
  /-- With autosave off or nothing to save it does nothing at all. -/
  skipped : call.employer.manager.autoSave = false ∨ call.employer.manager.current = none →
    call.diaryLine.2 = .ticked none ∧ call.tick.store = call.store
  /-- If the save fails the manifest stays as it is. -/
  failed : ∀ why, call.diaryLine.2 = .failed why →
    texts call.tick.store Manifest.key = texts call.store Manifest.key
  /-- Otherwise, if the manifest can be read and no access fails, a save is added: it has no title
  and is of the snapshot that is held, and those are given up that are more than are to be kept. It
  is made indeed, and it alone, exactly if it is not given up at once itself and the manifest is not
  given up with an entry of its name. One that is new is given up exactly if as many later ones are
  listed as are kept, and the manifest only if it lists its own key. -/
  saved : ∀ s manifest, call.employer.manager.autoSave = true →
    call.employer.manager.current = some s → Payload.IsFinite s →
    listing (texts call.store) = .ok manifest → ¬ call.Hindered →
    let keep := call.employer.manager.options.keep
    let id := Manager.saveId call.scene.ambient.next.1
    let time := call.scene.ambient.next.2.next.1.now
    let split := (manifest.push ⟨id, none, time⟩).evictOver keep
    let lost := split.1.map (·.id)
    call.diaryLine.2 = .ticked (some id) ∧
      (∃ payload, Payload.decode payload = .ok s ∧
        texts call.tick.store = addedTexts (texts call.store) id payload split.2 lost) ∧
      (Made manifest ⟨id, none, time⟩ s (texts call.tick.store) ↔
        id ∉ lost ∧ Manifest.key ∉ lost) ∧
      (id ∉ manifest.ids → (id ∈ lost ↔ keep ≤ Manifest.countLater manifest.entries time)) ∧
      (Manifest.key ∈ lost → Manifest.key ∈ manifest.ids)

omit [Viewed σ] in
/-- A tick leaves the **store** as the manager that the worker works for does. -/
theorem store_tick (h : House σ) :
    h.tick.store = (h.employer.manager.answer h.store h.scene.ambient .tick).store := by
  rw [tick]
  cases h.former <;> rfl

omit [Viewed σ] in
/-- What the **diary** says of a tick is the answer of that manager. -/
theorem diaryLine_snd (h : House σ) :
    h.diaryLine.2 = (h.employer.manager.answer h.store h.scene.ambient .tick).answer :=
  rfl

/-- **Every tick** has the effect that is described. -/
theorem tickEffect (call : House σ) : TickEffect call where
  skipped h := by
    rw [store_tick, diaryLine_snd]
    exact Manager.tick_skipped h
  failed why h := by
    rw [diaryLine_snd] at h
    rw [store_tick]
    exact Manager.tick_failed h
  saved s manifest hauto hcurrent hfinite hlisting hunhindered := by
    have hwatched : listing (texts (⟨call.store, false⟩ : Watched σ)) = .ok manifest := hlisting
    obtain ⟨hsame, hstore⟩ := call.employer.manager.erase_tick (⟨call.store, false⟩ : Watched σ)
      call.scene.ambient
    rw [store_tick, diaryLine_snd, ← hsame, ← hstore]
    intro keep id time split lost
    have hfree : id ≠ Manifest.key := Manager.saveId_ne_key _
    rcases Manager.tick_saved hwatched hauto hcurrent hfinite with
      hhindered | ⟨hanswer, payload, hdecode, htexts⟩
    · exact absurd hhindered hunhindered
    · refine ⟨hanswer, ⟨payload, hdecode, htexts⟩, ?_, fun hnew => ?_, fun hkey => ?_⟩
      · exact (iff_of_eq (congrArg (Made manifest ⟨id, none, time⟩ s) htexts)).trans
          (added_made_iff hlisting hdecode hfree keep)
      · exact Manifest.mem_evictOver_push_iff (e := ⟨id, none, time⟩) hnew keep
      · exact Manifest.key_mem_of_lost (e := ⟨id, none, time⟩) hfree hkey

end Ticks

/-! ### The schedule -/

/-- **Autosaves keep their schedule.** A worker is started in a house with any store, and the clock
goes on or leaps while anything is asked of the manager, whatever goes on at the bus and in the
engine, whoever is in charge, and whichever accesses fail. The diary has one line for each tick. The
times of the ticks are the same in any other house, also with a store of another kind, where the
worker is started at the same time and the clock is moved alike and the worker stopped alike,
whatever else happens there and whatever comes of the ticks. Until the worker is stopped, no more
ticks have been made by any time than intervals have passed, and none that was due is outstanding
when the clock is where the moves took it: the worker is due again later, one interval after its
last tick at the latest. After the stop there is no tick. At every tick the manifest can be read if
it could be when the worker was started.

What each tick does is its effect: nothing where autosave is off or there is nothing to save,
nothing to the manifest where it fails, and otherwise a save is added and others are given up for
it. That **does not always make** a save: the effect says exactly when one that no access hinders is
made. -/
theorem autosaves_keep_schedule {σ : Type} [Store σ] [Viewed σ] (h : House σ)
    (interval tolerance : Nat) (pos : 0 < interval) (happenings : List (Happening σ)) :
    let started := h.employ interval tolerance
    let calls := started.callsAll happenings
    (started.liveThrough happenings).diary = h.diary ++ calls.map diaryLine ∧
    (∀ (τ : Type) [Store τ] [Viewed τ] (other : House τ) (others : List (Happening τ)),
      other.clock = h.clock → moves others = moves happenings →
      ((other.employ interval tolerance).callsAll others).map clock = calls.map clock) ∧
    (∀ played, played <+: happenings → Move.stop ∉ moves played →
      let times := (started.callsAll played).map clock
      let now := h.clock + ((moves played).map Move.span).sum
      (∀ t, times.countP (· ≤ t) ≤ (t - h.clock) / interval) ∧
      (started.liveThrough played).clock = now ∧
      ∃ w, (started.liveThrough played).worker = some w ∧ now < w.due ∧
        w.due ≤ times.getLastD h.clock + interval) ∧
    (∀ call ∈ calls, TickEffect call) ∧
    (Readable (texts h.store) → ∀ call ∈ calls, Readable (texts call.store)) ∧
    ∀ before after, happenings = before ++ .move .stop :: after →
      calls = started.callsAll before := by
  intro started calls
  refine ⟨started.diary_liveThrough happenings, ?_, ?_, fun call _ => tickEffect call,
    fun hreadable => readable_callsAll (h := started) hreadable happenings, ?_⟩
  · intro τ _ _ other others hclock hmoves
    have hwatch : SameWatch (other.employ interval tolerance) started := by
      refine ⟨hclock.symm, ?_⟩
      simp only [started, employ, hclock]
    have hother := hwatch.callsAll others
    have hcalls := (⟨rfl, rfl⟩ : SameWatch started started).callsAll happenings
    rw [← hother, ← hcalls, hmoves]
  · intro played _ hgoing times now
    have hnow : (started.liveThrough played).clock = now := started.clock_liveThrough played
    have hrest : AtRest h.clock interval [] started :=
      ⟨.start h.clock interval tolerance pos, dif_pos pos,
        Worker.punctual_start h.clock tolerance pos, Nat.lt_add_of_pos_right pos⟩
    obtain ⟨w, hworker, hpunctual, hidle⟩ := hrest.liveThrough hgoing
    exact ⟨hpunctual.seldom, hnow, w, hworker, hnow ▸ hidle, hpunctual.due_le⟩
  · rintro before after rfl
    exact started.callsAll_stop before after

/-- One save is kept, and the one that is listed is dated ahead of the clock: what the first tick
saves **does not stay**. The other is deleted, a tick comes late and saves, one fails in an outage,
one comes with autosave off, and then the worker is stopped: four ticks, and one save without a
title. -/
theorem autosaves_keep_schedule_through_outage :
    let ahead : Time.Instant := ⟨⟨2999, 1, 1, by decide⟩, 0, 0, 0, 0, by decide⟩
    let listed : Manifest := { entries := [⟨"x", none, ahead⟩] }
    let s : Game.Snapshot := ⟨.opening "" 100 .epoch, {}⟩
    let h : House (Gated Memory) :=
      { store := { inner := { texts := ({} : Table _ _).put Manifest.key listed.text } }
        scene := { ambient := { moments := fun i => ⟨.epoch, Text.nat i⟩ } }
        manager := { options := { maxSaves := 1 }, current := some s, autoSave := true } }
    let started := h.employ 10 0
    let out (store : Gated Memory) : Gated Memory := { store with outage := .on .save none }
    let earlier : List (Happening (Gated Memory)) :=
      [.move (.wait 15), .affair (.ask (.delete "x")), .move (.jump 100),
        .affair (.outage out fun _ => rfl), .move (.wait 10),
        .affair (.ask .disableAutoSave), .move (.wait 10)]
    let happenings := earlier ++ .move .stop :: [.move (.wait 100)]
    let id := Manager.saveId ⟨.epoch, Text.nat 0⟩
    (started.liveThrough happenings).diary.map (·.1) = [10, 115, 125, 135] ∧
    (∀ call ∈ started.callsAll happenings, TickEffect call ∧ Readable (texts call.store)) ∧
    started.callsAll happenings = started.callsAll earlier ∧
    (∃ call later, started.callsAll happenings = call :: later ∧
      call.diaryLine.2 = .ticked (some id) ∧
      ¬ Made listed ⟨id, none, .epoch⟩ s (texts call.tick.store)) ∧
    (manifest (started.liveThrough happenings).store).1.toOption.map
      (·.entries.map (·.title)) = some [none] := by
  intro ahead listed s h started out earlier happenings id
  obtain ⟨hdiary, hsame, -, heffect, hreadable, hstop⟩ :=
    autosaves_keep_schedule h 10 0 (by decide) happenings
  have hlisting : listing (texts h.store) = .ok listed := by
    refine listing_of_text ?_ (UInt32.le_refl _)
    exact (Table.get?_put ..).trans (if_pos rfl)
  -- The ticks come when they come where nothing is saved and nothing else happens.
  have htimes : (started.callsAll happenings).map clock = [10, 115, 125, 135] := by
    let idle : House Memory := { store := {}, scene := h.scene, manager := {} }
    rw [← hsame Memory idle ((moves happenings).map .move) rfl rfl]
    decide +kernel
  refine ⟨?_, fun call hcall => ⟨heffect call hcall, hreadable ⟨listed, hlisting⟩ call hcall⟩,
    hstop earlier _ rfl, ?_, by decide +kernel⟩
  · rw [hdiary, List.map_append, List.map_map]
    exact (List.nil_append _).trans htimes
  -- The first call comes at 10, with nothing changed but the clock and the worker's next time.
  let w : Worker := .start 0 10 0 (by decide)
  let call : House (Gated Memory) := { started with clock := 10, worker := some (w.reschedule 10) }
  have hmove : Move.times started (.wait 15) = [10, 15] := by decide +kernel
  obtain ⟨others, hmoved⟩ : ∃ others, started.callsIn (.wait 15) = call :: others := by
    rw [callsIn, hmove, callsThrough, (work_of_due (w := w) rfl (by decide)).2]
    exact ⟨_, rfl⟩
  obtain ⟨later, hcalls⟩ : ∃ later, started.callsAll happenings = call :: later :=
    ⟨others ++ _, congrArg (· ++ _) hmoved⟩
  have hunhindered : ¬ call.Hindered := by
    rw [Hindered]
    decide +kernel
  obtain ⟨hticked, -, hmade, hlost, -⟩ :=
    (heffect call (hcalls ▸ List.mem_cons_self)).saved s listed rfl rfl ⟨rfl, rfl, rfl⟩ hlisting
      hunhindered
  refine ⟨call, later, hcalls, hticked, fun h => (hmade.1 h).1 ((hlost ?_).2 (by decide))⟩
  intro hmem
  have hx : id = "x" := List.mem_singleton.1 hmem
  have hchars := congrArg (fun text : String => text.toList.head?) hx
  simp [id, Manager.saveId, Manager.idMark] at hchars

end Guildkeep.House
