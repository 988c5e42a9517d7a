import Guildkeep.Proofs.Bus.Fanout
import Mathlib.Data.List.Forall2
import Mathlib.Data.List.Perm.Basic

/-!
# One Publication

A publication gathers the handlers that are live, goes round until all of them have ended, and then
reports the failures. What is noticed meanwhile depends on those handlers only: what they subscribe
and dispose shows on the roll, and in the next publication.

## Conventions

The rounds are never counted out. That there are enough of them follows from the pauses of all who
are gathered, which no handler's pauses exceed.

What is handed to the reporter is a message and the event. Which endings are reported, and in which
words, is said here without the bus.

## Main results

* `Delivered`: what is noticed when an event is **delivered**.
* `Ending.report?_eq`: what the bus makes of an ending is what is to be **reported** of it.
* `Scene.settle_muster`: all turns of a delivery, from the first to the last.
* `Scene.publish_silent`: a publication to silent handlers is **delivered**, and the scene keeps to
  the roll.
-/

namespace Guildkeep

/-! ### What is noticed -/

namespace Notice

/-- The handler that started on an event. -/
def started? : Notice → Option (String × Event)
  | started handler e => some (handler, e)
  | _ => none

/-- The handler that came to its end. -/
def finished? : Notice → Option (String × Event)
  | finished handler e _ => some (handler, e)
  | _ => none

/-- What was handed to the reporter: a message, and the event. -/
def reported? : Notice → Option (String × Event)
  | reported why e => some (why.message, e)
  | _ => none

end Notice

namespace Bus

/-- Whether a handler with that ending **starts** at all. -/
def Ending.starts : Ending → Bool
  | succeeds | fails _ | panics _ => true
  | panicsAtOnce _ => false

/-- The message that is to be **reported** of an ending: of a failure in its own words, and of a
breakdown with its text, if it has one. -/
def Ending.report? : Ending → Option String
  | succeeds => none
  | fails why => some why
  | panics (some text) | panicsAtOnce (some text) => some ("event handler panicked: " ++ text)
  | panics none | panicsAtOnce none => some "event handler panicked: non-string panic payload"

/-- Whoever does not start breaks down **at once**. -/
theorem Ending.isAtOnce_eq (ending : Ending) : ending.isAtOnce = !ending.starts := by
  cases ending <;> rfl

/-- What the bus makes of an ending is what is to be **reported** of it. -/
theorem Ending.report?_eq (ending : Ending) :
    ending.report? = ending.failure?.map Failure.message := by
  cases ending with
  | succeeds | fails why => rfl
  | panics text | panicsAtOnce text => cases text <;> rfl

/-- The handlers that **start** on an occasion, with the event. -/
def starting (o : Occasion) (hs : List Handler) : List (String × Event) :=
  (hs.filter fun h => (h.ending o).starts).map fun h => (h.name, o.event)

/-- What is to be **reported** of handlers on an occasion, in order. -/
def reports (o : Occasion) (hs : List Handler) : List (String × Event) :=
  (hs.filterMap fun h => (h.ending o).report?).map fun message => (message, o.event)

/-- What is noticed when an event is **delivered** to handlers on an occasion. Each of them starts
once, in order, unless it breaks down at once, and comes to its end once. Then nothing is noticed
but the reports, one for each handler that failed or broke down, in order, and none of them
sooner. -/
def Delivered (o : Occasion) (hs : List Handler) (notices : List Notice) : Prop :=
  ∃ during after, notices = during ++ after ∧
    during.filterMap Notice.started? = starting o hs ∧
    (during.filterMap Notice.finished?).Perm (starting o hs) ∧
    during.filterMap Notice.reported? = [] ∧
    after.map Notice.reported? = (reports o hs).map some

/-- Those who start are those who do not break down **at once**. -/
theorem starting_eq_flatMap (o : Occasion) (hs : List Handler) :
    starting o hs =
      hs.flatMap fun h => if (h.ending o).isAtOnce then [] else [(h.name, o.event)] := by
  induction hs with
  | nil => rfl
  | cons h hs ih =>
    rw [List.flatMap_cons, ← ih, starting, List.filter_cons, Ending.isAtOnce_eq]
    cases (h.ending o).starts <;> rfl

/-- What the bus reports is what is to be **reported**. -/
theorem map_reported (o : Occasion) (hs : List Handler) :
    ((hs.filterMap fun h => (h.ending o).failure?).map (Notice.reported · o.event)).map
      Notice.reported? = (reports o hs).map some := by
  rw [reports]
  simp only [Ending.report?_eq, List.map_filterMap, Option.map_map]
  rfl

/-- What an ended work comes to is its failure. -/
theorem filterMap_failure? {ws : List Work} (h : ∀ w ∈ ws, Task.ended w = true) :
    ws.filterMap Work.failure? = (ws.map Work.outcome).filterMap id := by
  rw [List.filterMap_map]
  refine List.filterMap_congr fun w hw => ?_
  obtain ⟨failure, rfl⟩ := Work.exists_done (h w hw)
  rfl

end Bus

namespace Scene

open Bus

/-! ### One publication -/

/-- Reports are noticed **last**. -/
theorem log_report (s : Scene) (e : Event) (works : List Work) :
    (s.report e works).log = s.log ++ (works.filterMap Work.failure?).map (.reported · e) := by
  rw [report]
  induction works.filterMap Work.failure? generalizing s with
  | nil => exact (List.append_nil _).symm
  | cons why failures ih =>
    rw [List.foldl_cons, ih, log_note, List.append_assoc]
    rfl

/-- To report is not to subscribe. -/
theorem Tracks.report {r : Roll} {s : Scene} (h : Tracks r s) (e : Event) (works : List Work) :
    Tracks r (s.report e works) := by
  rw [Scene.report]
  induction works.filterMap Work.failure? generalizing s with
  | nil => exact h
  | cons why failures ih => exact ih (h.of_eq rfl rfl rfl)

/-- Everyone who is gathered is called. -/
theorem ready_muster (s : Scene) (e : Event) : (s.muster e).1.Ready := by
  intro _
  refine ⟨List.nodup_range, fun i => ?_⟩
  change i ∈ List.range (s.bus.handlers.map fun h => Work.fresh h.2 ⟨s.circles, e⟩).length ↔ _
  rw [List.mem_range]
  constructor
  · intro hi
    exact ⟨_, List.getElem?_eq_getElem hi, by simp [Task.ended]⟩
  · rintro ⟨w, hw, -⟩
    exact (List.getElem?_eq_some_iff.1 hw).1

/-- What is counted over all works is no less than the **pauses** of each. -/
theorem pauses_le_foldr {w : Work} :
    ∀ {works : List Work}, w ∈ works →
      w.pauses ≤ works.foldr (fun w rounds => w.pauses + rounds) 0
  | _ :: _, .head _ => Nat.le_add_right ..
  | _ :: _, .tail _ hw => Nat.le_trans (pauses_le_foldr hw) (Nat.le_add_left ..)

/-- There are **rounds enough** for the pauses of every handler. -/
theorem roundsEnough_eq_succ (circle : Circle Work) :
    ∃ rounds, roundsEnough circle = rounds + 1 ∧ ∀ w ∈ circle.members, w.pauses ≤ rounds := by
  obtain ⟨more, hmore⟩ : ∃ more, 2 ^ (32 : Nat) = more + 1 :=
    Nat.exists_eq_add_one.2 (Nat.pow_pos (by decide))
  exact ⟨_ + more, congrArg (_ + ·) hmore, fun w hw =>
    Nat.le_trans (pauses_le_foldr hw) (Nat.le_add_right ..)⟩

/-- In the first turns handlers **start**, each of them once, in order. -/
theorem started_opening (o : Occasion) (hs : List Handler) :
    (hs.flatMap (opening o)).filterMap Notice.started? = starting o hs := by
  rw [List.filterMap_flatMap, starting_eq_flatMap]
  congr 1
  funext h
  rw [opening]
  split
  · rfl
  · split <;> rfl

/-- Whoever starts comes to its end once, in the first turn or later. -/
theorem finished_opening_closing (o : Occasion) (hs : List Handler) :
    ((hs.flatMap (opening o)).filterMap Notice.finished? ++
      ((hs.map fun h => (Work.fresh h o).next).flatMap Work.closing).filterMap
        Notice.finished?).Perm (starting o hs) := by
  rw [List.filterMap_flatMap, List.filterMap_flatMap, List.flatMap_map, starting_eq_flatMap]
  refine (List.flatMap_append_perm hs _ _).trans (List.Perm.of_eq ?_)
  congr 1
  funext h
  rw [opening, Work.next]
  cases (h.ending o).isAtOnce with
  | true => rfl
  | false =>
    by_cases hpauses : h.pauses o = 0
    · simp only [hpauses, decide_true, Bool.or_true, if_true]
      rfl
    · simp only [hpauses, decide_false, Bool.or_false, if_false]
      rfl

/-- What is still to be noticed of handlers that have begun is only that they **finish**. -/
theorem of_mem_closing {ws : List Work} {n : Notice} (h : n ∈ ws.flatMap Work.closing) :
    n.started? = none ∧ n.reported? = none := by
  obtain ⟨w, -, hn⟩ := List.mem_flatMap.1 h
  cases w with
  | pausing h e left =>
    obtain rfl := List.mem_singleton.1 hn
    exact ⟨rfl, rfl⟩
  | done | fresh | awaiting => cases hn

/-- Nothing is **reported** in the first turns. -/
theorem reported_opening (o : Occasion) (hs : List Handler) :
    (hs.flatMap (opening o)).filterMap Notice.reported? = [] := by
  rw [List.filterMap_flatMap]
  refine List.flatMap_eq_nil_iff.2 fun h _ => ?_
  rw [opening]
  split
  · rfl
  · split <;> rfl

/-- Who is gathered has a turn in the order of the gathering. -/
theorem order_muster (s : Scene) (e : Event) :
    (s.muster e).1.order = List.range' 0 s.bus.handlers.length := by
  rw [Circle.order, muster, gather, Circle.gather, List.length_map, ← List.range_eq_range']
  exact ite_self _

/-- Who is gathered are those who are **live**. -/
theorem Tracks.members_muster {r : Roll} {s : Scene} (h : Tracks r s) (e : Event) :
    (s.muster e).1.members = (r.live.map (·.2)).map (Work.fresh · ⟨r.published, e⟩) := by
  rw [← h.handlers, ← h.circles, List.map_map]
  rfl

/-- Nothing is still to be noticed of those who have ended. -/
theorem closing_of_ended {ws : List Work} (h : ∀ w ∈ ws, Task.ended w = true) :
    ws.flatMap Work.closing = [] := by
  refine List.flatMap_eq_nil_iff.2 fun w hw => ?_
  obtain ⟨failure, rfl⟩ := Work.exists_done (h w hw)
  rfl

/-- The **first round** of a delivery. -/
theorem round_muster {r : Roll} {s : Scene} (h : Tracks r s) (e : Event) (seat : Seat) :
    let t := round seat (s.muster e).1 (s.muster e).2
    let hs := r.live.map (·.2)
    let o : Occasion := ⟨r.published, e⟩
    t.1.members = hs.map (fun h => (Work.fresh h o).next) ∧ t.1.Ready ∧
      Tracks (r.deliver e) t.2 ∧ t.2.log = s.log ++ hs.flatMap (opening o) := by
  have hmembers := h.members_muster e
  have hsilent := h.sound.silent_live
  have hplain : ∀ w ∈ (s.muster e).1.members, w.IsPlain := by
    intro w hw
    rw [hmembers] at hw
    obtain ⟨g, hg, rfl⟩ := List.mem_map.1 hw
    exact hsilent g hg
  obtain ⟨hnext, hready, hscene⟩ := round_plain seat hplain (ready_muster s e) (s.muster e).2
  have hfirst := first_turns ((s.muster e).1.seatOf seat) [] hsilent ⟨r.published, e⟩ (h.muster e)
  rw [List.length_nil, List.nil_append, List.length_map, ← h.handlers, ← order_muster s e,
    h.handlers, ← hmembers] at hfirst
  refine ⟨?_, hready, ?_, ?_⟩
  · rw [hnext, hmembers, List.map_map]
    rfl
  · rw [hscene]
    exact hfirst.1.of_eq rfl rfl rfl
  · rw [hscene]
    exact hfirst.2

/-- After their first turns silent handlers have **begun**, and come to what they would have come
to; if none pauses more often than that, so many turns are left at most. -/
theorem works_begun (o : Occasion) {hs : List Handler} (hsilent : ∀ h ∈ hs, h.IsSilent)
    {rounds : Nat} (hpauses : ∀ h ∈ hs, h.pauses o ≤ rounds) :
    let ws := hs.map fun h => (Work.fresh h o).next
    (∀ w ∈ ws, w.HasBegun ∧ w.turns ≤ rounds) ∧
      ws.map Work.outcome = hs.map fun h => (h.ending o).failure? := by
  have hplain (h : Handler) (hh : h ∈ hs) : (Work.fresh h o).IsPlain := hsilent h hh
  constructor
  · intro w hw
    obtain ⟨h, hh, rfl⟩ := List.mem_map.1 hw
    exact ⟨(hplain h hh).hasBegun_next,
      Work.turns_next_le (.fresh h o) (Nat.succ_le_succ (hpauses h hh))⟩
  · rw [List.map_map]
    exact List.map_congr_left fun h hh => (hplain h hh).outcome_next

/-- All turns of a delivery, from the first to the last: the roll is as the handlers leave it,
whoever starts comes to its end, and nothing is reported. -/
theorem settle_muster {r : Roll} {s : Scene} (h : Tracks r s) (e : Event) (seat : Seat) :
    let t := settle seat (roundsEnough (s.muster e).1) (s.muster e).1 (s.muster e).2
    let hs := r.live.map (·.2)
    let o : Occasion := ⟨r.published, e⟩
    t.1.members.map Work.outcome = hs.map (fun h => (h.ending o).failure?) ∧
      t.1.hasEnded = true ∧ Tracks (r.deliver e) t.2 ∧
      ∃ late, t.2.log = s.log ++ (hs.flatMap (opening o) ++ late) ∧
        late.Perm ((hs.map fun h => (Work.fresh h o).next).flatMap Work.closing) := by
  intro t hs o
  have hmembers : (s.muster e).1.members = hs.map (Work.fresh · o) := h.members_muster e
  obtain ⟨rounds, hrounds, hpauses⟩ := roundsEnough_eq_succ (s.muster e).1
  replace hpauses : ∀ g ∈ hs, g.pauses o ≤ rounds := fun g hg =>
    hpauses (.fresh g o) (hmembers ▸ List.mem_map_of_mem hg)
  have ht : t = settle seat (rounds + 1) (s.muster e).1 (s.muster e).2 := by
    rw [← hrounds]
  rw [ht]
  cases hended : (s.muster e).1.hasEnded with
  | true =>
    -- Nobody is subscribed.
    have hnil : hs = [] := by
      rw [Circle.hasEnded, hmembers] at hended
      cases hhs : hs with
      | nil => rfl
      | cons g hs =>
        rw [hhs] at hended
        cases hended
    rw [settle_of_ended hended]
    dsimp only
    have hlive : r.deliver e = r.publish := by
      rw [Roll.deliver, show r.live.map (·.2) = [] from hnil]
      rfl
    rw [hmembers, hnil, hlive]
    exact ⟨rfl, hended, h.muster e, [], (List.append_nil _).symm, List.Perm.refl _⟩
  | false =>
    rw [settle_succ seat rounds hended]
    obtain ⟨hnext, hready, htracks, hlog⟩ := round_muster h e seat
    generalize round seat (s.muster e).1 (s.muster e).2 = t at hnext hready htracks hlog ⊢
    obtain ⟨hworks, hfailures⟩ := works_begun o h.sound.silent_live hpauses
    rw [← hnext] at hworks hfailures
    have hsettling :
        Settling (r.deliver e) t.2.log (t.1.members.flatMap Work.closing) t.1.members t.2 :=
      ⟨fun w hw => (hworks w hw).1, htracks, [], (List.append_nil _).symm, List.Perm.refl _⟩
    obtain ⟨houtcomes, hended', -, htracks', late, hlate, hperm⟩ :=
      settle_begun seat hsettling hready fun w hw => (hworks w hw).2
    rw [closing_of_ended (List.all_eq_true.1 hended'), List.append_nil, hnext] at hperm
    refine ⟨houtcomes.trans hfailures, hended', htracks', late, ?_, hperm⟩
    rw [hlate, hlog, List.append_assoc]

/-- A **publication** to silent handlers: what each of them does to the roll, and what is
noticed. -/
theorem publish_silent {r : Roll} {s : Scene} (h : Tracks r s) (e : Event) (seat : Seat) :
    Tracks (r.deliver e) (s.publish e seat) ∧
      ∃ notices, (s.publish e seat).log = s.log ++ notices ∧
        Delivered ⟨r.published, e⟩ (r.live.map (·.2)) notices := by
  have hsettled := settle_muster h e seat
  rw [publish]
  generalize settle seat (roundsEnough (s.muster e).1) (s.muster e).1 (s.muster e).2 = t at hsettled
  generalize r.live.map (·.2) = hs at hsettled ⊢
  obtain ⟨houtcomes, hended, htracks, late, hlog, hperm⟩ := hsettled
  have hlate : ∀ n ∈ late, n.started? = none ∧ n.reported? = none :=
    fun n hn => of_mem_closing (hperm.mem_iff.1 hn)
  have hfailures : t.1.members.filterMap Work.failure? =
      hs.filterMap fun h => (h.ending ⟨r.published, e⟩).failure? := by
    rw [filterMap_failure? (List.all_eq_true.1 hended), houtcomes, List.filterMap_map]
    rfl
  refine ⟨htracks.report e _, _, ?_, hs.flatMap (opening ⟨r.published, e⟩) ++ late, _, rfl, ?_, ?_,
    ?_, map_reported ⟨r.published, e⟩ hs⟩
  · rw [log_report, hfailures, hlog, List.append_assoc]
  · rw [List.filterMap_append, started_opening,
      List.filterMap_eq_nil_iff.2 fun n hn => (hlate n hn).1, List.append_nil]
  · rw [List.filterMap_append]
    exact ((hperm.filterMap _).append_left _).trans (finished_opening_closing _ hs)
  · rw [List.filterMap_append, reported_opening,
      List.filterMap_eq_nil_iff.2 fun n hn => (hlate n hn).2, List.append_nil]

end Scene

end Guildkeep
