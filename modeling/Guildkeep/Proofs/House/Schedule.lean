import Guildkeep.House

/-!
# The Worker Keeps Its Schedule

When a worker works is settled by its clock. Whatever comes of its ticks, whoever is in charge and
whatever the store does meanwhile, the times of the ticks are the same; a worker never works more
often than once in an interval, and when the clock has moved nothing that was due is left undone.

## Conventions

A call is a house just before a tick. Work takes no time: the clock stands still until all is done
that is due.

## Main results

* `diary_move`: the diary has **one entry for each call**, and no others.
* `clock_callsThrough_stages`: on a clock that does not leap **no call is late**.
* `SameWatch.move`: in two houses with the same clock and worker the calls come at the **same
  times**.
* `Punctual`, `AtRest.move`: how often a worker works, and when it is next due.
* `move_of_none`: without a worker there are **no calls**.
-/

namespace Guildkeep

/-! ### Punctual workers -/

/-- A worker that was started at a time and has worked at some `times` since is **punctual**: it did
not work more often than its interval allows, and is due when its interval has passed. -/
structure Worker.Punctual (started interval : Nat) (times : List Nat) (w : Worker) : Prop where
  interval_eq : w.interval = interval
  due_ge : started + (times.length + 1) * interval ≤ w.due
  due_le : w.due ≤ times.getLastD started + interval
  seldom : ∀ t, times.countP (· ≤ t) ≤ (t - started) / interval

namespace Worker

variable {started interval now : Nat} {times : List Nat} {w : Worker}

/-- A worker that was just started is **punctual**. -/
theorem punctual_start (started tolerance : Nat) (pos : 0 < interval) :
    Punctual started interval [] (start started interval tolerance pos) where
  interval_eq := rfl
  due_ge := by
    rw [List.length_nil, Nat.zero_add, Nat.one_mul]
    exact Nat.le_refl _
  due_le := Nat.le_refl _
  seldom _ := Nat.zero_le _

/-- A worker that works **when it is due** stays punctual. -/
theorem Punctual.reschedule (h : Punctual started interval times w) (hdue : w.due ≤ now) :
    Punctual started interval (times ++ [now]) (w.reschedule now) where
  interval_eq := h.interval_eq
  due_ge := by
    have hge := h.due_ge
    have hlater := w.le_due_reschedule now
    rw [h.interval_eq] at hlater
    rw [List.length_append, List.length_singleton, Nat.succ_mul]
    omega
  due_le := by
    have hle := due_reschedule_le hdue
    rw [h.interval_eq] at hle
    rwa [List.getLastD_concat]
  seldom t := by
    have hpos : 0 < interval := h.interval_eq ▸ w.interval_pos
    have hge := h.due_ge
    rw [List.countP_append, List.countP_singleton]
    by_cases ht : now ≤ t
    · -- All that came before came within one interval less.
      have hall : times.countP (· ≤ t) ≤ times.length := List.countP_le_length
      have hroom : times.length + 1 ≤ (t - started) / interval := by
        rw [Nat.le_div_iff_mul_le hpos]
        omega
      rw [if_pos (decide_eq_true ht)]
      omega
    · rw [if_neg (by simpa using ht)]
      exact h.seldom t

end Worker

namespace House

variable {σ τ : Type} [Store σ] [Store τ]

/-! ### Calls -/

/-- The **calls** in the course of the work that is due. -/
def calls (h : House σ) : List (House σ) :=
  match _ : h.worker with
  | none => []
  | some w => if _ : w.due ≤ h.clock then h.withNext w :: calls (h.serve w) else []
termination_by h.arrears
decreasing_by exact arrears_serve ‹_› ‹_›

/-- The calls while the clock goes through some times. -/
def callsThrough (h : House σ) : List Nat → List (House σ)
  | [] => []
  | time :: times => calls { h with clock := time } ++ callsThrough (h.jumpTo time) times

/-- What is entered in the **diary** for a call. -/
def diaryLine (call : House σ) : Nat × Save.Answer :=
  (call.clock, (call.employer.ask call.store .tick).1)

section

variable {h : House σ} {w : Worker}

/-- Without a worker **no work** is done. -/
theorem work_of_none (hworker : h.worker = none) : h.work = h ∧ h.calls = [] := by
  rw [work, calls]
  constructor <;> split <;> simp_all

/-- A worker that is not due does **no work**. -/
theorem work_of_idle (hworker : h.worker = some w) (hidle : ¬ w.due ≤ h.clock) :
    h.work = h ∧ h.calls = [] := by
  rw [work, calls]
  constructor <;> split <;> grind

/-- A worker that is due does **one piece** of work, and then what is due after it. -/
theorem work_of_due (hworker : h.worker = some w) (hdue : w.due ≤ h.clock) :
    h.work = (h.serve w).work ∧ h.calls = h.withNext w :: (h.serve w).calls := by
  constructor
  · rw [work]
    split <;> simp_all
  · rw [calls]
    split <;> simp_all

end

/-! ### The diary -/

/-- A tick has **one line** in the diary. -/
theorem diary_tick (h : House σ) : h.tick.diary = h.diary ++ [h.diaryLine] := by
  rw [tick]
  cases h.former <;> rfl

/-- Work has **one line in the diary** for each of its calls. -/
theorem diary_work (h : House σ) : h.work.diary = h.diary ++ h.calls.map diaryLine := by
  induction h using work.induct with
  | case1 h hworker =>
    obtain ⟨hwork, hcalls⟩ := work_of_none hworker
    rw [hwork, hcalls, List.map_nil, List.append_nil]
  | case2 h w hworker hdue ih =>
    obtain ⟨hwork, hcalls⟩ := work_of_due hworker hdue
    rw [hwork, hcalls, ih, serve, diary_tick, List.map_cons, List.append_assoc]
    rfl
  | case3 h w hworker hidle =>
    obtain ⟨hwork, hcalls⟩ := work_of_idle hworker hidle
    rw [hwork, hcalls, List.map_nil, List.append_nil]

/-- The diary has **one entry for each call**, and no others. -/
theorem diary_through (h : House σ) (times : List Nat) :
    (times.foldl jumpTo h).diary = h.diary ++ (h.callsThrough times).map diaryLine := by
  induction times generalizing h with
  | nil => exact (List.append_nil _).symm
  | cons time times ih =>
    rw [List.foldl_cons, ih, callsThrough, List.map_append, ← List.append_assoc, jumpTo, diary_work]

/-! ### The clock -/

/-- A piece of work does **not move** the clock. -/
theorem clock_serve (h : House σ) (w : Worker) : (h.serve w).clock = h.clock :=
  clock_tick _

/-- After a piece of work the worker has its **next time**. -/
theorem worker_serve (h : House σ) (w : Worker) :
    (h.serve w).worker = some (w.reschedule h.clock) :=
  worker_tick _

/-- Work does **not move** the clock. -/
theorem clock_work (h : House σ) : h.work.clock = h.clock := by
  induction h using work.induct with
  | case1 h hworker => rw [(work_of_none hworker).1]
  | case2 h w hworker hdue ih => rw [(work_of_due hworker hdue).1, ih, clock_serve]
  | case3 h w hworker hidle => rw [(work_of_idle hworker hidle).1]

/-- The clock ends at the **last** of the times that it goes through. -/
theorem clock_through (h : House σ) (times : List Nat) :
    (times.foldl jumpTo h).clock = times.getLastD h.clock := by
  induction times generalizing h with
  | nil => rfl
  | cons time times ih => rw [List.foldl_cons, ih, List.getLastD_cons, jumpTo, clock_work]

/-! ### Two houses -/

/-- Two houses with the **same watch**: their clocks and their workers do not differ. All else
may. -/
structure SameWatch (a : House σ) (b : House τ) : Prop where
  clock : b.clock = a.clock
  worker : b.worker = a.worker

namespace SameWatch

variable {a : House σ} {b : House τ}

/-- After one piece of work in each, two houses have the **same watch**. -/
theorem serve (h : SameWatch a b) (w : Worker) : SameWatch (a.serve w) (b.serve w) where
  clock := by rw [clock_serve, clock_serve, h.clock]
  worker := by rw [worker_serve, worker_serve, h.clock]

/-- Work is done at the **same times** in two houses with the same watch, and leaves the same
watch. -/
theorem work (h : SameWatch a b) :
    SameWatch a.work b.work ∧ b.calls.map House.clock = a.calls.map House.clock := by
  induction a using House.work.induct generalizing b with
  | case1 a hworker =>
    obtain ⟨hwork, hcalls⟩ := work_of_none hworker
    obtain ⟨hwork', hcalls'⟩ := work_of_none (h.worker.trans hworker)
    rw [hwork, hcalls, hwork', hcalls']
    exact ⟨h, rfl⟩
  | case2 a w hworker hdue ih =>
    obtain ⟨hwork, hcalls⟩ := work_of_due hworker hdue
    obtain ⟨hwork', hcalls'⟩ := work_of_due (h.worker.trans hworker) (h.clock ▸ hdue)
    obtain ⟨hlater, htimes⟩ := ih (h.serve w)
    rw [hwork, hcalls, hwork', hcalls', List.map_cons, List.map_cons, htimes]
    exact ⟨hlater, congrArg (· :: _) h.clock⟩
  | case3 a w hworker hidle =>
    obtain ⟨hwork, hcalls⟩ := work_of_idle hworker hidle
    obtain ⟨hwork', hcalls'⟩ := work_of_idle (h.worker.trans hworker) (h.clock ▸ hidle)
    rw [hwork, hcalls, hwork', hcalls']
    exact ⟨h, rfl⟩

/-- In houses with the same watch the calls come at the **same times**. -/
theorem through (h : SameWatch a b) (times : List Nat) :
    SameWatch (times.foldl jumpTo a) (times.foldl jumpTo b) ∧
      (b.callsThrough times).map House.clock = (a.callsThrough times).map House.clock := by
  induction times generalizing a b with
  | nil => exact ⟨h, rfl⟩
  | cons time times ih =>
    have hset : SameWatch { a with clock := time } { b with clock := time } := ⟨rfl, h.worker⟩
    obtain ⟨hnow, hcalls⟩ := hset.work
    obtain ⟨hlater, hothers⟩ := ih hnow
    refine ⟨hlater, ?_⟩
    rw [callsThrough, callsThrough, List.map_append, List.map_append, hcalls]
    exact congrArg _ hothers

end SameWatch

/-! ### Punctuality -/

/-- A house whose worker was started at a time and has worked at some `times` since is **at rest**
if nothing is due. -/
def AtRest (started interval : Nat) (times : List Nat) (h : House σ) : Prop :=
  ∃ w, h.worker = some w ∧ w.Punctual started interval times ∧ h.clock < w.due

section

variable {started interval : Nat} {times : List Nat} {h : House σ} {w : Worker}

/-- A punctual worker that has done its work is **at rest**. -/
theorem work_atRest (hworker : h.worker = some w) (hpunctual : w.Punctual started interval times) :
    AtRest started interval (times ++ h.calls.map clock) h.work := by
  induction h using work.induct generalizing w times with
  | case1 h hnone => cases hnone.symm.trans hworker
  | case2 h w' hworker' hdue ih =>
    obtain rfl := Option.some.inj (hworker.symm.trans hworker')
    obtain ⟨hwork, hcalls⟩ := work_of_due hworker hdue
    have hlater := ih (worker_serve h w) (hpunctual.reschedule hdue)
    rw [hwork, hcalls, List.map_cons]
    rwa [List.append_assoc] at hlater
  | case3 h w' hworker' hidle =>
    obtain rfl := Option.some.inj (hworker.symm.trans hworker')
    obtain ⟨hwork, hcalls⟩ := work_of_idle hworker hidle
    rw [hwork, hcalls, List.map_nil, List.append_nil]
    exact ⟨w, hworker, hpunctual, Nat.not_le.1 hidle⟩

/-- Through whatever times the clock goes, **nothing is left** that is due. -/
theorem AtRest.through (hrest : AtRest started interval times h) (through : List Nat) :
    AtRest started interval (times ++ (h.callsThrough through).map clock)
      (through.foldl jumpTo h) := by
  induction through generalizing times h with
  | nil =>
    rw [callsThrough, List.map_nil, List.append_nil]
    exact hrest
  | cons time through ih =>
    obtain ⟨w, hworker, hpunctual, -⟩ := hrest
    have hnow := work_atRest (h := { h with clock := time }) hworker hpunctual
    rw [callsThrough, List.map_append, ← List.append_assoc]
    exact ih hnow

/-! ### A clock that does not leap -/

/-- A worker that works **in time** works once, and is due one interval later. -/
theorem work_in_time (hworker : h.worker = some w) (htime : h.clock = w.due) :
    h.work = h.serve w ∧ h.calls = [h.withNext w] ∧
      (h.serve w).worker = some { w with due := w.due + w.interval } := by
  have hpos := w.interval_pos
  have hnext : (h.serve w).worker = some { w with due := w.due + w.interval } := by
    rw [worker_serve, htime, Worker.reschedule, if_pos (Nat.le_add_right ..)]
  have hidle : ¬ w.due + w.interval ≤ (h.serve w).clock := by
    rw [clock_serve]
    omega
  obtain ⟨hwork, hcalls⟩ := work_of_due hworker (Nat.le_of_eq htime.symm)
  obtain ⟨hrest, hnone⟩ := work_of_idle hnext hidle
  exact ⟨hwork.trans hrest, hcalls.trans (congrArg _ hnone), hnext⟩

/-- The clock stops **whenever the worker is due**: then every call comes in time. -/
theorem clock_callsThrough_range {n last : Nat} (hworker : h.worker = some w)
    (hlast : last < w.due + w.interval * n) :
    (h.callsThrough ((List.range n).map (fun k => w.due + w.interval * k) ++ [last])).map clock =
      (List.range n).map fun k => w.due + w.interval * k := by
  induction n generalizing h w with
  | zero =>
    have hidle : ¬ w.due ≤ last := by omega
    rw [List.range_zero, List.map_nil, List.nil_append, callsThrough,
      (work_of_idle (h := { h with clock := last }) hworker hidle).2]
    rfl
  | succ n ih =>
    rw [Nat.mul_succ] at hlast
    have hshift : (List.range n).map ((fun k => w.due + w.interval * k) ∘ Nat.succ) =
        (List.range n).map fun k => w.due + w.interval + w.interval * k := by
      refine List.map_congr_left fun k _ => ?_
      rw [Function.comp_apply, Nat.mul_succ]
      omega
    rw [List.range_succ_eq_map, List.map_cons, List.map_map, hshift, List.cons_append, callsThrough,
      List.map_append]
    obtain ⟨hwork, hcalls, hnext⟩ :=
      work_in_time (h := { h with clock := w.due + w.interval * 0 }) hworker rfl
    have hothers := ih (h := h.jumpTo (w.due + w.interval * 0))
      (w := { w with due := w.due + w.interval }) (by rw [jumpTo, hwork, hnext])
      (by dsimp only; omega)
    rw [hcalls]
    exact congrArg _ hothers

/-- While the clock does not leap **no call is late**. -/
theorem clock_callsThrough_stages (hworker : h.worker = some w) (last : Nat) :
    (h.callsThrough (h.stages last)).map clock = w.dueBy last := by
  have hlast : last < w.due + w.interval * w.timesBy last :=
    Nat.not_le.1 fun hle => Nat.lt_irrefl _ ((w.lt_timesBy_iff last _).2 hle)
  rw [stages, hworker]
  exact clock_callsThrough_range hworker hlast

end

/-! ### Moves of the clock -/

/-- What is done with the **clock**, or that the worker is stopped. -/
inductive Move where
  | jump (span : Nat)
  | wait (span : Nat)
  | stop

section Moves

variable {σ τ : Type}

/-- How far a move takes the clock. -/
def Move.span : Move → Nat
  | jump span | wait span => span
  | stop => 0

/-- The times that the clock goes through in a move. -/
def Move.times (h : House σ) : Move → List Nat
  | jump span => [h.clock + span]
  | wait span => h.stages (h.clock + span)
  | stop => []

variable [Store σ] [Store τ]

/-- The house after a **move**. -/
def move (h : House σ) : Move → House σ
  | .jump span => h.jump span
  | .wait span => h.wait span
  | .stop => h.stopWorker

/-- The calls in the course of a move. -/
def callsIn (h : House σ) (m : Move) : List (House σ) :=
  h.callsThrough (m.times h)

/-- A move has **one line in the diary** for each of its calls. -/
theorem diary_move (h : House σ) (m : Move) :
    (h.move m).diary = h.diary ++ (h.callsIn m).map diaryLine := by
  cases m with
  | jump span => exact h.diary_through [h.clock + span]
  | wait span => exact h.diary_through (h.stages (h.clock + span))
  | stop => exact (List.append_nil _).symm

/-- A move takes the clock **as far as it says**. -/
theorem clock_move (h : House σ) (m : Move) : (h.move m).clock = h.clock + m.span := by
  cases m with
  | jump span => exact h.clock_through [h.clock + span]
  | wait span =>
    refine (h.clock_through (h.stages (h.clock + span))).trans ?_
    rw [stages]
    cases h.worker with
    | none => rfl
    | some w => exact List.getLastD_concat
  | stop => rfl

/-- In houses with the same watch a move has its calls at the **same times**. -/
theorem SameWatch.move {a : House σ} {b : House τ} (h : SameWatch a b) (m : Move) :
    SameWatch (a.move m) (b.move m) ∧
      (b.callsIn m).map House.clock = (a.callsIn m).map House.clock := by
  have htimes : m.times b = m.times a := by
    cases m with
    | jump | stop => simp only [Move.times, h.clock]
    | wait span => simp only [Move.times, stages, h.clock, h.worker]
  obtain ⟨hwatch, hcalls⟩ := h.through (m.times a)
  have hthrough : SameWatch ((m.times a).foldl jumpTo a) ((m.times b).foldl jumpTo b) := by
    rwa [htimes]
  refine ⟨?_, by rwa [callsIn, callsIn, htimes]⟩
  cases m with
  | jump span => exact hthrough
  | wait span => exact hthrough
  | stop => exact ⟨h.clock, rfl⟩

/-- After a move that is not the stop **nothing is left** that is due. -/
theorem AtRest.move {started interval : Nat} {times : List Nat} {h : House σ}
    (hrest : AtRest started interval times h) {m : Move} (hm : m ≠ .stop) :
    AtRest started interval (times ++ (h.callsIn m).map House.clock) (h.move m) := by
  cases m with
  | jump span => exact hrest.through [h.clock + span]
  | wait span => exact hrest.through (h.stages (h.clock + span))
  | stop => exact absurd rfl hm

/-- Where there is **no worker**, none comes by moving the clock, and no tick is made. -/
theorem through_of_none {h : House σ} (hworker : h.worker = none) (times : List Nat) :
    (times.foldl jumpTo h).worker = none ∧ h.callsThrough times = [] := by
  induction times generalizing h with
  | nil => exact ⟨hworker, rfl⟩
  | cons time times ih =>
    obtain ⟨hwork, hcalls⟩ := work_of_none (h := { h with clock := time }) hworker
    have hjump : h.jumpTo time = { h with clock := time } := hwork
    obtain ⟨hnone, hothers⟩ := ih (h := h.jumpTo time) (by rw [hjump]; exact hworker)
    exact ⟨hnone, by rw [callsThrough, hcalls, hothers, List.nil_append]⟩

/-- Where there is no worker a move makes **no calls**. -/
theorem move_of_none {h : House σ} (hworker : h.worker = none) (m : Move) :
    (h.move m).worker = none ∧ h.callsIn m = [] := by
  obtain ⟨hnone, hcalls⟩ := through_of_none hworker (m.times h)
  refine ⟨?_, hcalls⟩
  cases m with
  | jump span => exact hnone
  | wait span => exact hnone
  | stop => rfl

end Moves

end House

end Guildkeep
