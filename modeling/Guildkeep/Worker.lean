/-!
# The Schedule of the Autosave Worker

A worker that is started with an interval is due one interval later. When it works it is due again
one interval after it was due. Only if it was late by more than is tolerated, it is due one interval
after it worked: what it missed it does not make up for.

## Main results

* `mem_dueBy_iff`: a worker that is never late works at the multiples of its interval, from its
  first time on.
* `due_lt_reschedule`, `due_reschedule_le`: the next time is **later** than the one before, and no
  more than one interval away.
-/

namespace Guildkeep

/-- A **worker**: its interval, which is not zero, and the next time at which it is due. -/
structure Worker where
  interval : Nat
  due : Nat
  /-- How late it may be without being put off. -/
  tolerance : Nat
  interval_pos : 0 < interval

namespace Worker

/-- A worker started at a time. -/
def start (now interval tolerance : Nat) (h : 0 < interval) : Worker :=
  ⟨interval, now + interval, tolerance, h⟩

/-- The worker after it worked, at a time at which it was **due**. -/
def reschedule (w : Worker) (now : Nat) : Worker :=
  { w with due := (if now ≤ w.due + w.tolerance then w.due else now) + w.interval }

/-- How often the worker is due by a time. -/
def timesBy (w : Worker) (time : Nat) : Nat :=
  if w.due ≤ time then (time - w.due) / w.interval + 1 else 0

/-- The times at which a worker that is never late works by a time, in order. -/
def dueBy (w : Worker) (time : Nat) : List Nat :=
  (List.range (w.timesBy time)).map fun k => w.due + w.interval * k

/-! ### Laws -/

/-- How often it is due is said by the interval. -/
theorem lt_timesBy_iff (w : Worker) (time k : Nat) :
    k < w.timesBy time ↔ w.due + w.interval * k ≤ time := by
  rw [timesBy]
  split
  · rw [Nat.lt_succ_iff, Nat.le_div_iff_mul_le w.interval_pos, Nat.mul_comm]
    omega
  · have := Nat.le_add_right w.due (w.interval * k)
    omega

/-- The times at which a worker works are those **multiples** of its interval, from its first time
on, that have come. -/
theorem mem_dueBy_iff (w : Worker) (time t : Nat) :
    t ∈ w.dueBy time ↔ t ≤ time ∧ ∃ k, t = w.due + w.interval * k := by
  simp only [dueBy, List.mem_map, List.mem_range, lt_timesBy_iff]
  constructor
  · rintro ⟨k, hk, rfl⟩
    exact ⟨hk, k, rfl⟩
  · rintro ⟨ht, k, rfl⟩
    exact ⟨k, ht, rfl⟩

/-- The next time is at least one interval **later** than the one before. -/
theorem le_due_reschedule (w : Worker) (now : Nat) :
    w.due + w.interval ≤ (w.reschedule now).due := by
  rw [reschedule]
  dsimp only
  split <;> omega

/-- The next time is **later** than the one before. -/
theorem due_lt_reschedule (w : Worker) (now : Nat) : w.due < (w.reschedule now).due := by
  have hpos := w.interval_pos
  have hlater := w.le_due_reschedule now
  omega

/-- The next time is no more than one interval **away**. -/
theorem due_reschedule_le {w : Worker} {now : Nat} (h : w.due ≤ now) :
    (w.reschedule now).due ≤ now + w.interval := by
  rw [reschedule]
  dsimp only
  split <;> omega

end Worker

end Guildkeep
