import Guildkeep.Proofs.Bus.Roll
import Guildkeep.Proofs.Bus.Turns

/-!
# Turns of Silent Handlers

A silent handler does all that it does to the bus in its first turn. After that it only pauses, and
comes to its end when it has no pause left. So the first turns of a delivery, taken in order, make
the roll what it is afterwards; the turns that follow add nothing to the log but the ends of those
who paused.

In a large delivery only those have a turn who are called. Whoever goes on has given way, and is
called back before the next round, so nobody is left behind there either.

## Conventions

A work is plain if it is the work of a silent handler, and has begun if its first turn is over. What
is still to be noticed of such a work is its closing.

## Main results

* `first_turn`, `later_turn`: what **one turn** does to the roll and to the log.
* `round_plain`: in a **round** whoever has not ended has one turn.
* `first_turns`: the roll and the log after the **first turns** of all.
* `settle_begun`: from there on to the **end** of the delivery.
-/

namespace Guildkeep

namespace Bus

/-! ### Works of silent handlers -/

namespace Work

/-- A work of a **silent** handler. -/
def IsPlain : Work → Prop
  | done _ => True
  | fresh h _ => h.IsSilent
  | pausing .. => True
  | awaiting .. => False

/-- A work of a silent handler that has had its first turn. -/
def HasBegun : Work → Prop
  | done _ => True
  | pausing .. => True
  | _ => False

/-- What is left of the work of a silent handler after a turn. -/
def next : Work → Work
  | fresh h o =>
    if (h.ending o).isAtOnce || h.pauses o = 0 then done (h.ending o).failure?
    else pausing h o (h.pauses o)
  | pausing h o left => if left ≤ 1 then done (h.ending o).failure? else pausing h o (left - 1)
  | w => w

/-- The turns that are left to the end of the work of a silent handler. -/
def turns : Work → Nat
  | fresh h o => h.pauses o + 1
  | pausing _ _ left => max left 1
  | _ => 0

/-- What the work of a silent handler comes to. -/
def outcome : Work → Option Failure
  | done failure => failure
  | fresh h o => (h.ending o).failure?
  | pausing h o _ => (h.ending o).failure?
  | awaiting .. => none

/-- The end that is still to be noticed, of a handler that has begun. -/
def closing : Work → List Notice
  | pausing h o _ => [.finished h.name o.event (h.pauses o ≠ 0)]
  | _ => []

/-- A work that has begun is **plain**. -/
theorem HasBegun.isPlain {w : Work} (h : w.HasBegun) : w.IsPlain := by
  cases w with
  | done | pausing => trivial
  | fresh | awaiting => cases h

/-- Once a plain work has had a turn it **has begun**. -/
theorem IsPlain.hasBegun_next {w : Work} (h : w.IsPlain) : w.next.HasBegun := by
  cases w with
  | done => trivial
  | fresh h o =>
    rw [next]
    split <;> trivial
  | pausing h o left =>
    rw [next]
    split <;> trivial
  | awaiting => cases h

/-- Only works that are done **have ended**. -/
theorem exists_done {w : Work} (h : Task.ended w = true) : ∃ failure, w = done failure := by
  cases w with
  | done failure => exact ⟨failure, rfl⟩
  | fresh | pausing | awaiting => cases h

/-- A work that has ended **stays as it is**. -/
theorem next_of_ended {w : Work} (h : Task.ended w = true) : w.next = w := by
  obtain ⟨failure, rfl⟩ := exists_done h
  rfl

/-- A turn takes one of the turns that are left **away**. -/
theorem turns_next_le (w : Work) {n : Nat} (h : w.turns ≤ n + 1) : w.next.turns ≤ n := by
  cases w with
  | done | awaiting => exact Nat.zero_le n
  | fresh h o =>
    rw [next]
    split
    · exact Nat.zero_le n
    case isFalse hgoing =>
      simp only [Bool.or_eq_true, decide_eq_true_eq, not_or] at hgoing
      simp only [turns] at h ⊢
      omega
  | pausing h o left =>
    rw [next]
    split
    · exact Nat.zero_le n
    · simp only [turns] at h ⊢
      omega

/-- A work that has begun and has no turns left **has ended**. -/
theorem HasBegun.ended_of_turns {w : Work} (h : w.HasBegun) (hturns : w.turns = 0) :
    Task.ended w = true := by
  cases w with
  | done => rfl
  | pausing h o left =>
    simp only [turns] at hturns
    omega
  | fresh | awaiting => cases h

/-- A turn does not change **how a work comes out**. -/
theorem IsPlain.outcome_next {w : Work} (h : w.IsPlain) : w.next.outcome = w.outcome := by
  cases w with
  | done => rfl
  | fresh h o =>
    rw [next]
    split <;> rfl
  | pausing h o left =>
    rw [next]
    split <;> rfl
  | awaiting => cases h

end Work

end Bus

namespace Scene

open Bus

/-! ### Turns -/

/-- Actions change **who is subscribed**, and nothing else. -/
theorem acts_frame (s : Scene) (script : List Action) :
    ∃ bus held, script.foldl act s = { s with bus, held } := by
  induction script generalizing s with
  | nil => exact ⟨s.bus, s.held, rfl⟩
  | cons a script ih =>
    have hone : ∃ bus held, s.act a = { s with bus, held } := by
      cases a with
      | subscribe name script pauses ending =>
        rw [act, subscribeNew]
        split
        · exact ⟨s.bus, s.held, rfl⟩
        · exact ⟨_, _, rfl⟩
      | dispose name =>
        rw [act, dispose]
        split
        · exact ⟨_, s.held, rfl⟩
        · exact ⟨s.bus, s.held, rfl⟩
      | drop name =>
        rw [act, release, dispose]
        split <;> exact ⟨_, _, rfl⟩
      | publish => exact ⟨s.bus, s.held, rfl⟩
    obtain ⟨bus, held, hone⟩ := hone
    obtain ⟨bus', held', hothers⟩ := ih (s.act a)
    exact ⟨bus', held', hothers.trans (by rw [hone])⟩

/-- A silent script is its **actions**, one after another, and then the end. -/
theorem perform_silent {step : Circle.Step Work Scene} {seat : Seat} {h : Handler} {o : Occasion}
    {script : List Action} (hscript : AreSilent script) (s : Scene) :
    perform step seat h o script s = perform step seat h o [] (script.foldl act s) := by
  induction script generalizing s with
  | nil => rfl
  | cons a script ih =>
    rw [AreSilent] at hscript
    cases a with
    | subscribe name inner pauses ending => exact ih hscript.2 _
    | dispose name => exact ih hscript.2 _
    | drop name => exact ih hscript.2 _
    | publish outline => exact hscript.1.elim

/-- Who gives way is **among those** who gave way. -/
theorem mem_giveWay (s : Scene) (seat : Seat) : seat ∈ (s.giveWay seat).gaveWay := by
  rw [giveWay]
  split
  case isTrue hhead => exact List.mem_of_mem_head? hhead
  case isFalse => exact List.mem_cons_self

/-- Those who gave way before **still did**. -/
theorem gaveWay_subset_giveWay (s : Scene) (seat : Seat) :
    s.gaveWay ⊆ (s.giveWay seat).gaveWay := by
  rw [giveWay]
  split
  · exact List.Subset.refl _
  · exact List.subset_cons_self _ _

/-- Giving way is **not noticed**. -/
theorem log_giveWay (s : Scene) (seat : Seat) : (s.giveWay seat).log = s.log := by
  rw [giveWay]
  split <;> rfl

/-- Giving way changes nothing that the **roll** keeps track of. -/
theorem Tracks.giveWay {r : Roll} {s : Scene} (h : Tracks r s) (seat : Seat) :
    Tracks r (s.giveWay seat) := by
  rw [Scene.giveWay]
  split
  · exact h
  · exact h.of_eq rfl rfl rfl

/-- The first turn of a silent handler that does not break down at once. -/
theorem work_fresh {h : Handler} (hsilent : h.IsSilent) {o : Occasion}
    (honce : (h.ending o).isAtOnce = false) (depth : Nat) (seat : Seat) (s : Scene) :
    work (depth + 1) seat (.fresh h o) s =
      perform (work depth) seat h o []
        ((h.script o).foldl act (s.note (.started h.name o.event))) := by
  rw [work, honce]
  exact perform_silent (hsilent o) _

/-- What a turn of a silent handler **leaves**; it calls nobody. -/
theorem work_plain {w : Work} (hw : w.IsPlain) (depth : Nat) (seat : Seat) (s : Scene) :
    (work (depth + 1) seat w s).work = w.next ∧ (work (depth + 1) seat w s).calls = [] := by
  cases w with
  | done failure => exact ⟨rfl, rfl⟩
  | awaiting => cases hw
  | pausing h o left =>
    rw [work, Work.next]
    split <;> exact ⟨rfl, rfl⟩
  | fresh h o =>
    cases honce : (h.ending o).isAtOnce with
    | true =>
      rw [work, Work.next, honce]
      exact ⟨rfl, rfl⟩
    | false =>
      rw [work_fresh hw honce, Work.next, honce, perform]
      by_cases hpauses : h.pauses o = 0
      · simp [hpauses, finish]
      · simp [hpauses]

/-- Who gave way before a turn has given way after it, and so has a silent handler that goes on. -/
theorem gaveWay_work {w : Work} (hw : w.IsPlain) (depth : Nat) (seat : Seat) (s : Scene) :
    s.gaveWay ⊆ (work (depth + 1) seat w s).rest.gaveWay ∧
      (Task.ended w.next = false → seat ∈ (work (depth + 1) seat w s).rest.gaveWay) := by
  cases w with
  | done failure => exact ⟨List.Subset.refl _, nofun⟩
  | awaiting => cases hw
  | pausing h o left =>
    rw [work, Work.next]
    split
    · exact ⟨List.Subset.refl _, nofun⟩
    · exact ⟨gaveWay_subset_giveWay s seat, fun _ => mem_giveWay s seat⟩
  | fresh h o =>
    cases honce : (h.ending o).isAtOnce with
    | true =>
      rw [work, Work.next, honce]
      exact ⟨List.Subset.refl _, nofun⟩
    | false =>
      obtain ⟨bus, held, hacts⟩ := acts_frame (s.note (.started h.name o.event)) (h.script o)
      rw [work_fresh hw honce, Work.next, honce, perform, hacts]
      by_cases hpauses : h.pauses o = 0
      · rw [if_pos hpauses]
        exact ⟨List.Subset.refl _, by simp [hpauses, Task.ended]⟩
      · rw [if_neg hpauses]
        have hkept := gaveWay_subset_giveWay
          { s.note (.started h.name o.event) with bus := bus, held := held } seat
        exact ⟨hkept, fun _ => mem_giveWay _ seat⟩

/-- What is noticed in the first turn of a handler. -/
def opening (o : Occasion) (h : Handler) : List Notice :=
  if (h.ending o).isAtOnce then []
  else
    .started h.name o.event ::
      if h.pauses o = 0 then [.finished h.name o.event (h.pauses o ≠ 0)] else []

/-- The **first turn** of a silent handler: it starts, acts on the roll, and may come to its end. -/
theorem first_turn {r : Roll} {s : Scene} (hs : Tracks r s) {h : Handler} (hsilent : h.IsSilent)
    (depth : Nat) (seat : Seat) (o : Occasion) :
    Tracks (r.invoke o h) (work (depth + 1) seat (.fresh h o) s).rest ∧
      (work (depth + 1) seat (.fresh h o) s).rest.log = s.log ++ opening o h := by
  rw [Roll.invoke, opening]
  cases honce : (h.ending o).isAtOnce with
  | true =>
    rw [work, honce]
    exact ⟨hs, (List.append_nil _).symm⟩
  | false =>
    have hnoted : Tracks r (s.note (.started h.name o.event)) := hs.of_eq rfl rfl rfl
    have hacted := hnoted.acts (hsilent o)
    have hlog : ((h.script o).foldl act (s.note (.started h.name o.event))).log =
        s.log ++ [.started h.name o.event] := by
      obtain ⟨bus, held, hacts⟩ := acts_frame (s.note (.started h.name o.event)) (h.script o)
      rw [hacts]
      exact log_note s _
    rw [work_fresh hsilent honce, perform]
    by_cases hpauses : h.pauses o = 0
    · rw [if_pos hpauses, if_pos hpauses]
      refine ⟨hacted.of_eq rfl rfl rfl, ?_⟩
      rw [finish, log_note, hlog, List.append_assoc]
      rfl
    · rw [if_neg hpauses, if_neg hpauses]
      exact ⟨hacted.giveWay seat, (log_giveWay _ _).trans hlog⟩

/-- A **later turn** of a handler: it does nothing, and may come to its end. -/
theorem later_turn {r : Roll} {s : Scene} (hs : Tracks r s) {w : Work} (hw : w.HasBegun)
    (depth : Nat) (seat : Seat) :
    Tracks r (work (depth + 1) seat w s).rest ∧
      ∃ new, (work (depth + 1) seat w s).rest.log = s.log ++ new ∧
        w.closing = new ++ w.next.closing := by
  cases w with
  | done failure => exact ⟨hs, [], (List.append_nil _).symm, rfl⟩
  | fresh | awaiting => cases hw
  | pausing h o left =>
    rw [work, Work.next]
    split
    · exact ⟨hs.of_eq rfl rfl rfl, [.finished h.name o.event (h.pauses o ≠ 0)], log_note .., rfl⟩
    · exact ⟨hs.giveWay seat, [], by rw [log_giveWay, List.append_nil], rfl⟩

/-! ### Rounds -/

/-- There is room for **one publish** at least. -/
theorem maxDepth_eq_succ : ∃ depth, maxDepth = depth + 1 :=
  Nat.exists_eq_add_one.2 (Nat.pow_pos (by decide))

/-- A large delivery in which nobody is called does nothing. -/
theorem deliverOn_uncalled (seat : Seat) (turns : Nat) {c : Circle Work} (hlarge : c.isLarge = true)
    (hcalled : c.called = []) (s : Scene) : deliverOn seat turns c s = (c, s) := by
  cases turns with
  | zero => rfl
  | succ turns =>
    rw [deliverOn, deliver, Circle.turn_uncalled hlarge hcalled]
    rfl

/-- In a round **everyone** has a turn, for those who have none have ended. -/
theorem members_turnAt {c : Circle Work} (hplain : ∀ w ∈ c.members, w.IsPlain) (hready : c.Ready)
    (seatOf : Nat → Seat) (s : Scene) :
    (Circle.turnAt (work maxDepth) seatOf c.order c.members s).1 = c.members.map Work.next := by
  obtain ⟨depth, hdepth⟩ := maxDepth_eq_succ
  refine Circle.turnAt_members (Circle.nodup_order hready) ?_ ?_ s
  · intro w hw seat s
    rw [hdepth]
    exact (work_plain (hplain w hw) depth seat s).1
  · intro i w hw hi
    apply Work.next_of_ended
    by_contra hgoing
    exact hi (Circle.mem_order hready ⟨w, hw, by simpa using hgoing⟩)

/-- After its **turns in a row** each member of a delivery has had one, if it had not ended. -/
theorem deliverOn_plain (seat : Seat) {turns : Nat} (hturns : 0 < turns) {c : Circle Work}
    (hplain : ∀ w ∈ c.members, w.IsPlain) (hready : c.Ready) (s : Scene) :
    deliverOn seat turns c s =
      (⟨c.number, c.members.map Work.next, if c.isLarge then [] else c.called⟩,
        (Circle.turnAt (work maxDepth) (c.seatOf seat) c.order c.members s).2) := by
  obtain ⟨turns, rfl⟩ : ∃ n, turns = n + 1 := Nat.exists_eq_add_one.2 hturns
  obtain ⟨depth, hdepth⟩ := maxDepth_eq_succ
  have hquiet : ∀ w ∈ c.members, Circle.Quiet (work maxDepth) w := by
    intro w hw seat s
    rw [hdepth]
    exact (work_plain (hplain w hw) depth seat s).2
  obtain ⟨hwork, hrest, hcalls⟩ := Circle.turn_quiet seat hquiet hready s
  rw [members_turnAt hplain hready] at hwork
  rw [deliverOn]
  change (s.deliver seat c).work = _ at hwork
  change (s.deliver seat c).rest = _ at hrest
  change _ → (s.deliver seat c).calls = [] at hcalls
  generalize s.deliver seat c = t at hwork hrest hcalls ⊢
  obtain ⟨left, behind, calls⟩ := t
  obtain rfl : left = _ := hwork
  obtain rfl : behind = _ := hrest
  cases hlarge : c.isLarge with
  | false =>
    obtain rfl : calls = [] := hcalls hlarge
    rfl
  | true =>
    -- It may have itself called again, but then finds nobody called.
    have hlarge' :
        Circle.isLarge (⟨c.number, c.members.map Work.next, []⟩ : Circle Work) = true := by
      rw [← hlarge, Circle.isLarge, Circle.isLarge, List.length_map]
    simp only [if_true]
    split
    · exact deliverOn_uncalled seat turns hlarge' rfl _
    · rfl

/-- Nobody within a silent handler's work is called. -/
theorem callAmong_plain (circle index : Nat) {ws : List Work} (hplain : ∀ w ∈ ws, w.IsPlain) :
    callAmong circle index ws = none := by
  induction ws with
  | nil => rfl
  | cons w ws ih =>
    obtain ⟨hw, hws⟩ := List.forall_mem_cons.1 hplain
    have hcall : w.call circle index = none := by
      cases w with
      | done | fresh | pausing => rfl
      | awaiting => cases hw
    rw [callAmong, hcall, ih hws]

/-- One call changes nothing but **who is called**, and that only for a member that has not
ended. -/
theorem callIn_plain (seat who : Seat) {c : Circle Work} (hplain : ∀ w ∈ c.members, w.IsPlain) :
    ∃ called, (callIn seat who c).2 = { c with called } ∧ (c.called.Nodup → called.Nodup) ∧
      ∀ i, i ∈ called ↔ i ∈ c.called ∨ (c.IsGoing i ∧ .member c.number i = who) := by
  cases who with
  | front | behind => exact ⟨c.called, rfl, id, by simp⟩
  | member number index =>
    rw [callIn]
    split
    case isTrue hnumber =>
      rw [Circle.call]
      split
      case isTrue hcan =>
        obtain ⟨hgoing, hnew⟩ := Circle.canCall_iff.1 hcan
        refine ⟨c.called ++ [index], rfl, fun hnodup => ?_, fun i => ?_⟩
        · rw [← List.concat_eq_append]
          exact hnodup.concat hnew
        · simp only [List.mem_append, List.mem_singleton, Seat.member.injEq, hnumber, true_and]
          exact or_congr_right ⟨fun hi => ⟨hi ▸ hgoing, hi⟩, And.right⟩
      case isFalse hcan =>
        refine ⟨c.called, rfl, id, fun i => ⟨.inl, ?_⟩⟩
        rintro (hi | ⟨hgoing, hi⟩)
        · exact hi
        · obtain ⟨-, rfl⟩ := Seat.member.inj hi
          by_contra hnew
          exact hcan (Circle.canCall_iff.2 ⟨hgoing, hnew⟩)
    case isFalse hnumber =>
      rw [callAmong_plain number index hplain]
      refine ⟨c.called, rfl, id, fun i => ⟨.inl, ?_⟩⟩
      rintro (hi | ⟨-, hi⟩)
      · exact hi
      · exact absurd (Seat.member.inj hi).1.symm hnumber

/-- Calls change nothing but **who is called**: those members who gave way and have not ended. -/
theorem foldl_callIn (seat : Seat) (gaveWay : List Seat) {c : Circle Work}
    (hplain : ∀ w ∈ c.members, w.IsPlain) :
    ∃ called, gaveWay.foldl (fun c who => (callIn seat who c).2) c = { c with called } ∧
      (c.called.Nodup → called.Nodup) ∧
      ∀ i, i ∈ called ↔ i ∈ c.called ∨ (c.IsGoing i ∧ .member c.number i ∈ gaveWay) := by
  induction gaveWay generalizing c with
  | nil => exact ⟨c.called, rfl, id, by simp⟩
  | cons who gaveWay ih =>
    obtain ⟨called, hcall, hnodup, hcalled⟩ := callIn_plain seat who hplain
    obtain ⟨all, hall, hnodupAll, hcalledAll⟩ := @ih { c with called } hplain
    refine ⟨all, ?_, fun h => hnodupAll (hnodup h), fun i => ?_⟩
    · rw [List.foldl_cons, hcall, hall]
    · rw [hcalledAll]
      simp only [hcalled, List.mem_cons, Circle.IsGoing]
      rw [or_assoc, ← and_or_left]

/-- **Calling back** gives every member of a large circle that gave way a turn in the next round. -/
theorem callBack_plain (seat : Seat) {c : Circle Work} {s : Scene}
    (hplain : ∀ w ∈ c.members, w.IsPlain) (hcalled : c.isLarge = true → c.called = [])
    (hgave : c.isLarge = true → ∀ i, c.IsGoing i → .member c.number i ∈ s.gaveWay) :
    (callBack seat c s).1.members = c.members ∧ (callBack seat c s).1.Ready := by
  obtain ⟨called, hcall, hnodup, hmem⟩ := foldl_callIn seat s.gaveWay hplain
  rw [callBack, hcall]
  refine ⟨rfl, fun hlarge => ?_⟩
  change c.isLarge = true at hlarge
  rw [hcalled hlarge] at hnodup hmem
  refine ⟨hnodup List.nodup_nil, fun i => ?_⟩
  change i ∈ called ↔ c.IsGoing i
  rw [hmem]
  exact ⟨fun hi => (hi.resolve_left List.not_mem_nil).1, fun hi => .inr ⟨hi, hgave hlarge i hi⟩⟩

/-- Whoever has not ended after the turns of a round has **given way**. -/
theorem gaveWay_turnAt (seatOf : Nat → Seat) {order : List Nat} {ws : List Work}
    (hplain : ∀ w ∈ ws, w.IsPlain) (hnodup : order.Nodup) {i : Nat} {w : Work} (hi : i ∈ order)
    (hw : ws[i]? = some w) (hgoing : Task.ended w.next = false) (s : Scene) :
    seatOf i ∈ (Circle.turnAt (work maxDepth) seatOf order ws s).2.gaveWay := by
  obtain ⟨depth, hdepth⟩ := maxDepth_eq_succ
  rw [hdepth]
  refine Circle.turnAt_marks (fun seat s => seat ∈ s.gaveWay)
    (fun w => w.IsPlain ∧ Task.ended w.next = false) ?_ ?_ ?_ hplain hnodup hi hw
    ⟨hplain w (List.mem_of_getElem? hw), hgoing⟩ s
  · intro w s seat hw
    rw [(work_plain hw depth seat s).1]
    exact hw.hasBegun_next.isPlain
  · intro w s seat other hw hother
    exact (gaveWay_work hw depth seat s).1 hother
  · intro w s seat ⟨hw, hgoing⟩
    exact (gaveWay_work hw depth seat s).2 hgoing

/-- A **round**: turns in a row, and then the calls to those who gave way. -/
def round (seat : Seat) (c : Circle Work) (s : Scene) : Circle Work × Scene :=
  let delivered := deliverOn seat seat.turnsInARow c s
  callBack seat delivered.1 delivered.2

/-- One more round is a **round** and what is settled after it. -/
theorem settle_succ (seat : Seat) (rounds : Nat) {c : Circle Work} (h : c.hasEnded = false)
    (s : Scene) :
    settle seat (rounds + 1) c s = settle seat rounds (round seat c s).1 (round seat c s).2 := by
  rw [settle, h]
  rfl

/-- In a **round** of a delivery to silent handlers whoever had not ended has a turn, and is ready
for the next one. -/
theorem round_plain (seat : Seat) {c : Circle Work} (hplain : ∀ w ∈ c.members, w.IsPlain)
    (hready : c.Ready) (s : Scene) :
    (round seat c s).1.members = c.members.map Work.next ∧ (round seat c s).1.Ready ∧
      (round seat c s).2 =
        { (Circle.turnAt (work maxDepth) (c.seatOf seat) c.order c.members s).2 with
          gaveWay := [] } := by
  have hturns : 0 < seat.turnsInARow := by
    cases seat <;> exact Nat.succ_pos _
  rw [round, deliverOn_plain seat hturns hplain hready s]
  let c' : Circle Work := ⟨c.number, c.members.map Work.next, if c.isLarge then [] else c.called⟩
  let s' : Scene := (Circle.turnAt (work maxDepth) (c.seatOf seat) c.order c.members s).2
  have hlarge : c'.isLarge = c.isLarge := by
    rw [Circle.isLarge, Circle.isLarge, List.length_map]
  have hnext : ∀ w ∈ c'.members, w.IsPlain := by
    intro w hw
    obtain ⟨v, hv, rfl⟩ := List.mem_map.1 hw
    exact (hplain v hv).hasBegun_next.isPlain
  have hcalled : c'.isLarge = true → c'.called = [] := fun hlarge' =>
    if_pos (hlarge.symm.trans hlarge')
  have hgave : c'.isLarge = true → ∀ i, c'.IsGoing i → .member c'.number i ∈ s'.gaveWay := by
    rintro hlarge' i ⟨w, hw, hgoing⟩
    obtain ⟨v, hv, rfl⟩ := Option.map_eq_some_iff.1 ((List.getElem?_map ..).symm.trans hw)
    have hvgoing : c.IsGoing i := by
      refine ⟨v, hv, ?_⟩
      by_contra hended
      rw [Work.next_of_ended (by simpa using hended)] at hgoing
      exact hended hgoing
    have hgave := gaveWay_turnAt (c.seatOf seat) hplain (Circle.nodup_order hready)
      (Circle.mem_order hready hvgoing) hv hgoing s
    rwa [Circle.seatOf, if_pos (hlarge.symm.trans hlarge')] at hgave
  obtain ⟨hmembers, hready'⟩ := callBack_plain seat hnext hcalled hgave
  exact ⟨hmembers, hready', rfl⟩

/-! ### From the first turns to the last -/

/-- Handlers have begun, the scene keeps to the roll, and the ends that were noticed since and those
still to come are together `ends`. -/
structure Settling (r : Roll) (before ends : List Notice) (ws : List Work) (s : Scene) : Prop where
  begun : ∀ w ∈ ws, w.HasBegun
  tracks : s.Tracks r
  log : ∃ late, s.log = before ++ late ∧ (late ++ ws.flatMap Work.closing).Perm ends

/-- An end that is noticed is no longer to come. -/
theorem closing_set_perm {ws : List Work} {i : Nat} {w w' : Work} {new : List Notice}
    (hw : ws[i]? = some w) (hnew : w.closing = new ++ w'.closing) :
    (new ++ (ws.set i w').flatMap Work.closing).Perm (ws.flatMap Work.closing) := by
  induction ws generalizing i with
  | nil => cases hw
  | cons v ws ih =>
    cases i with
    | zero =>
      obtain rfl : v = w := Option.some.inj hw
      rw [List.set_cons_zero, List.flatMap_cons, List.flatMap_cons, hnew, List.append_assoc]
    | succ i =>
      rw [List.set_cons_succ, List.flatMap_cons, List.flatMap_cons]
      exact (List.perm_append_comm_assoc ..).trans ((ih hw).append_left v.closing)

/-- A later **turn** of any of them. -/
theorem Settling.turn {r : Roll} {before ends : List Notice} {ws : List Work} {s : Scene}
    (h : Settling r before ends ws s) {i : Nat} {w : Work} (hw : ws[i]? = some w) (depth : Nat)
    (seat : Seat) :
    Settling r before ends (ws.set i (work (depth + 1) seat w s).work)
      (work (depth + 1) seat w s).rest := by
  have hbegun : w.HasBegun := h.begun w (List.mem_of_getElem? hw)
  obtain ⟨htracks, new, hlog, hnew⟩ := later_turn h.tracks hbegun depth seat
  obtain ⟨late, hlate, hperm⟩ := h.log
  rw [(work_plain hbegun.isPlain depth seat s).1]
  refine ⟨?_, htracks, late ++ new, ?_, ?_⟩
  · intro v hv
    obtain hv | rfl := List.mem_or_eq_of_mem_set hv
    · exact h.begun v hv
    · exact hbegun.isPlain.hasBegun_next
  · rw [hlog, hlate, List.append_assoc]
  · rw [List.append_assoc]
    exact ((closing_set_perm hw hnew).append_left late).trans hperm

/-- **In the end** all have ended, with what each of them had to come to. -/
theorem settle_begun (seat : Seat) {rounds : Nat} {c : Circle Work} {s : Scene} {r : Roll}
    {before ends : List Notice} (h : Settling r before ends c.members s) (hready : c.Ready)
    (hrounds : ∀ w ∈ c.members, w.turns ≤ rounds) :
    (settle seat rounds c s).1.members.map Work.outcome = c.members.map Work.outcome ∧
      (settle seat rounds c s).1.hasEnded = true ∧
      Settling r before ends (settle seat rounds c s).1.members (settle seat rounds c s).2 := by
  induction rounds generalizing c s with
  | zero =>
    refine ⟨rfl, ?_, h⟩
    rw [settle, Circle.hasEnded, List.all_eq_true]
    exact fun w hw => (h.begun w hw).ended_of_turns (Nat.le_zero.1 (hrounds w hw))
  | succ rounds ih =>
    cases hended : c.hasEnded with
    | true =>
      rw [settle_of_ended hended]
      exact ⟨rfl, hended, h⟩
    | false =>
      have hplain : ∀ w ∈ c.members, w.IsPlain := fun w hw => (h.begun w hw).isPlain
      obtain ⟨hmembers, hready', hscene⟩ := round_plain seat hplain hready s
      have hturned : Settling r before ends (c.members.map Work.next)
          (Circle.turnAt (work maxDepth) (c.seatOf seat) c.order c.members s).2 := by
        obtain ⟨depth, hdepth⟩ := maxDepth_eq_succ
        rw [← members_turnAt hplain hready (c.seatOf seat) s, hdepth]
        exact Circle.turnAt_keeps (Settling r before ends)
          (fun hs hw seat => hs.turn hw depth seat) h
      have hnext : Settling r before ends (round seat c s).1.members (round seat c s).2 := by
        rw [hmembers, hscene]
        exact ⟨hturned.begun, hturned.tracks.of_eq rfl rfl rfl, hturned.log⟩
      have hrounds' : ∀ w ∈ (round seat c s).1.members, w.turns ≤ rounds := by
        intro w hw
        rw [hmembers] at hw
        obtain ⟨v, hv, rfl⟩ := List.mem_map.1 hw
        exact v.turns_next_le (hrounds v hv)
      obtain ⟨houtcomes, hended', hsettled⟩ := ih hnext hready' hrounds'
      rw [settle_succ seat rounds hended]
      refine ⟨houtcomes.trans ?_, hended', hsettled⟩
      rw [hmembers, List.map_map]
      exact List.map_congr_left fun w hw => (hplain w hw).outcome_next

/-- The **first turns**, from the first handler to the last. -/
theorem first_turns (seatOf : Nat → Seat) (before : List Work) {hs : List Handler}
    (hsilent : ∀ h ∈ hs, h.IsSilent) (o : Occasion) {r : Roll} {s : Scene} (htracks : Tracks r s) :
    let t := Circle.turnAt (work maxDepth) seatOf (List.range' before.length hs.length)
      (before ++ hs.map (Work.fresh · o)) s
    Tracks (hs.foldl (Roll.invoke o) r) t.2 ∧ t.2.log = s.log ++ hs.flatMap (opening o) := by
  obtain ⟨depth, hdepth⟩ := maxDepth_eq_succ
  rw [hdepth]
  induction hs generalizing before r s with
  | nil => exact ⟨htracks, (List.append_nil _).symm⟩
  | cons h hs ih =>
    obtain ⟨hh, hothers⟩ := List.forall_mem_cons.1 hsilent
    obtain ⟨hfirst, hlog⟩ := first_turn htracks hh depth (seatOf before.length) o
    generalize ht : work (depth + 1) (seatOf before.length) (.fresh h o) s = t at hfirst hlog
    have hget : (before ++ Work.fresh h o :: hs.map (Work.fresh · o))[before.length]? =
        some (Work.fresh h o) := by simp
    have hset : (before ++ Work.fresh h o :: hs.map (Work.fresh · o)).set before.length t.work =
        (before ++ [t.work]) ++ hs.map (Work.fresh · o) := by simp
    obtain ⟨hnext, hlogNext⟩ := ih (before ++ [t.work]) hothers hfirst
    rw [List.length_append, List.length_singleton] at hnext hlogNext
    rw [List.length_cons, List.range'_succ, List.map_cons]
    simp only [Circle.turnAt, hget, ht, hset]
    refine ⟨hnext, hlogNext.trans ?_⟩
    rw [hlog, List.append_assoc, List.flatMap_cons]

end Scene

end Guildkeep
