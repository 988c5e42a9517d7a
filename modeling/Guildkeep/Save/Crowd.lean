import Guildkeep.Save.Desk
import Guildkeep.Store.Counted

/-!
# Many Saves at Once

A crowd of savers works at one desk, side by side. Only one saver at a time is let in to the store;
the others line up, and whoever leaves lets in the next in line. A saver that has left tells its
events one by one, and waits for each until the courier has delivered it to the bus.

The savers take turns in a circle that stands in front. The courier runs for itself behind: it takes
events from the queue, one at a time, and lets the handlers have their turns. Round by round the
savers have a turn if one of them was called, then the courier as long as it is called, and then all
are called who gave way.

## Conventions

In one turn the savers together, and likewise the courier, can go through a door, take from the
queue or find out about a delivery `creditPerTurn` times; who comes after that gives way.

What a saver does inside is done at once when it is let in. Nobody else can look at the store before
it leaves, so the pauses at the store only hold up the others.
-/

namespace Guildkeep.Save

attribute [local instance (2000)] instPowNat instNatPowNat

/-- One of many **savers**. -/
inductive Saver where
  /-- It is not let in yet. -/
  | outside (number : Nat) (title : String)
  /-- It is at the store, and pauses some more times. -/
  | inside (left : Nat) (answer : Answer) (events : List Outline)
  /-- It waits until so many events of the desk have been delivered, with events left to tell. -/
  | telling (mark : Nat) (answer : Answer) (events : List Outline)
  | done (answer : Answer)

/-- A saver has ended when it **has its answer**. -/
instance : Task Saver where
  ended
    | .done _ => true
    | _ => false

/-- The answer that a saver got. -/
def Saver.answer? : Saver → Option Answer
  | done answer => some answer
  | _ => none

/-- The **door** of the store. -/
structure Door where
  /-- The number of the saver that is inside. -/
  guest : Option Nat := none
  /-- Who waits, in order, and where to call them. -/
  line : List (Nat × Seat) := []

namespace Door

/-- Whether a saver may go in. -/
def admits (d : Door) (number : Nat) : Bool :=
  d.guest = none || d.guest = some number

/-- A saver goes to the end of the line, unless it is in line already. -/
def lineUp (d : Door) (number : Nat) (seat : Seat) : Door :=
  if d.line.any (·.1 = number) then d else { d with line := d.line ++ [(number, seat)] }

/-- The one inside **leaves**, and the first in line is let in and called. -/
def leave (d : Door) : List Seat × Door :=
  match d.line with
  | [] => ([], {})
  | (number, seat) :: line => ([seat], ⟨some number, line⟩)

end Door

/-- The **crowd**: the store, the desk, and what goes on at the door and with the courier. -/
structure Crowd (σ : Type) where
  store : σ
  desk : Desk
  /-- Whether every access to the store gives way first. -/
  pauses : Bool := false
  door : Door := {}
  /-- What the courier delivers, and to whom. -/
  courier : Option (Event × Circle Bus.Work) := none
  /-- How many events went into the queue. -/
  sent : Nat := 0
  /-- How many of these the courier has delivered. -/
  delivered : Nat := 0
  /-- Who is to be called when so many events are delivered. -/
  awaited : List (Nat × Seat) := []
  /-- What is left of the turn. -/
  credit : Nat := 0

namespace Crowd

/-- What a turn begins with. -/
def creditPerTurn : Nat := 128

variable {σ : Type}

/-- The crowd in another scene. -/
def withScene (c : Crowd σ) (scene : Scene) : Crowd σ :=
  { c with desk := { c.desk with scene } }

/-- A seat gives way. -/
def giveWay (c : Crowd σ) (seat : Seat) : Crowd σ :=
  c.withScene (c.desk.scene.giveWay seat)

/-- Waits for the delivery of the event with a mark. -/
def await (c : Crowd σ) (seat : Seat) (mark : Nat) : Crowd σ :=
  if c.credit = 0 then c.giveWay seat
  else { c with awaited := (mark, seat) :: c.awaited.filter (·.1 ≠ mark) }

/-- Tells events, as far as one need not wait. -/
def tell (seat : Seat) (answer : Answer) : List Outline → Crowd σ → Circle.Turn Saver (Crowd σ)
  | [], c => ⟨.done answer, c, []⟩
  | o :: events, c =>
    let desk := c.desk.emit o
    let sent := c.sent + (desk.manager.queue.length - c.desk.manager.queue.length)
    let c := { c with desk, sent }
    if desk.manager.forwards then
      ⟨.telling sent answer events, c.await seat sent, if c.courier.isNone then [.behind] else []⟩
    else tell seat answer events c

/-- Stays inside for some more pauses, or leaves and tells. -/
def stay (c : Crowd σ) (seat : Seat) (left : Nat) (answer : Answer) (events : List Outline) :
    Circle.Turn Saver (Crowd σ) :=
  if left = 0 then
    let (calls, door) := c.door.leave
    (tell seat answer events { c with door }).after calls
  else ⟨.inside left answer events, c.giveWay seat, []⟩

variable [Store σ]

/-- A saver goes **in** and does all that it has to do there. -/
def enter (c : Crowd σ) (seat : Seat) (number : Nat) (title : String) :
    Circle.Turn Saver (Crowd σ) :=
  let counted : Store.Counted σ := ⟨c.store, 0⟩
  let turn := c.desk.manager.answer counted c.desk.scene.ambient (.save (some title))
  let scene := { c.desk.scene with ambient := turn.ambient }
  let c := { c with
    store := turn.store.inner
    desk := { c.desk with manager := turn.manager, scene }
    door := { c.door with guest := some number }
    credit := c.credit - 1 }
  c.stay seat (if c.pauses then turn.store.accesses else 0) turn.answer turn.events

/-- One **turn** of a saver. -/
def save : Circle.Step Saver (Crowd σ)
  | _, .done answer, c => ⟨.done answer, c, []⟩
  | seat, .inside left answer events, c => c.stay seat (left - 1) answer events
  | seat, .outside number title, c =>
    if c.credit = 0 then ⟨.outside number title, c.giveWay seat, []⟩
    else if c.door.admits number then c.enter seat number title
    else ⟨.outside number title, { c with door := c.door.lineUp number seat }, []⟩
  | seat, .telling mark answer events, c =>
    if c.credit ≠ 0 ∧ mark ≤ c.delivered then
      tell seat answer events { c with credit := c.credit - 1 }
    else ⟨.telling mark answer events, c.await seat mark, []⟩

omit [Store σ] in
/-- One turn of the **courier**: it goes on with its delivery, and takes the next event when that
has ended. Yields who is called; `fuel` bounds the events. -/
def carry : Nat → Crowd σ → List Seat × Crowd σ
  | 0, c => ([], c)
  | fuel + 1, c =>
    match c.courier with
    | some (e, circle) =>
      let t := c.desk.scene.deliver .behind circle
      if t.work.hasEnded then
        let delivered := c.delivered + 1
        let called := (c.awaited.filter (·.1 = delivered)).map (·.2)
        let c := { c with
          courier := none
          delivered
          awaited := c.awaited.filter (·.1 ≠ delivered) }
        let (calls, c) := carry fuel (c.withScene (t.rest.report e t.work.members))
        (t.calls ++ called ++ calls, c)
      else (t.calls, { c with courier := some (e, t.work) }.withScene t.rest)
    | none =>
      if c.credit = 0 then ([], c.giveWay .behind)
      else
        match c.desk.manager.queue with
        | [] => ([], c)
        | e :: queue =>
          let (circle, scene) := (c.desk.scene.note (.taken e)).muster e
          let desk := { c.desk with manager := { c.desk.manager with queue }, scene }
          carry fuel { c with desk, courier := some (e, circle), credit := c.credit - 1 }

end Crowd

/-- The crowd **at work**: who takes turns, and who is called. -/
structure Rush (σ : Type) where
  savers : Circle Saver
  crowd : Crowd σ
  front : Bool := true
  behind : Bool := false

namespace Rush

variable {σ : Type}

/-- Calls a seat. -/
def call (r : Rush σ) : Seat → Rush σ
  | .front => { r with front := true }
  | .behind => { r with behind := true }
  | .member number index =>
    if number = r.savers.number then
      let (did, savers) := r.savers.call index
      { r with savers, front := r.front || did }
    else
      match r.crowd.courier with
      | some (e, circle) =>
        let (did, circle) := Scene.callIn .behind (.member number index) circle
        { r with crowd := { r.crowd with courier := some (e, circle) }, behind := r.behind || did }
      | none => r

/-- Calls seats, in order. -/
def callAll (r : Rush σ) (seats : List Seat) : Rush σ :=
  seats.foldl call r

/-- The turns of the courier in a row, as long as it is called. -/
def goBehind : Nat → Rush σ → Rush σ
  | 0, r => r
  | turns + 1, r =>
    if r.behind then
      let c := { r.crowd with credit := Crowd.creditPerTurn }
      let (calls, crowd) := Crowd.carry (2 * c.desk.manager.queue.length + 2) c
      goBehind turns ({ r with crowd, behind := false }.callAll calls)
    else r

/-- Calls those who gave way. -/
def callBack (r : Rush σ) : Rush σ :=
  let scene := r.crowd.desk.scene
  { r with crowd := r.crowd.withScene { scene with gaveWay := [] } }.callAll scene.gaveWay

variable [Store σ]

/-- A turn of the savers, if one of them is called. -/
def goInFront (r : Rush σ) : Rush σ :=
  if r.front then
    let t := r.savers.turn Crowd.save .front { r.crowd with credit := Crowd.creditPerTurn }
    { r with savers := t.work, crowd := t.rest, front := false }.callAll t.calls
  else r

/-- Goes round by round until all savers are done, or the rounds are used up. -/
def settle : Nat → Rush σ → Rush σ
  | 0, r => r
  | rounds + 1, r =>
    let r := r.goInFront
    if r.savers.hasEnded then r
    else settle rounds (goBehind Seat.behind.turnsInARow r).callBack

end Rush

/-- **Saves** under many titles at once. Yields the answers in the order of the titles. -/
def Desk.saveAll {σ : Type} [Store σ] (d : Desk) (store : σ) (pauses : Bool)
    (titles : List String) : List Answer × σ × Desk :=
  let (savers, scene) := d.scene.gather (titles.zipIdx.map fun (title, n) => Saver.outside n title)
  let crowd : Crowd σ := { store, desk := { d with scene }, pauses }
  let r := Rush.settle (2 ^ (32 : Nat)) { savers, crowd }
  (r.savers.members.filterMap Saver.answer?, r.crowd.store, r.crowd.desk)

end Guildkeep.Save
