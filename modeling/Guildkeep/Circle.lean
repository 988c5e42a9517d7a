/-!
# Circles That Take Turns

Works that go on side by side take turns. A circle is a group of works that is itself a work: a turn
of the circle is made of turns of its members, and the circle has ended when all of them have.

A work that waits for others is called when there is something for it to do, and may be called again
while its turn still lasts. What is called is a seat, and a work is told its seat when it gets a
turn. The task that is worked for stands in front and the one that runs for itself behind; every
member of a large circle has a seat of its own, and the members of a small one share the seat of
their circle.

## Conventions

A circle is small up to `smallSize` members. Its turn is a turn of every member, in order.

A large circle gives turns only to the members that were called, in the order of the calls; at first
all are called, in order. It breaks its turn off, and has itself called again, when two members had
themselves called in their turns or when as many turns as it has members have passed; both counts
start anew when a member ends.

Who calls a member of a large circle calls the circle as well. To call one that is called already,
or that has ended, does nothing.
-/

namespace Guildkeep

/-- What may be **called**. -/
inductive Seat where
  | front
  | behind
  /-- A member of a large circle, by the number of the circle. -/
  | member (circle index : Nat)
  deriving DecidableEq

/-- How many turns in a row a task gets that is called in its turn, before those who gave way are
called. -/
def Seat.turnsInARow : Seat → Nat
  | behind => 61
  | _ => 1

/-- Works that come to an end. -/
class Task (ω : Type) where
  ended : ω → Bool

/-- A **circle** of works. -/
structure Circle (ω : Type) where
  number : Nat
  members : List ω
  /-- The members that are called and did not have their turn yet, in the order of the calls. -/
  called : List Nat

namespace Circle

variable {ω σ : Type}

/-- What comes of a **turn**: the work that is left, what has become of everything else, and the
seats that were called, in order. -/
structure Turn (ω σ : Type) where
  work : ω
  rest : σ
  calls : List Seat := []

/-- How a work takes a turn, given its seat. A work that has ended does nothing. -/
abbrev Step (ω σ : Type) := Seat → ω → σ → Turn ω σ

/-- Calls made before those of a turn. -/
def Turn.after (calls : List Seat) (t : Turn ω σ) : Turn ω σ :=
  { t with calls := calls ++ t.calls }

/-- The most members of a small circle. -/
def smallSize : Nat := 30

/-- Gathers works in a circle; all of them are called. -/
def gather (number : Nat) (members : List ω) : Circle ω :=
  ⟨number, members, List.range members.length⟩

/-- Whether only those get turns who are called. -/
def isLarge (c : Circle ω) : Bool :=
  smallSize < c.members.length

/-! ### Small circles -/

/-- A turn for each of the works, in order, all with the same seat. -/
def turnEach (step : Step ω σ) (seat : Seat) : List ω → σ → Turn (List ω) σ
  | [], s => ⟨[], s, []⟩
  | w :: ws, s =>
    let t := step seat w s
    let ts := turnEach step seat ws t.rest
    ⟨t.work :: ts.work, ts.rest, t.calls ++ ts.calls⟩

/-! ### Large circles -/

section Large

variable [Task ω]

/-- Whether all members have ended. -/
def hasEnded (c : Circle ω) : Bool :=
  c.members.all Task.ended

/-- How many members have not ended. -/
def going (c : Circle ω) : Nat :=
  c.members.countP fun w => !Task.ended w

/-- Whether a member can be called: it has not ended and is not called already. -/
def canCall (c : Circle ω) (index : Nat) : Bool :=
  (c.members[index]?.any fun w => !Task.ended w) && !c.called.contains index

/-- **Calls** a member, and says whether that did anything. -/
def call (c : Circle ω) (index : Nat) : Bool × Circle ω :=
  if c.canCall index then (true, { c with called := c.called ++ [index] }) else (false, c)

/-- Passes one call on: if it is for a member it is heeded here, and if that did anything the circle
is called as well; any other goes further. -/
def heed (seat : Seat) (c : Circle ω) (who : Seat) : List Seat × Circle ω :=
  match who with
  | .member number index =>
    if number = c.number then (if (c.call index).1 then [seat] else [], (c.call index).2)
    else ([who], c)
  | _ => ([who], c)

/-- Passes calls on, in order. -/
def heedAll (seat : Seat) : List Seat → Circle ω → List Seat × Circle ω
  | [], c => ([], c)
  | who :: calls, c =>
    let one := c.heed seat who
    let all := heedAll seat calls one.2
    (one.1 ++ all.1, all.2)

/-- Gives turns to those who are called. Of `size` members that had not ended, `turns` had a turn
since the last one ended, and `again` of these had themselves called in it; `fuel` bounds the
turns. -/
def turnCalled (step : Step ω σ) (seat : Seat) : Nat → Nat → Nat → Nat → Circle ω → σ →
    Turn (Circle ω) σ
  | 0, _, _, _, c, s => ⟨c, s, []⟩
  | fuel + 1, size, turns, again, c, s =>
    match c.called with
    | [] => ⟨c, s, []⟩
    | index :: called =>
      match c.members[index]? with
      | none => turnCalled step seat fuel size turns again { c with called } s
      | some w =>
        let own := Seat.member c.number index
        let t := step own w s
        let again := again + (t.calls.contains own).toNat
        let heeded := heedAll seat t.calls
          { c with members := c.members.set index t.work, called }
        if Task.ended t.work then
          (turnCalled step seat fuel heeded.2.going 0 0 heeded.2 t.rest).after heeded.1
        else if 2 ≤ again ∨ turns + 1 = size then ⟨heeded.2, t.rest, heeded.1 ++ [seat]⟩
        else
          (turnCalled step seat fuel size (turns + 1) again heeded.2 t.rest).after heeded.1

/-- A **turn** of a circle. In a large one no more turns are given than the square of its size,
because the counts start anew at most once for each member. -/
def turn (step : Step ω σ) (seat : Seat) (c : Circle ω) (s : σ) : Turn (Circle ω) σ :=
  if c.isLarge then
    turnCalled step seat ((c.members.length + 1) * (c.members.length + 1)) c.going 0 0 c s
  else
    let t := turnEach step seat c.members s
    ⟨{ c with members := t.work }, t.rest, t.calls⟩

end Large

end Circle

end Guildkeep
