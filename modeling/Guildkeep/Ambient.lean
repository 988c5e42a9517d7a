import Guildkeep.Event.Basic

/-!
# Moments

Whoever makes an event or a save needs the time and something that was never used before. Both come
with a moment, and moments come from an endless supply that the surroundings provide. So a run of
the program is a function of that supply, and what has to be assumed of clock and chance is an
assumption about it.

## Conventions

A token is a text of 32 hexadecimal digits. The id of an event is its token with hyphens after the
digits 8, 12, 16 and 20.
-/

namespace Guildkeep

/-- A **moment**: the time, and a token of its own. -/
structure Moment where
  now : Time.Instant
  token : String

/-- The **supply** of moments, and how many of them have passed. -/
structure Ambient where
  moments : Nat → Moment
  passed : Nat := 0

namespace Ambient

/-- The moment that comes next, and the supply after it. -/
def next (a : Ambient) : Moment × Ambient :=
  (a.moments a.passed, { a with passed := a.passed + 1 })

end Ambient

/-- A token as the id of an event. -/
def Moment.eventId (m : Moment) : String :=
  let digits := m.token.toList
  let part (start length : Nat) := String.ofList ((digits.drop start).take length)
  part 0 8 ++ "-" ++ part 8 4 ++ "-" ++ part 12 4 ++ "-" ++ part 16 4 ++ "-" ++
    String.ofList (digits.drop 20)

/-- What an event is to be, before there is a moment for it. -/
structure Outline where
  type : String
  source : String
  data : Option Json := none
  /-- The id, if it is not to be that of the moment. -/
  id : Option String := none

namespace Outline

/-- The outline of an event of a well-known kind. -/
def ofKind (kind : Event.Kind) (source : String) (data : Option Json) : Outline where
  type := kind.type
  source := source
  data := data

/-- The **event** with an outline, at a moment. -/
def event (o : Outline) (m : Moment) : Event :=
  { Event.ofType o.type o.source m.now (o.id.getD m.eventId) with data := o.data }

end Outline

end Guildkeep
