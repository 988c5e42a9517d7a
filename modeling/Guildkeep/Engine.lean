import Guildkeep.Bus.Delivery
import Guildkeep.Game.Phase
import Guildkeep.Game.Rules

/-!
# The Game Engine

The engine plays one session. It takes orders, checks the phase, lets the rules of play work on the
session's state, and says which events are to be announced. What it says is data; `Scene.obey`
announces it on a bus.

## Conventions

The phase is checked before anything else, so an order that comes at the wrong time is rejected for
that, whatever it asks. A rejected order changes nothing and announces nothing.
-/

namespace Guildkeep

open Game

/-- The **engine**: the phase, and the session once it has started. -/
structure Engine where
  phase : Phase := .initialized
  session : Option Snapshot := none
  deriving DecidableEq

namespace Engine

/-- Why an order is **rejected**. -/
inductive Rejection where
  | notRunning (phase : Phase)
  | refused (why : Refusal)
  deriving DecidableEq

/-- The wording of a rejection. -/
def Rejection.message : Rejection → String
  | notRunning phase => "game is not running (current state: " ++ phase.name ++ ")"
  | refused why => why.message

/-- What an engine may be told to do. -/
inductive Order where
  | start (config : Config)
  | pause
  | resume
  | finish
  | move (dx dy : Binary64)
  | damage (amount : Int32)
  | heal (amount : Int32)
  | award (points : Int64)
  | pickUp (item : String)
  | drop (item : String)

/-- What comes back: whether the phase changed, or the state after an action. -/
inductive Reply where
  | changed (yes : Bool)
  | played (result : Except Rejection State)

/-- What an order leads to. -/
structure Outcome where
  reply : Reply
  engine : Engine
  /-- The events to announce, in order. -/
  events : List Outline := []

/-! ### Events -/

/-- Who announces the engine's events. -/
def source : String := "guild-manager.engine"

/-- The outline of an event of the engine. -/
def outline (kind : Event.Kind) (members : List (String × Json)) : Outline :=
  .ofKind kind source (some (.object members))

/-- A session has **started**. -/
def started (s : Snapshot) : Outline :=
  outline .gameStarted
    [("difficulty", .string s.config.difficulty.name), ("sessionId", .string s.state.id)]

/-- The session has **ended**, for a reason and with a score. -/
def ended (reason : String) (score : Int64) : Outline :=
  outline .gameEnded [("reason", .string reason), ("score", .ofInt score.toInt)]

/-- The player has **moved**. -/
def moved (after : State) : Outline :=
  outline .playerMoved [("x", .ofFloat after.position.x), ("y", .ofFloat after.position.y)]

/-- The player has taken **damage**, by so many points. -/
def damaged (before after : State) : Outline :=
  outline .playerDamaged [("amount", .ofInt (before.health.toInt - after.health.toInt))]

/-- A change of health is announced only if there is one. -/
def healthChanged (before after : State) : List Outline :=
  if before.health = after.health then []
  else
    [outline .playerHealthChanged
      [("current", .ofInt after.health.toInt), ("previous", .ofInt before.health.toInt)]]

/-- The **score** has changed. -/
def scoreChanged (before after : State) : Outline :=
  outline .scoreChanged
    [("current", .ofInt after.score.toInt), ("level", .ofNat after.level.toNat),
     ("previous", .ofInt before.score.toInt)]

/-! ### Orders -/

/-- The state of the session. -/
def state? (g : Engine) : Option State :=
  g.session.map (·.state)

/-- The id of the session that starts at a moment. -/
def sessionId (m : Moment) : String :=
  "session-" ++ m.token

/-- Changes the phase, if the table allows it. -/
def change (g : Engine) (c : Phase.Change) : Bool × Engine :=
  match g.phase.step? c with
  | some phase => (true, { g with phase })
  | none => (false, g)

/-- Starts a fresh session. -/
def launch (g : Engine) (config : Config) (m : Moment) : Outcome :=
  let session : Snapshot := ⟨.opening (sessionId m) config.initialHealth m.now, config⟩
  match g.change .start with
  | (true, g) => ⟨.changed true, { g with session := some session }, [started session]⟩
  | (false, g) => ⟨.changed false, g, []⟩

/-- **Ends** the session, if it is running or paused. -/
def close (g : Engine) (reason : String) : Outcome :=
  match g.change .finish with
  | (true, g) => ⟨.changed true, g, [ended reason ((g.state?.map (·.score)).getD 0)]⟩
  | (false, g) => ⟨.changed false, g, []⟩

/-- Lets a rule work on the state of a session that is running: the states before and after. -/
def act (g : Engine) (rule : State → Config → Except Refusal State) :
    Except Rejection (State × State) × Engine :=
  match g.phase, g.session with
  | .running, some s =>
    match rule s.state s.config with
    | .ok after => (.ok (s.state, after), { g with session := some ⟨after, s.config⟩ })
    | .error why => (.error (.refused why), g)
  | phase, _ => (.error (.notRunning phase), g)

/-- Lets a rule work and announces what it did. -/
def play (g : Engine) (rule : State → Config → Except Refusal State)
    (events : State → State → List Outline) : Outcome :=
  match g.act rule with
  | (.ok (before, after), g) => ⟨.played (.ok after), g, events before after⟩
  | (.error why, g) => ⟨.played (.error why), g, []⟩

/-- A hit. Whoever has no health left after it is defeated, and the session ends. -/
def hit (g : Engine) (amount : Int32) (now : Time.Instant) : Outcome :=
  let first := g.play (fun s c => applyDamage s amount c now) fun before after =>
    damaged before after :: healthChanged before after
  match first.reply with
  | .played (.ok after) =>
    if isDefeated after then
      let last := first.engine.close "defeated"
      ⟨first.reply, last.engine, first.events ++ last.events⟩
    else first
  | _ => first

/-- **Carries out** an order at a moment. -/
def obey (g : Engine) (order : Order) (m : Moment) : Outcome :=
  match order with
  | .start config => g.launch config m
  | .pause => let (yes, g) := g.change .pause; ⟨.changed yes, g, []⟩
  | .resume => let (yes, g) := g.change .resume; ⟨.changed yes, g, []⟩
  | .finish => g.close "ended"
  | .move dx dy =>
    g.play (fun s _ => .ok (s.withPosition (s.position.movedBy dx dy) m.now))
      fun _ after => [moved after]
  | .damage amount => g.hit amount m.now
  | .heal amount => g.play (fun s c => heal s amount c m.now) healthChanged
  | .award points =>
    g.play (fun s c => award s points c m.now) fun before after => [scoreChanged before after]
  | .pickUp item => g.play (fun s _ => addItem s item m.now) fun _ _ => []
  | .drop item => g.play (fun s _ => removeItem s item m.now) fun _ _ => []

end Engine

namespace Scene

/-- Announces events one after another. -/
def announceAll (s : Scene) (events : List Outline) : Scene :=
  events.foldl announce s

/-- Gives an **order** to an engine whose events are announced on the bus. -/
def obey (s : Scene) (g : Engine) (order : Engine.Order) : Engine.Reply × Engine × Scene :=
  let (m, s) := s.moment
  let outcome := g.obey order m
  (outcome.reply, outcome.engine, s.announceAll outcome.events)

end Scene

end Guildkeep
