import Guildkeep.Save.Archive
import Guildkeep.Save.Listener
import Guildkeep.Save.Options

/-!
# The Save Manager

The manager holds the current snapshot and saves it through a store. It takes requests one at a
time; each has an answer, an effect on the store, and events that are to be told. What the events
are is decided before any of them is told, so nobody who is told can change them.

## Conventions

A request that fails has no events. Requests that use the store wait until their events are handled
by the bus; the others only queue them.

The id of a save shows its time in milliseconds and a token, so no two saves share one.
-/

namespace Guildkeep.Save

open Game

/-- The **manager**: its options, what it holds, who listens, and what is on its way to the bus. -/
structure Manager where
  options : Options := {}
  /-- The snapshot that is saved next. -/
  current : Option Snapshot := none
  autoSave : Bool := false
  roster : Roster := {}
  /-- Whether events go on to a bus. -/
  forwards : Bool := false
  /-- The events that are still to go on, in order. -/
  queue : List Event := []

/-- What may be asked of a manager. -/
inductive Request where
  | setState (s : Snapshot)
  | save (title : Option String)
  | load (id : String)
  | delete (id : String)
  | list
  | enableAutoSave
  | disableAutoSave
  /-- The time for a save that nobody asked for has come. -/
  | tick

/-- What a manager answers. -/
inductive Answer where
  | done
  | saved (id : String)
  | loaded (s : Snapshot)
  | listed (entries : List Entry)
  /-- The id of the save that was made, if one was. -/
  | ticked (id : Option String)
  | failed (why : Error)

/-- What a request comes to. -/
structure Turn (σ : Type) where
  answer : Answer
  store : σ
  ambient : Ambient
  manager : Manager
  /-- The events to tell, in order. -/
  events : List Outline := []

namespace Manager

/-! ### Events -/

/-- Who tells the manager's events. -/
def source : String := "guild-manager.state-manager"

/-- The outline of an event of the manager. -/
def outline (kind : Event.Kind) (members : List (String × Json)) : Outline :=
  .ofKind kind source (some (.object members))

/-- The current state was **set**. -/
def updated (s : Snapshot) : Outline :=
  outline .stateManagerUpdated [("stateId", .string s.state.id)]

/-- A save was **made**. -/
def created (id : String) (title : Option String) : Outline :=
  outline .saveCreated [("id", .string id), ("title", (title.map Json.string).getD .null)]

/-- A save was **loaded**. -/
def loaded (id : String) : Outline :=
  outline .saveLoaded [("id", .string id)]

/-- A save was **deleted**, for a reason. -/
def deleted (id reason : String) : Outline :=
  outline .saveDeleted [("id", .string id), ("reason", .string reason)]

/-- A save that nobody asked for is **complete**. -/
def completed (id : String) : Outline :=
  outline .autoSaveCompleted [("id", .string id)]

/-- Autosave was switched **on**. -/
def enabled : Outline :=
  .ofKind .autoSaveEnabled source none

/-- Autosave was switched **off**. -/
def disabled : Outline :=
  .ofKind .autoSaveDisabled source none

/-! ### Requests -/

/-- What the id of every save starts with. -/
def idMark : String := "guild-manager-game-"

/-- The **id** of a save that is made at a moment. -/
def saveId (m : Moment) : String :=
  idMark ++ Text.int m.now.unixMillis ++ "-" ++ m.token

variable {σ : Type} [Store σ]

/-- Opens a manager on a store whose manifest can be read. -/
def openOn (store : σ) (options : Options) (forwards : Bool) : Except Error Manager × σ :=
  match Archive.manifest store with
  | (.error why, store) => (.error why, store)
  | (.ok _, store) => (.ok { options, forwards }, store)

/-- Saves a snapshot: the id, or why not, and the events. -/
def saveSnapshot (m : Manager) (store : σ) (ambient : Ambient) (s : Snapshot)
    (title : Option String) : Except Error String × σ × Ambient × List Outline :=
  let (first, ambient) := ambient.next
  let (second, ambient) := ambient.next
  let id := saveId first
  match Payload.encode s m.options.enableCompression with
  | .error why => (.error (.codec why), store, ambient, [])
  | .ok payload =>
    match Archive.add store m.options.keep ⟨id, title, second.now⟩ payload with
    | (.error why, store) => (.error why, store, ambient, [])
    | (.ok evicted, store) =>
      (.ok id, store, ambient,
        evicted.map (fun e => deleted e.id "evicted") ++ [created id title])

/-- **Answers** a request. -/
def answer (m : Manager) (store : σ) (ambient : Ambient) : Request → Turn σ
  | .setState s =>
    ⟨.done, store, ambient, { m with current := some s }, [updated s]⟩
  | .save title =>
    match m.current with
    | none => ⟨.failed .noActiveState, store, ambient, m, []⟩
    | some s =>
      match m.saveSnapshot store ambient s title with
      | (.error why, store, ambient, _) => ⟨.failed why, store, ambient, m, []⟩
      | (.ok id, store, ambient, events) => ⟨.saved id, store, ambient, m, events⟩
  | .load id =>
    match Archive.fetch store id with
    | (.error why, store) => ⟨.failed why, store, ambient, m, []⟩
    | (.ok s, store) => ⟨.loaded s, store, ambient, m, [loaded id]⟩
  | .delete id =>
    match Archive.remove store id with
    | (.error why, store) => ⟨.failed why, store, ambient, m, []⟩
    | (.ok false, store) => ⟨.done, store, ambient, m, []⟩
    | (.ok true, store) => ⟨.done, store, ambient, m, [deleted id "deleted"]⟩
  | .list =>
    match Archive.list store with
    | (.error why, store) => ⟨.failed why, store, ambient, m, []⟩
    | (.ok entries, store) => ⟨.listed entries, store, ambient, m, []⟩
  | .enableAutoSave =>
    ⟨.done, store, ambient, { m with autoSave := true }, [enabled]⟩
  | .disableAutoSave =>
    ⟨.done, store, ambient, { m with autoSave := false }, [disabled]⟩
  | .tick =>
    match m.autoSave, m.current with
    | true, some s =>
      match m.saveSnapshot store ambient s none with
      | (.error why, store, ambient, _) => ⟨.failed why, store, ambient, m, []⟩
      | (.ok id, store, ambient, events) =>
        ⟨.ticked (some id), store, ambient, m, events ++ [completed id]⟩
    | _, _ => ⟨.ticked none, store, ambient, m, []⟩

end Manager

/-- Whether a request waits until its events are handled. -/
def Request.waits : Request → Bool
  | .setState _ | .enableAutoSave | .disableAutoSave => false
  | _ => true

end Guildkeep.Save
