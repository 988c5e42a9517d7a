import Guildkeep.Event.Kind
import Guildkeep.Json.Reader

/-!
# Events

An event is an immutable record: what happened, who says so, when, and an optional payload. Its
JSON form is an envelope with a fixed order of fields; the payload is left out when there is none.

## Conventions

A payload that is `null` is a payload, and is written. Reading takes a `null` payload for none, so
an event with such a payload comes back without it.
-/

namespace Guildkeep

/-- An **event**. -/
structure Event where
  type : String
  source : String
  data : Option Json
  timestamp : Time.Instant
  id : String
  specVersion : String
  dataContentType : String
  deriving BEq

namespace Event

/-- The version of the envelope. -/
def currentVersion : String := "1.0"

/-- The format of the payload. -/
def jsonContentType : String := "application/json"

/-- An event of a type, before anything is attached to it. -/
def ofType (type source : String) (now : Time.Instant) (id : String) : Event where
  type := type
  source := source
  data := none
  timestamp := now
  id := id
  specVersion := currentVersion
  dataContentType := jsonContentType

/-- An event of a well-known kind. -/
def ofKind (kind : Kind) (source : String) (now : Time.Instant) (id : String) : Event :=
  ofType kind.type source now id

/-- The type is **no dotted name**. -/
structure InvalidType where
  type : String
  deriving DecidableEq

/-- The wording for a type that is no dotted name. -/
def InvalidType.message (e : InvalidType) : String :=
  "invalid event type " ++ Text.quoted e.type ++ ": expected a non-empty dot-namespaced name"

/-- An event of a type that the caller chooses; it has to be a dotted name. -/
def custom (type source : String) (now : Time.Instant) (id : String) : Except InvalidType Event :=
  if isDotted type then .ok (ofType type source now id) else .error ⟨type⟩

/-- The event with a payload. -/
def withData (e : Event) (data : Json) : Event :=
  { e with data := some data }

/-- The event with an id that the caller chooses. -/
def withId (e : Event) (id : String) : Event :=
  { e with id := id }

/-- The well-known kind of the event, if it has one. -/
def kind? (e : Event) : Option Kind :=
  Kind.ofType? e.type

/-- Whether the event is of a kind. -/
def isKind (e : Event) (k : Kind) : Bool :=
  e.type == k.type

/-- The event is of a kind **exactly when** that is its well-known kind. -/
theorem isKind_iff {e : Event} {k : Kind} : e.isKind k = true ↔ e.kind? = some k := by
  rw [kind?, Kind.ofType?_eq_some_iff, isKind, beq_iff_eq]
  exact eq_comm

/-! ### JSON form -/

/-- The member for the payload, if there is one. -/
def dataMember : Option Json → List (String × Json)
  | some data => [("data", data)]
  | none => []

/-- The envelope of an event. -/
def toJson (e : Event) : Json :=
  .object
    ([("type", .string e.type), ("source", .string e.source)] ++ dataMember e.data ++
     [("timestamp", .string e.timestamp.text),
      ("id", .string e.id),
      ("specVersion", .string e.specVersion),
      ("dataContentType", .string e.dataContentType)])

/-- An event in the making. -/
structure Draft where
  type : Option String := none
  source : Option String := none
  data : Option (Option Json) := none
  timestamp : Option Time.Instant := none
  id : Option String := none
  specVersion : Option String := none
  dataContentType : Option String := none

open Json in
/-- The fields of the envelope. -/
def fields : List (RecordField Draft) :=
  [.slot "type" (·.type) (fun d v => { d with type := some v }) readString,
   .slot "source" (·.source) (fun d v => { d with source := some v }) readString,
   (RecordField.slot "data" (·.data) (fun d v => { d with data := some v })
     (readOption (readValue (maxDepth - 1)))).optional,
   .slot "timestamp" (·.timestamp) (fun d v => { d with timestamp := some v }) readInstant,
   .slot "id" (·.id) (fun d v => { d with id := some v }) readString,
   .slot "specVersion" (·.specVersion) (fun d v => { d with specVersion := some v }) readString,
   .slot "dataContentType" (·.dataContentType) (fun d v => { d with dataContentType := some v })
     readString]

open Json in
/-- Reads an **event**. The type is not checked. -/
def read : Reader Event :=
  readRecord "DomainEvent" fields {} fun d => do
    let type ← need "type" d.type
    let source ← need "source" d.source
    let timestamp ← need "timestamp" d.timestamp
    let id ← need "id" d.id
    let specVersion ← need "specVersion" d.specVersion
    let dataContentType ← need "dataContentType" d.dataContentType
    .ok { type, source, data := d.data.getD none, timestamp, id, specVersion, dataContentType }

end Event

end Guildkeep
