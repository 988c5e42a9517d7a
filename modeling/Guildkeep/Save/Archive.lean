import Guildkeep.Save.Manifest
import Guildkeep.Store.Basic

/-!
# The Archive of Saves

What saving, loading, listing and deleting do to a store. The manifest is read anew from the store
for every operation, so whatever others wrote in the meantime is seen.

## Conventions

A save is written before it is listed and unlisted before it is deleted. So an operation that breaks
off may leave a payload that no entry lists, and never an entry without its payload. For the same
reason it is no failure when the payload of a save that is already unlisted cannot be deleted.

The key of the manifest is reserved: it is not an id of a save, whatever is stored there.
-/

namespace Guildkeep.Save

open Game

/-- Why an operation on saves **fails**. -/
inductive Error where
  | noActiveState
  | notFound (id : String)
  | store (why : Store.Error)
  | codec (why : CodecFault)
  deriving DecidableEq

/-- The wording of an error. -/
def Error.message : Error → String
  | noActiveState => "no active game state to save"
  | notFound id => "save " ++ id ++ " not found"
  | store _ => "store unavailable"
  | codec why => "serialization failure: " ++ why.message

namespace Archive

variable {σ : Type} [Store σ]

/-- Reads the manifest; where there is none, it is empty. -/
def manifest (store : σ) : Except Error Manifest × σ :=
  match Store.load store Manifest.key with
  | (.error why, store) => (.error (.store why), store)
  | (.ok none, store) => (.ok {}, store)
  | (.ok (some text), store) =>
    match Manifest.ofText text with
    | .error why => (.error (.codec why), store)
    | .ok m => (.ok m, store)

/-- Writes the manifest. -/
def putManifest (store : σ) (m : Manifest) : Except Error Unit × σ :=
  match Store.save store Manifest.key m.text with
  | (.error why, store) => (.error (.store why), store)
  | (.ok _, store) => (.ok (), store)

/-- Deletes payloads one after another, as far as that is possible. -/
def clear (store : σ) (ids : List String) : σ :=
  ids.foldl (fun store id => (Store.delete store id).2) store

/-- **Adds** a save: writes its payload, lists it, and gives up the oldest saves beyond the number
to keep. Yields the entries given up, the oldest first. -/
def add (store : σ) (keep : Nat) (entry : Entry) (payload : String) :
    Except Error (List Entry) × σ :=
  match manifest store with
  | (.error why, store) => (.error why, store)
  | (.ok m, store) =>
    match Store.save store entry.id payload with
    | (.error why, store) => (.error (.store why), store)
    | (.ok _, store) =>
      let (evicted, m) := (m.push entry).evictOver keep
      match putManifest store m with
      | (.error why, store) => (.error why, store)
      | (.ok _, store) => (.ok evicted, clear store (evicted.map (·.id)))

/-- **Reads** a save, listed or not. -/
def fetch (store : σ) (id : String) : Except Error Snapshot × σ :=
  if id = Manifest.key then (.error (.notFound id), store)
  else
    match Store.load store id with
    | (.error why, store) => (.error (.store why), store)
    | (.ok none, store) => (.error (.notFound id), store)
    | (.ok (some payload), store) =>
      match Payload.decode payload with
      | .error why => (.error (.codec why), store)
      | .ok s => (.ok s, store)

/-- **Removes** a save and its entry; one that is not there is no error. Yields whether anything was
attempted, which it is not for the reserved key. -/
def remove (store : σ) (id : String) : Except Error Bool × σ :=
  if id = Manifest.key then (.ok false, store)
  else
    match manifest store with
    | (.error why, store) => (.error why, store)
    | (.ok m, store) =>
      match m.find? id with
      | some _ =>
        match putManifest store (m.remove id) with
        | (.error why, store) => (.error why, store)
        | (.ok _, store) => (.ok true, clear store [id])
      | none =>
        match Store.delete store id with
        | (.error why, store) => (.error (.store why), store)
        | (.ok _, store) => (.ok true, store)

/-- The entries, newest first. -/
def list (store : σ) : Except Error (List Entry) × σ :=
  match manifest store with
  | (.error why, store) => (.error why, store)
  | (.ok m, store) => (.ok m.newestFirst, store)

end Archive

end Guildkeep.Save
