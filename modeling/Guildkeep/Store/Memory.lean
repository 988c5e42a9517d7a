import Guildkeep.Store.Basic

/-!
# Stores in Memory

A table of texts that can be switched off. While it is off every access fails and changes nothing;
what it holds is still there when it is switched on again.
-/

namespace Guildkeep.Store

/-- A store in **memory**. -/
structure Memory where
  texts : Table String String := {}
  available : Bool := true

namespace Memory

/-- What a store that is switched off answers. -/
def switchedOff : Error := .unavailable "in-memory store switched off"

/-- Whether a key has a text, switched off or not. -/
def has (m : Memory) (key : String) : Bool :=
  m.texts.has key

/-- How many keys have a text, switched off or not. -/
def size (m : Memory) : Nat :=
  m.texts.size

/-- A memory is a **store**. -/
instance : Store Memory where
  save m key text :=
    if m.available then (.ok (), { m with texts := m.texts.put key text })
    else (.error switchedOff, m)
  load m key :=
    if m.available then (.ok (m.texts.get? key), m)
    else (.error switchedOff, m)
  delete m key :=
    if m.available then (.ok (), { m with texts := m.texts.erase key })
    else (.error switchedOff, m)

end Memory

end Guildkeep.Store
