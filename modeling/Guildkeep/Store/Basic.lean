import Guildkeep.Disk.Basic
import Guildkeep.Text.Quoted

/-!
# Stores

A store keeps texts under keys. It can save, load and delete, and each of these may fail; it cannot
list its keys. A store is a value, and an access yields the store after it, so that a store may
count or log what is asked of it.
-/

namespace Guildkeep

namespace Store

/-- Why an access to a store fails. -/
inductive Error where
  | io (why : Disk.Fault)
  | invalidKey (key : String)
  | unavailable (why : String)
  deriving DecidableEq

/-- The wording of an error. -/
def Error.message : Error → String
  | io why => "I/O error: " ++ why.message
  | invalidKey key => "invalid store key " ++ Text.quoted key
  | unavailable why => "store unavailable: " ++ why

end Store

/-- A **store** of texts under keys. -/
class Store (σ : Type) where
  save : σ → String → String → Except Store.Error Unit × σ
  load : σ → String → Except Store.Error (Option String) × σ
  delete : σ → String → Except Store.Error Unit × σ

end Guildkeep
