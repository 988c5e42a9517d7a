import Guildkeep.Json.Reader

/-!
# Options of the Save Manager

Whether saves are compressed and how many of them are kept. At least one save is always kept.
-/

namespace Guildkeep.Save

/-- The **options** of a save manager. -/
structure Options where
  enableCompression : Bool := false
  maxSaves : UInt64 := 10
  deriving DecidableEq

namespace Options

/-- How many saves are kept: never fewer than one. -/
def keep (o : Options) : Nat :=
  max o.maxSaves.toNat 1

/-- **One save** is kept at least. -/
theorem one_le_keep (o : Options) : 1 ≤ o.keep :=
  Nat.le_max_right _ _

/-- The JSON form of options. -/
def toJson (o : Options) : Json :=
  .object [("enableCompression", .bool o.enableCompression), ("maxSaves", .ofNat o.maxSaves.toNat)]

/-- Options in the making. -/
structure Draft where
  enableCompression : Option Bool := none
  maxSaves : Option UInt64 := none

open Json in
/-- The fields of options. -/
def fields : List (RecordField Draft) :=
  [.slot "enableCompression" (·.enableCompression)
     (fun d v => { d with enableCompression := some v }) readBool,
   .slot "maxSaves" (·.maxSaves) (fun d v => { d with maxSaves := some v }) (readUInt64 "usize")]

open Json in
/-- Reads options. -/
def read : Reader Options :=
  readRecord "GameStateManagerOptions" fields {} fun d => do
    let enableCompression ← need "enableCompression" d.enableCompression
    let maxSaves ← need "maxSaves" d.maxSaves
    .ok { enableCompression, maxSaves }

end Options

end Guildkeep.Save
