import Guildkeep.Number.Format
import Guildkeep.Number.Saturating

/-!
# JSON Values

The values of the data format in which saves, the manifest and events are written. Numbers keep
the three kinds a text can show: an unsigned word, a negative word, and a finite binary64 number.
Members of an object keep their order.

## Conventions

A payload that was read from a text has the members of every object sorted by key, each key once:
`Json.Sorted`.
-/

namespace Guildkeep

namespace Json

/-- A **JSON number**: an unsigned word of 64 bits, a negative word, or a finite binary64 number. -/
inductive Number where
  | unsigned (n : UInt64)
  | negative (i : Int64) (isNegative : i.toInt < 0)
  | real (negative : Bool) (m : Nat) (q : Int) (canonical : Canonical m q)

/-- Numbers are compared by kind, and numbers of one kind by value. -/
instance : DecidableEq Number
  | .unsigned a, .unsigned b =>
    decidable_of_decidable_of_iff (p := a = b) ⟨congrArg Number.unsigned, Number.unsigned.inj⟩
  | .negative i _, .negative j _ =>
    decidable_of_decidable_of_iff (p := i = j)
      ⟨fun h => by subst h; rfl, Number.negative.inj⟩
  | .real s m q _, .real t n r _ =>
    decidable_of_decidable_of_iff (p := s = t ∧ m = n ∧ q = r)
      ⟨fun ⟨hs, hm, hq⟩ => by subst hs hm hq; rfl, Number.real.inj⟩
  | .unsigned _, .negative .. | .unsigned _, .real .. => .isFalse nofun
  | .negative .., .unsigned _ | .negative .., .real .. => .isFalse nofun
  | .real .., .unsigned _ | .real .., .negative .. => .isFalse nofun

end Json

/-- A **JSON value**. -/
inductive Json where
  | null
  | bool (b : Bool)
  | number (n : Json.Number)
  | string (s : String)
  | array (items : List Json)
  | object (members : List (String × Json))
  deriving BEq

namespace Json

/-- The value that is none is **null**. -/
instance : Inhabited Json := ⟨null⟩

/-- The value of an integer that fits a word of 64 bits. -/
def ofInt (i : Int) : Json :=
  if h : (Int64.ofInt i).toInt < 0 ∧ i < 0 then number (.negative (Int64.ofInt i) h.1)
  else number (.unsigned (UInt64.ofNat i.toNat))

/-- The value of a natural number that fits a word of 64 bits. -/
def ofNat (n : Nat) : Json :=
  number (.unsigned (UInt64.ofNat n))

/-- The value of a binary64 number; what is not finite has no number and becomes null. -/
def ofFloat : Binary64 → Json
  | .finite s m q h => number (.real s m q h)
  | _ => null

/-- The member with this key, the last one if there are several. -/
def get? (key : String) : Json → Option Json
  | object members => (members.reverse.find? (·.1 == key)).map (·.2)
  | _ => none

/-! ### Sorted objects -/

/-- Puts a member in its place by key; a member with the same key is replaced. -/
def insertMember (key : String) (value : Json) : List (String × Json) → List (String × Json)
  | [] => [(key, value)]
  | (k, v) :: rest =>
    if key < k then (key, value) :: (k, v) :: rest
    else if key = k then (key, value) :: rest
    else (k, v) :: insertMember key value rest

mutual

/-- Whether the members of every object in the value stand in the order of their keys, each key
once. -/
def sorted : Json → Bool
  | array items => sortedItems items
  | object members => sortedMembers members
  | _ => true

/-- Whether every item is sorted. -/
def sortedItems : List Json → Bool
  | [] => true
  | item :: rest => item.sorted && sortedItems rest

/-- Whether the members are in strict order of keys and every value is sorted. -/
def sortedMembers : List (String × Json) → Bool
  | [] => true
  | (key, value) :: rest =>
    value.sorted && rest.all (fun member => decide (key < member.1)) && sortedMembers rest

end

mutual

/-- How many brackets stand open around the innermost value. -/
def depth : Json → Nat
  | array items => 1 + depthItems items
  | object members => 1 + depthMembers members
  | _ => 0

/-- The greatest depth of the items. -/
def depthItems : List Json → Nat
  | [] => 0
  | item :: rest => max item.depth (depthItems rest)

/-- The greatest depth of the members. -/
def depthMembers : List (String × Json) → Nat
  | [] => 0
  | (_, value) :: rest => max value.depth (depthMembers rest)

end

end Json

end Guildkeep
