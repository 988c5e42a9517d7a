import Guildkeep.Number.Binary64

/-!
# Shortest Decimals

The decimal with the fewest digits that reads back as a given binary64 number. Grids `10 ^ e` are
tried from coarse to fine; on each grid only the two neighbours of the exact value can read back,
so these are tested, and of two that do the nearer one is taken, a tie going to the even digit.
The exact expansion of the number stands behind the search, so the result always reads back.

## Main results

* `ofDecimal_shortest`: the shortest decimal of a finite number reads back as that number, given
  that its exact expansion does.
-/

namespace Guildkeep

attribute [local instance (2000)] instPowNat instNatPowNat

/-- The decimal `digits · 10 ^ exponent`. -/
structure Decimal where
  digits : Nat
  exponent : Int
  deriving DecidableEq, Repr

namespace Binary64

/-- Whether a decimal reads back as the number `± m · 2 ^ q`. -/
def readsBack (negative : Bool) (d : Decimal) (x : Binary64) : Bool :=
  ofDecimal negative d.digits d.exponent = x

/-- The two neighbours of `num / den` on the grid `10 ^ e`, the nearer first; at equal distance the
even one first. -/
def neighbours (num den : Nat) (e : Int) : List Decimal :=
  let n := num * 10 ^ (-e).toNat
  let d := den * 10 ^ e.toNat
  let below := n / d
  if roundHalfEven n d = below then [⟨below, e⟩, ⟨below + 1, e⟩] else [⟨below + 1, e⟩, ⟨below, e⟩]

/-- The neighbour on the grid `10 ^ e` that reads back, if one does. -/
def onGrid (negative : Bool) (num den : Nat) (e : Int) (x : Binary64) : Option Decimal :=
  (neighbours num den e).find? (readsBack negative · x)

/-- The first hit on the grids `10 ^ e`, `10 ^ (e - 1)`, …, at most `n` of them. -/
def search (negative : Bool) (num den : Nat) (x : Binary64) : Nat → Int → Option Decimal
  | 0, _ => none
  | n + 1, e =>
    match onGrid negative num den e x with
    | some d => some d
    | none => search negative num den x n (e - 1)

/-- `m · 2 ^ q` written out in full. -/
def expansion (m : Nat) (q : Int) : Decimal :=
  if 0 ≤ q then ⟨m * 2 ^ q.toNat, 0⟩ else ⟨m * 5 ^ (-q).toNat, q⟩

/-- A power of ten above `m · 2 ^ q`, by at most two places: `log 2 < 0.30103`. -/
def topGrid (m : Nat) (q : Int) : Int :=
  ((m.log2 : Int) + 1 + q) * 30103 / 100000 + 1

/-- The **shortest decimal** that reads back as `± m · 2 ^ q`. -/
def shortest (negative : Bool) (m : Nat) (q : Int) (h : Canonical m q) : Decimal :=
  if m = 0 then ⟨0, 0⟩
  else
    (search negative (m * 2 ^ q.toNat) (denominator q) (finite negative m q h) 21
      (topGrid m q)).getD (expansion m q)

/-! ### Reading back -/

/-- A decimal from the grid **reads back**. -/
theorem readsBack_of_onGrid {negative : Bool} {num den : Nat} {e : Int} {x : Binary64}
    {d : Decimal} (h : onGrid negative num den e x = some d) : readsBack negative d x = true :=
  List.find?_some (p := (readsBack negative · x)) h

/-- A decimal that is found **reads back**. -/
theorem readsBack_of_search {negative : Bool} {num den : Nat} {x : Binary64} {d : Decimal} :
    ∀ {n : Nat} {e : Int}, search negative num den x n e = some d → readsBack negative d x = true
  | 0, _, h => by simp [search] at h
  | n + 1, e, h => by
    rw [search] at h
    split at h
    · rename_i hgrid
      obtain rfl := Option.some.inj h
      exact readsBack_of_onGrid hgrid
    · exact readsBack_of_search h

/-- The shortest decimal of a finite number **reads back** as that number, given that its exact
expansion does. -/
theorem ofDecimal_shortest {negative : Bool} {m : Nat} {q : Int} (h : Canonical m q)
    (hexact : ofDecimal negative (expansion m q).digits (expansion m q).exponent =
      finite negative m q h) :
    ofDecimal negative (shortest negative m q h).digits (shortest negative m q h).exponent =
      finite negative m q h := by
  unfold shortest
  split
  · rename_i hzero
    subst hzero
    have hq : q = -1074 := by
      rcases h with ⟨-, -, -, hbig | hq⟩
      · omega
      · exact hq
    subst hq
    rfl
  · cases hsearch : search negative (m * 2 ^ q.toNat) (denominator q) (finite negative m q h) 21
        (topGrid m q) with
    | none => simpa [hsearch] using hexact
    | some d => simpa [readsBack, hsearch] using readsBack_of_search hsearch

end Binary64

end Guildkeep
