import Guildkeep.Json.Reader
import Guildkeep.Proofs.Number.Rounding

/-!
# What Readers Yield

A text may be spelt in many ways, and a reader takes them all. Whatever the spelling was, the value
that a reader `Yields` has a property that does not depend on it: a number is finite, a record is
made of what the readers of its fields yield.

## Conventions

A property of a record is shown on its drafts. It holds of the blank draft, every field `Keeps` it,
and the last step turns it into the property of the record. Whether the fields stood in an object or
in a list makes no difference.

## Main results

* `yields_float`: **no text is read as an infinity or as NaN**.
* `yields_items`: what holds of every item that can be read holds of every item of a list.
* `yields_record`: a property that the fields keep is a property of the record.
-/

namespace Guildkeep.Json

/-- Whatever the reader **yields** has the property. -/
def Yields {α : Type} (reader : Reader α) (P : α → Prop) : Prop :=
  ∀ cs a rest, reader cs = .ok (a, rest) → P a

/-- What succeeds in two steps succeeds in each. -/
theorem exists_of_bind_eq_ok {ε α β : Type} {x : Except ε α} {f : α → Except ε β} {b : β}
    (h : x >>= f = .ok b) : ∃ a, x = .ok a ∧ f a = .ok b := by
  cases x with
  | error e => cases h
  | ok a => exact ⟨a, rfl, h⟩

/-- A whole text yields what its reader yields. -/
theorem Yields.run {α : Type} {reader : Reader α} {P : α → Prop} (h : Yields reader P) {s : String}
    {a : α} (hrun : reader.run s = .ok a) : P a := by
  obtain ⟨⟨a', rest⟩, hread, hend⟩ := exists_of_bind_eq_ok hrun
  simp only at hend
  split at hend
  · cases hend
    exact h _ _ _ hread
  · cases hend

/-! ### Numbers -/

/-- A number yields what is accepted. -/
theorem yields_number {α : Type} {expected : String} {accept : Number → Except Fault α}
    {P : α → Prop} (h : ∀ n a, accept n = .ok a → P a) : Yields (readNumber expected accept) P := by
  intro cs a rest hread
  rw [readNumber] at hread
  split at hread
  · cases hread
  · split at hread
    · obtain ⟨⟨n, behind⟩, -, hread⟩ := exists_of_bind_eq_ok hread
      obtain ⟨value, haccept, hread⟩ := exists_of_bind_eq_ok hread
      cases hread
      exact h n a haccept
    · cases hread

/-- Every JSON number stands for a **finite** number: words are far below the largest one. -/
theorem isFinite_toFloat (n : Number) : n.toFloat.isFinite = true := by
  cases n with
  | unsigned n =>
    refine Binary64.isFinite_ofInt ?_
    have hlt := n.toNat_lt
    omega
  | negative i hneg =>
    refine Binary64.isFinite_ofInt ?_
    have hlo := i.le_toInt
    omega
  | real s m q h => rfl

/-- **No text is read as an infinity or as NaN.** -/
theorem yields_float : Yields readFloat (·.isFinite = true) := by
  refine yields_number fun n x hx => ?_
  cases hx
  exact isFinite_toFloat n

/-! ### Lists -/

/-- The items of a list are what the reader of items yields. -/
theorem yields_items {α : Type} {item : Reader α} {P : α → Prop} (h : Yields item P) (fuel : Nat)
    (first : Bool) : Yields (readItems item fuel first) (∀ a ∈ ·, P a) := by
  induction fuel generalizing first with
  | zero =>
    intro cs as rest hread
    cases hread
  | succ fuel ih =>
    intro cs as rest hread
    rw [readItems] at hread
    obtain ⟨next, -, hread⟩ := exists_of_bind_eq_ok hread
    cases next with
    | none =>
      cases hread
      exact List.forall_mem_nil _
    | some text =>
      obtain ⟨⟨a, behind⟩, hitem, hread⟩ := exists_of_bind_eq_ok hread
      obtain ⟨⟨others, behind'⟩, hitems, hread⟩ := exists_of_bind_eq_ok hread
      cases hread
      exact List.forall_mem_cons.2 ⟨h _ _ _ hitem, ih false _ _ _ hitems⟩

/-! ### Records -/

section Record

variable {σ : Type} {Q : σ → Prop}

/-- A field **keeps** a property of drafts. -/
def RecordField.Keeps (field : RecordField σ) (Q : σ → Prop) : Prop :=
  ∀ draft, Q draft → Yields (field.read draft) Q

/-- A slot keeps a property that survives whatever is put into it. -/
theorem keeps_slot {α : Type} {P : α → Prop} (name : String) (get : σ → Option α)
    {set : σ → α → σ} {item : Reader α} (hitem : Yields item P)
    (hset : ∀ draft a, Q draft → P a → Q (set draft a)) :
    (RecordField.slot name get set item).Keeps Q := by
  intro draft hdraft cs draft' rest hread
  obtain ⟨⟨a, behind⟩, hread, hdone⟩ := exists_of_bind_eq_ok hread
  cases hdone
  exact hset draft a hdraft (hitem _ _ _ hread)

/-- A slot that a property does not look at. -/
theorem keeps_slot_other {α : Type} (name : String) (get : σ → Option α) {set : σ → α → σ}
    (item : Reader α) (hset : ∀ draft a, Q draft → Q (set draft a)) :
    (RecordField.slot name get set item).Keeps Q :=
  keeps_slot name get (fun _ _ _ _ => trivial) fun draft a hdraft _ => hset draft a hdraft

/-- Making a field optional changes nothing here. -/
theorem RecordField.Keeps.optional {field : RecordField σ} (h : field.Keeps Q) :
    field.optional.Keeps Q :=
  h

variable {fields : List (RecordField σ)}

/-- Members in any order, known or not, keep what every field keeps. -/
theorem yields_members (hfields : ∀ field ∈ fields, field.Keeps Q) (fuel : Nat) (first : Bool)
    {draft : σ} (hdraft : Q draft) : Yields (readMembers fields fuel first draft) Q := by
  induction fuel generalizing first draft with
  | zero =>
    intro cs draft' rest hread
    cases hread
  | succ fuel ih =>
    intro cs draft' rest hread
    rw [readMembers] at hread
    obtain ⟨⟨key?, behind⟩, -, hread⟩ := exists_of_bind_eq_ok hread
    cases key? with
    | none =>
      cases hread
      exact hdraft
    | some key =>
      simp only at hread
      split at hread
      case h_1 field hknown =>
        split at hread
        · cases hread
        · obtain ⟨value, -, hread⟩ := exists_of_bind_eq_ok hread
          obtain ⟨⟨draft₁, behind'⟩, hvalue, hread⟩ := exists_of_bind_eq_ok hread
          have hkept : Q draft₁ :=
            hfields field (List.mem_of_find?_eq_some hknown) draft hdraft _ _ _ hvalue
          exact ih false hkept _ _ _ hread
      case h_2 =>
        obtain ⟨value, -, hread⟩ := exists_of_bind_eq_ok hread
        obtain ⟨behind', -, hread⟩ := exists_of_bind_eq_ok hread
        exact ih false hdraft _ _ _ hread

/-- Fields in the declared order keep what every field keeps. -/
theorem yields_positions (expected : String) (hfields : ∀ field ∈ fields, field.Keeps Q)
    (index : Nat) (first : Bool) {draft : σ} (hdraft : Q draft) :
    Yields (readPositions expected fields index first draft) Q := by
  induction fields generalizing index first draft with
  | nil =>
    intro cs draft' rest hread
    cases hread
    exact hdraft
  | cons field fields ih =>
    obtain ⟨hfield, hothers⟩ := List.forall_mem_cons.1 hfields
    intro cs draft' rest hread
    rw [readPositions] at hread
    obtain ⟨next, -, hread⟩ := exists_of_bind_eq_ok hread
    cases next with
    | none =>
      simp only at hread
      split at hread
      · exact ih hothers _ _ hdraft _ _ _ hread
      · cases hread
    | some text =>
      obtain ⟨⟨draft₁, behind⟩, hvalue, hread⟩ := exists_of_bind_eq_ok hread
      have hkept : Q draft₁ := hfield draft hdraft _ _ _ hvalue
      exact ih hothers _ _ hkept _ _ _ hread

/-- A property that the **fields keep** is a property of the record, spelt as an object or as a
list. -/
theorem yields_record {α : Type} {P : α → Prop} (name : String) {blank : σ}
    {finish : σ → Except Fault α} (hfields : ∀ field ∈ fields, field.Keeps Q) (hblank : Q blank)
    (hfinish : ∀ draft a, Q draft → finish draft = .ok a → P a) :
    Yields (readRecord name fields blank finish) P := by
  intro cs a rest hread
  rw [readRecord] at hread
  split at hread
  · cases hread
  case h_2 text _ =>
    obtain ⟨⟨draft, behind⟩, hmembers, hread⟩ := exists_of_bind_eq_ok hread
    obtain ⟨record, hrecord, hread⟩ := exists_of_bind_eq_ok hread
    cases hread
    exact hfinish draft a (yields_members hfields _ _ hblank _ _ _ hmembers) hrecord
  case h_3 text _ =>
    obtain ⟨⟨draft, behind⟩, hpositions, hread⟩ := exists_of_bind_eq_ok hread
    obtain ⟨record, hrecord, hread⟩ := exists_of_bind_eq_ok hread
    obtain ⟨behind', -, hread⟩ := exists_of_bind_eq_ok hread
    cases hread
    exact hfinish draft a (yields_positions _ hfields _ _ hblank _ _ _ hpositions) hrecord
  · cases hread

/-- A slot that is needed was filled. -/
theorem eq_some_of_need {α : Type} {name : String} {slot : Option α} {a : α}
    (h : need name slot = .ok a) : slot = some a := by
  cases slot with
  | none => cases h
  | some b =>
    cases h
    rfl

end Record

end Guildkeep.Json
