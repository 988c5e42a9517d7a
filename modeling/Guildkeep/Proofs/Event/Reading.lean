import Guildkeep.Event.Basic
import Guildkeep.Proofs.Game.Record
import Guildkeep.Proofs.Json.Whole

/-!
# Events Read Back

An event is read back from its envelope if its payload, where there is one, is not `null`, has its
objects sorted and leaves a bracket for the envelope. An event that was read is always of this kind.

## Main results

* `reads_event`: an **event** with a payload of this kind is read back.
* `yields_event`: no other event can be read.
-/

namespace Guildkeep.Event

open Json

/-- A payload that **survives** the envelope. -/
def Survives (data : Option Json) : Prop :=
  ∀ v, data = some v → v ≠ .null ∧ Fits (maxDepth - 1) v

/-- Only the text of `null` starts like that word. -/
theorem head_text_ne {v : Json} (h : v ≠ .null) : v.text.head? ≠ some 'n' := by
  cases v with
  | null => exact absurd rfl h
  | bool b => cases b <;> decide
  | number n =>
    obtain ⟨c, cs, htext, hc⟩ := startsNumber_of_scanNumber (scanNumber_text n ends_nil)
    rw [List.append_nil] at htext
    rw [Json.text, htext]
    rintro ⟨⟩
    exact absurd hc (by decide)
  | string s => simp [Json.text, stringText]
  | array items => simp [Json.text]
  | object members => simp [Json.text]

/-- An event with a payload is read with what is read in place of the payload. -/
theorem reads_with_data {e : Event} {data : Json} {back : Option Json} (hdata : e.data = some data)
    (h : Reads (readOption (readValue (maxDepth - 1))) data.text back) :
    Reads Event.read e.toJson.text { e with data := back } := by
  obtain ⟨type, source, _, timestamp, id, specVersion, dataContentType⟩ := e
  subst hdata
  refine reads_record "DomainEvent" (
    .cons rfl rfl (reads_slot _ _ _ (reads_string type) _) <|
    .cons rfl rfl (reads_slot _ _ _ (reads_string source) _) <|
    .cons rfl rfl (reads_optional (reads_slot _ _ _ h _)) <|
    .cons rfl rfl (reads_slot _ _ _ (Time.reads_instant timestamp) _) <|
    .cons rfl rfl (reads_slot _ _ _ (reads_string id) _) <|
    .cons rfl rfl (reads_slot _ _ _ (reads_string specVersion) _) <|
    .cons rfl rfl (reads_slot _ _ _ (reads_string dataContentType) _) <|
    .nil _) ?_
  rfl

/-- An event without a payload is read back. -/
theorem reads_without_data {e : Event} (hdata : e.data = none) :
    Reads Event.read e.toJson.text e := by
  obtain ⟨type, source, _, timestamp, id, specVersion, dataContentType⟩ := e
  subst hdata
  refine reads_record "DomainEvent" (
    .cons rfl rfl (reads_slot _ _ _ (reads_string type) _) <|
    .cons rfl rfl (reads_slot _ _ _ (reads_string source) _) <|
    .cons rfl rfl (reads_slot _ _ _ (Time.reads_instant timestamp) _) <|
    .cons rfl rfl (reads_slot _ _ _ (reads_string id) _) <|
    .cons rfl rfl (reads_slot _ _ _ (reads_string specVersion) _) <|
    .cons rfl rfl (reads_slot _ _ _ (reads_string dataContentType) _) <|
    .nil _) ?_
  rfl

/-- An **event** is read back if its payload survives the envelope. -/
theorem reads_event {e : Event} (h : Survives e.data) : Reads Event.read e.toJson.text e := by
  cases hdata : e.data with
  | some data =>
    obtain ⟨hnull, hfits⟩ := h data hdata
    have hread := reads_with_data hdata
      (reads_some (reads_value hfits) (starts_text data) (head_text_ne hnull))
    rwa [← hdata] at hread
  | none => exact reads_without_data hdata

/-- The payload of an event that was **read** survives the envelope. -/
theorem yields_event : Yields Event.read fun e => Survives e.data := by
  refine yields_record (Q := fun d => ∀ data, d.data = some data → Survives data) "DomainEvent"
    ?_ ?_ ?_
  · simp only [Event.fields, List.forall_mem_cons]
    refine ⟨keeps_slot_other _ _ _ fun _ _ h => h, keeps_slot_other _ _ _ fun _ _ h => h,
      RecordField.Keeps.optional ?_, keeps_slot_other _ _ _ fun _ _ h => h,
      keeps_slot_other _ _ _ fun _ _ h => h, keeps_slot_other _ _ _ fun _ _ h => h,
      keeps_slot_other _ _ _ fun _ _ h => h, List.forall_mem_nil _⟩
    refine keeps_slot _ _ (yields_option_value (maxDepth - 1)) fun d data _ hdata => ?_
    rintro data' ⟨⟩
    exact hdata
  · exact fun _ h => nomatch h
  · intro d e hd hfinish
    obtain ⟨type, -, hfinish⟩ := exists_of_bind_eq_ok hfinish
    obtain ⟨source, -, hfinish⟩ := exists_of_bind_eq_ok hfinish
    obtain ⟨timestamp, -, hfinish⟩ := exists_of_bind_eq_ok hfinish
    obtain ⟨id, -, hfinish⟩ := exists_of_bind_eq_ok hfinish
    obtain ⟨specVersion, -, hfinish⟩ := exists_of_bind_eq_ok hfinish
    obtain ⟨dataContentType, -, hfinish⟩ := exists_of_bind_eq_ok hfinish
    cases hfinish
    -- A payload that is left out and one that is `null` are the same.
    cases hslot : d.data with
    | none => exact fun _ h => nomatch h
    | some data => exact hd data hslot

end Guildkeep.Event
