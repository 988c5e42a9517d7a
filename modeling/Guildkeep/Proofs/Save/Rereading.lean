import Guildkeep.Proofs.Event.Reading
import Guildkeep.Proofs.Save.Manifest
import Guildkeep.Proofs.Save.Payload
import Guildkeep.Save.Options

/-!
# What Was Read Can Be Written Again

Readers take far more spellings than are ever written: members in any order, unknown members,
records as lists, escapes, exponents, any offset of a time. Whatever the text was, the value that it
stands for is one that can be written, and what is written for it reads back to that value.

## Main results

* `reads_options`: options are read back from their text.
* `isFinite_of_decode`: **no payload** holds a number that is not finite.
* `read_can_be_written`: the law for payloads, manifests, entries, options and events.
-/

namespace Guildkeep.Save

open Json Game

/-- Options are **read back**. -/
theorem Options.reads_options (o : Options) : Reads Options.read o.toJson.text o := by
  refine reads_record "GameStateManagerOptions" (
    .cons rfl rfl (reads_slot _ _ _ (reads_bool o.enableCompression) _) <|
    .cons rfl rfl (reads_slot _ _ _ (reads_uint64 "usize" o.maxSaves) _) <|
    .nil _) ?_
  rfl

/-- A payload is the text of a snapshot, compressed or not. -/
theorem Payload.exists_parse_of_decode {payload : String} {s : Snapshot}
    (h : decode payload = .ok s) : ∃ text, parse text = .ok s := by
  rw [decode] at h
  split at h
  · obtain ⟨text, -, h⟩ := exists_of_bind_eq_ok h
    exact ⟨text, h⟩
  · exact ⟨payload, h⟩

/-- The numbers of a snapshot that was **decoded** are finite. -/
theorem Payload.isFinite_of_decode {payload : String} {s : Snapshot}
    (h : decode payload = .ok s) : IsFinite s := by
  obtain ⟨text, hparse⟩ := exists_parse_of_decode h
  rw [parse] at hparse
  split at hparse
  case h_1 hrun =>
    cases hparse
    exact yields_snapshot.run hrun
  case h_2 => cases hparse

/-- **What was read can be written again.** A snapshot that was decoded from any payload has a
payload, compressed or not, that decodes to the same snapshot. A manifest, an entry of one, options
and an event that were read from any text are written as texts that read back to the same value. -/
theorem read_can_be_written :
    (∀ payload s, Payload.decode payload = .ok s → ∀ compressed, ∃ again,
      Payload.encode s compressed = .ok again ∧ Payload.decode again = .ok s) ∧
    (∀ text m, Manifest.read.run text = .ok m → Manifest.read.run m.toJson.render = .ok m) ∧
    (∀ text e, Manifest.readEntry.run text = .ok e →
      Manifest.readEntry.run (Manifest.entryJson e).render = .ok e) ∧
    (∀ text o, Options.read.run text = .ok o → Options.read.run o.toJson.render = .ok o) ∧
    (∀ text e, Event.read.run text = .ok e → Event.read.run e.toJson.render = .ok e) := by
  refine ⟨?_, ?_, ?_, ?_, ?_⟩
  · intro payload s hdecode compressed
    obtain ⟨again, hencode, hagain, -⟩ :=
      Payload.exists_payload (Payload.isFinite_of_decode hdecode) compressed
    exact ⟨again, hencode, hagain⟩
  · intro text m _
    exact run_of_reads (Manifest.reads_manifest m)
  · intro text e _
    exact run_of_reads (Manifest.reads_entry e)
  · intro text o _
    exact run_of_reads (Options.reads_options o)
  · intro text e hread
    exact run_of_reads (Event.reads_event (Event.yields_event.run hread))

/-- Records as lists, members in another order, twice or unknown and too large, escapes, exponents,
a leap second at an offset, a title that is `null`: the values can be written again. -/
theorem read_can_be_written_odd_spellings :
    let payload := "[[\"\\u00e9\",1,0,0,[\"\\/\"],\x7b\"y\":-0,\"z\":1e999,\"x\":1e2\x7d," ++
      "\"2024-02-29 23:59:60+01:30\"],[0,-1,5E0,true,\x7b\"Easy\":null\x7d]]"
    let s : Snapshot :=
      { state :=
          { id := "é", level := 1, score := 0, health := 0, inventory := ["/"]
            position := ⟨.finite false 7036874417766400 (-46) (by decide),
              .finite true 0 (-1074) (by decide)⟩
            timestamp := ⟨⟨2024, 2, 29, by decide⟩, 22, 29, 60, 0, by decide⟩ }
        config :=
          { maxLevel := 0, initialHealth := -1
            scoreMultiplier := .finite false 5629499534213120 (-50) (by decide)
            autoSave := true, difficulty := .easy } }
    let entry := "\x7b\"timestamp\":\"+2024-01-01t00:00:00 UTC\",\"title\":null,\"id\":\"a\"\x7d"
    let e : Entry := ⟨"a", none, ⟨⟨2024, 1, 1, by decide⟩, 0, 0, 0, 0, by decide⟩⟩
    let event := "[\"a\",\"\",\x7b\"b\":1,\"a\":[-0,18446744073709551616],\"b\":null\x7d," ++
      "\"2024-02-29T00:00:00Z\",\"\\n\",\"\",\"\"]"
    (Payload.decode payload = .ok s ∧ ∀ compressed, ∃ again,
      Payload.encode s compressed = .ok again ∧ Payload.decode again = .ok s) ∧
    (Manifest.read.run "[7, []]" = .ok ⟨7, []⟩ ∧
      Manifest.read.run (Manifest.toJson ⟨7, []⟩).render = .ok ⟨7, []⟩) ∧
    (Manifest.readEntry.run entry = .ok e ∧
      Manifest.readEntry.run (Manifest.entryJson e).render = .ok e) ∧
    (Options.read.run "[true, 0]" = .ok ⟨true, 0⟩ ∧
      Options.read.run (Options.toJson ⟨true, 0⟩).render = .ok ⟨true, 0⟩) ∧
    ∃ v, Event.read.run event = .ok v ∧ Event.read.run v.toJson.render = .ok v := by
  intro payload s entry e event
  obtain ⟨hpayload, hmanifest, hentry, hoptions, hevent⟩ := read_can_be_written
  have hdecode : Payload.decode payload = .ok s := by decide +kernel
  have hread : Manifest.read.run "[7, []]" = .ok ⟨7, []⟩ := by decide +kernel
  have hreadEntry : Manifest.readEntry.run entry = .ok e := by decide +kernel
  have hreadOptions : Options.read.run "[true, 0]" = .ok ⟨true, 0⟩ := by decide +kernel
  refine ⟨⟨hdecode, hpayload payload s hdecode⟩, ⟨hread, hmanifest _ _ hread⟩,
    ⟨hreadEntry, hentry _ _ hreadEntry⟩, ⟨hreadOptions, hoptions _ _ hreadOptions⟩, ?_⟩
  have haccepted : (Event.read.run event).isOk = true := by decide +kernel
  cases hv : Event.read.run event with
  | error fault =>
    rw [hv] at haccepted
    cases haccepted
  | ok v => exact ⟨v, rfl, hevent _ _ hv⟩

end Guildkeep.Save
