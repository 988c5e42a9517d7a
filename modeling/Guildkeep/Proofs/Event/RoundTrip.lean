import Guildkeep.Proofs.Event.Reading

/-!
# The Round Trip of an Event

An event is made of a kind or of a type of the caller's own, and a payload or another id may be
attached to it any number of times. Its envelope is written and read back. Everything comes back
but one thing: a payload that is `null` comes back as no payload, for both look alike to the reader.

## Conventions

The members of an object are kept by key, so every payload that is attached has its objects sorted.
The envelope is one bracket; the payload may open one less than the reader allows.

## Main results

* `Made.read_render`: an event that was made is read back from its text **exactly when** its payload
  is not `null`; with such a payload, everything else is read back.
-/

namespace Guildkeep.Event

open Json

/-- An event that was **made**: of a kind or of the caller's own type, with what was attached to it
since. -/
inductive Made : Event → Prop
  | ofKind (kind : Kind) (source : String) (now : Time.Instant) (id : String) :
      Made (Event.ofKind kind source now id)
  | custom {type source id : String} {now : Time.Instant} {e : Event}
      (named : Event.custom type source now id = .ok e) : Made e
  | withData {e : Event} (made : Made e) {data : Json} (sorted : data.sorted = true) :
      Made (e.withData data)
  | withId {e : Event} (made : Made e) (id : String) : Made (e.withId id)

/-- Nothing is attached to an event of the caller's own type yet. -/
theorem data_of_custom {type source id : String} {now : Time.Instant} {e : Event}
    (h : Event.custom type source now id = .ok e) : e.data = none := by
  rw [Event.custom] at h
  split at h
  · cases h
    rfl
  · cases h

/-- The payload of an event that was made is **sorted**: it is the one that was attached last. -/
theorem Made.sorted {e : Event} (h : e.Made) {data : Json} (hdata : e.data = some data) :
    data.sorted = true := by
  induction h with
  | ofKind => cases hdata
  | custom named => cases (data_of_custom named).symm.trans hdata
  | withData _ sorted =>
    cases hdata
    exact sorted
  | withId _ _ ih => exact ih hdata

/-- **Round trip of an event.** An event that was made, whose payload leaves a bracket for the
envelope, is read back from its text exactly when its payload is not `null`. If it is, the event is
read without a payload and is otherwise the same. -/
theorem Made.read_render {e : Event} (h : e.Made)
    (hdepth : ∀ data, e.data = some data → data.depth + 1 ≤ maxDepth) :
    (Event.read.run e.toJson.render = .ok e ↔ e.data ≠ some null) ∧
    (e.data = some null → Event.read.run e.toJson.render = .ok { e with data := none }) := by
  have hnull (hdata : e.data = some null) :
      Event.read.run e.toJson.render = .ok { e with data := none } :=
    run_of_reads (reads_with_data hdata (reads_none _))
  refine ⟨⟨fun hread hdata => ?_, fun hdata => ?_⟩, hnull⟩
  · -- The payload that was read is none, so it is not the one that was written.
    have hsame := Except.ok.inj ((hnull hdata).symm.trans hread)
    rw [← hsame] at hdata
    cases hdata
  · refine run_of_reads (reads_event fun data hsome => ⟨?_, h.sorted hsome, ?_⟩)
    · rintro rfl
      exact hdata hsome
    · exact Nat.le_sub_one_of_lt (hdepth data hsome)

/-- A type of the caller's own, an id and a source beyond ASCII, numbers of every kind in lists and
sorted objects: the event comes back. With `null` attached in their place, all but that comes
back. -/
theorem Made.read_render_nested :
    let now : Time.Instant := ⟨⟨2024, 2, 29, by decide⟩, 23, 59, 60, 999999999, by decide⟩
    let data : Json := .object [
      ("", .array [.number (.unsigned 18446744073709551615), .number (.negative (-1) (by decide)),
        .number (.real true 0 (-1074) (by decide)), .array [.object [], .null]]),
      ("\u0000é", .string "\"\\\n🦊"), ("é", .bool true)]
    let e := ((ofType "boss.défait" "forêt 🦊" now "").withData data).withId "\u0007"
    (Event.custom "boss.défait" "forêt 🦊" now "" = .ok (ofType "boss.défait" "forêt 🦊" now "") ∧
      data.sorted = true ∧ data.depth = 4) ∧
    Event.read.run e.toJson.render = .ok e ∧
    Event.read.run (e.withData null).toJson.render = .ok { e with data := none } := by
  intro now data e
  have hnamed :
      Event.custom "boss.défait" "forêt 🦊" now "" = .ok (ofType "boss.défait" "forêt 🦊" now "") :=
    if_pos (by decide +kernel)
  have hsorted : data.sorted = true := by decide +kernel
  have hdepth : data.depth = 4 := by decide +kernel
  have hmade : e.Made := ((Made.custom hnamed).withData hsorted).withId _
  refine ⟨⟨hnamed, hsorted, hdepth⟩, ?_, ?_⟩
  · have hsome : e.data ≠ some null := by
      change some data ≠ some null
      simp [data]
    refine (Made.read_render hmade ?_).1.2 hsome
    rintro _ ⟨⟩
    rw [hdepth]
    decide
  · refine (Made.read_render (Made.withData hmade (rfl : null.sorted = true)) ?_).2 rfl
    rintro _ ⟨⟩
    decide

end Guildkeep.Event
