import Guildkeep.Proofs.Engine.Travel
import Guildkeep.Proofs.Save.Retention

/-!
# When a Session Can Be Saved

Numbers that are not finite have no place in a payload. The engine checks no offset, so a session
may be moved to where it cannot be saved. Nothing else that is ordered can do that to a session
whose score multiplier is finite.

## Main results

* `session_saved_iff`: a session has a payload, and can be saved, **exactly if** the place to which
  it was moved is finite.
-/

namespace Guildkeep.Save

open Archive Engine Game Store

/-! ### Payloads -/

/-- A snapshot has no payload only over **one of its numbers**, which is not finite. -/
theorem Payload.encode_error {s : Snapshot} {compressed : Bool} {why : CodecFault}
    (h : Payload.encode s compressed = .error why) :
    ∃ field value, why = .notFinite field value ∧ (field, value) ∈ Payload.floats s ∧
      value.isFinite = false := by
  rw [Payload.encode] at h
  split at h
  case h_1 field value hfind =>
    refine ⟨field, value, (Except.error.inj h).symm, List.mem_of_find?_eq_some hfind, ?_⟩
    simpa using List.find?_some hfind
  case h_2 => cases h

/-- **A session can be saved exactly if it is at a finite place.** Whatever is ordered of a new
engine, each order at any moment: if the first start that is ordered has a finite score multiplier,
there is a session, at the place to which the moves that were played have led. It has a payload,
compressed or not, exactly if that place is finite. If it is, every request to save it in a store in
memory whose manifest can be read saves it; if not, every such request fails over a coordinate, and
changes nothing in the store. Once the place is not finite, no later orders make it finite again. -/
theorem session_saved_iff (orders : List (Order × Moment)) (first : Snapshot)
    (hopening : opening? orders = some first)
    (hmultiplier : first.config.scoreMultiplier.isFinite = true) :
    let reached := place (({} : Engine).travelled orders)
    ∃ s, (({} : Engine).after orders).session = some s ∧ s.state.position = reached ∧
      (∀ compressed, (∃ payload, Payload.encode s compressed = .ok payload) ↔
        FinitePosition reached) ∧
      (∀ (desk : Desk) (store : Memory) (manifest : Manifest) (request : Request),
        store.available = true → listing (texts store) = .ok manifest →
        desk.manager.toSave? request = some s →
        (FinitePosition reached →
          (desk.ask store request).1.savedId? = some (Manager.saveId desk.scene.ambient.next.1)) ∧
        (¬ FinitePosition reached → ∃ field value,
          (desk.ask store request).1 = .failed (.codec (.notFinite field value)) ∧
          (field, value) ∈ [("state.position.x", reached.x), ("state.position.y", reached.y)] ∧
          (desk.ask store request).2.1 = store)) ∧
      ∀ later, FinitePosition (place (({} : Engine).travelled (orders ++ later))) →
        FinitePosition reached := by
  intro reached
  have hmoved := session_at_place orders
  rw [Moved, hopening] at hmoved
  obtain ⟨-, s, hsession, hconfig, hplace⟩ := hmoved
  rw [← hconfig] at hmultiplier
  have hfinite : FinitePosition reached ↔ Payload.IsFinite s := by
    rw [Payload.IsFinite, hplace, ← and_assoc]
    exact (and_iff_left hmultiplier).symm
  refine ⟨s, hsession, hplace, ?_, ?_, ?_⟩
  · intro compressed
    rw [hfinite]
    constructor
    · rintro ⟨payload, hencode⟩
      exact (Payload.eq_of_encode hencode).1
    · exact fun h => ⟨_, Payload.encode_of_isFinite h compressed⟩
  · intro desk store manifest request havailable hlisting hsaves
    rcases desk.manager.answer_saves_memory havailable hlisting hsaves desk.scene.ambient with
      ⟨why, hencode, hfailed, hsame⟩ | ⟨payload, hencode, hsaved, -, -⟩
    · obtain ⟨field, value, rfl, hmem, hvalue⟩ := Payload.encode_error hencode
      have hnot : ¬ FinitePosition reached := by
        rw [hfinite]
        intro h
        cases (Payload.encode_of_isFinite h _).symm.trans hencode
      refine ⟨fun h => absurd h hnot, fun _ => ⟨field, value, hfailed, ?_, hsame⟩⟩
      simp only [Payload.floats, hplace, List.mem_cons, List.not_mem_nil, or_false] at hmem ⊢
      -- The multiplier is the one number that was finite from the start.
      refine hmem.imp_right fun h => h.resolve_right ?_
      rintro ⟨⟩
      cases hmultiplier.symm.trans hvalue
    · exact ⟨fun _ => hsaved, fun h => absurd (hfinite.2 (Payload.eq_of_encode hencode).1) h⟩
  · intro later hlater
    rw [travelled_append, place, movedAlong, List.foldl_append] at hlater
    exact finite_of_movedAlong hlater

/-- After a move of `2 ^ 1023` a session can be saved, and after another one it cannot: autosave
fails over its place, with the store as it was. -/
theorem session_saved_iff_two_long_moves :
    let m : Moment := ⟨.epoch, "0"⟩
    let far : Binary64 := .finite false 4503599627370496 971 (by decide)
    let orders : List (Order × Moment) := [(.pause, m), (.start {}, m), (.move far .zero, m)]
    let further : List (Order × Moment) := orders ++ [(.move far .zero, m)]
    let desk (s : Snapshot) : Desk :=
      { manager := { current := some s, autoSave := true }
        scene := { ambient := { moments := fun _ => m } } }
    let store : Memory := {}
    (opening? orders = some (opened {} m) ∧ opening? further = some (opened {} m) ∧
      (Config.scoreMultiplier {}).isFinite = true) ∧
    (∃ s, (({} : Engine).after orders).session = some s ∧
      ((desk s).ask store .tick).1.savedId? = some (Manager.saveId m)) ∧
    ∃ s, (({} : Engine).after further).session = some s ∧ s.state.position = ⟨.inf false, .zero⟩ ∧
      ∃ field value, ((desk s).ask store .tick).1 = .failed (.codec (.notFinite field value)) ∧
        ((desk s).ask store .tick).2.1 = store := by
  intro m far orders further desk store
  have hplace : FinitePosition (place (({} : Engine).travelled orders)) :=
    ⟨by decide +kernel, by decide +kernel⟩
  have hlost : place (({} : Engine).travelled further) = ⟨.inf false, .zero⟩ := by decide +kernel
  have hnot : ¬ FinitePosition (place (({} : Engine).travelled further)) := by
    rw [hlost]
    exact fun h => nomatch h.1
  obtain ⟨s, hsession, -, -, hsaved, -⟩ := session_saved_iff orders (opened {} m) rfl rfl
  obtain ⟨s', hsession', hposition, -, hfailed, -⟩ :=
    session_saved_iff further (opened {} m) rfl rfl
  have hmade := (hsaved (desk s) store {} .tick rfl rfl rfl).1 hplace
  obtain ⟨field, value, hanswer, -, hsame⟩ := (hfailed (desk s') store {} .tick rfl rfl rfl).2 hnot
  exact ⟨⟨rfl, rfl, rfl⟩, ⟨s, hsession, hmade⟩, s', hsession', hposition.trans hlost, field, value,
    hanswer, hsame⟩

end Guildkeep.Save
