import Guildkeep.Game.Record
import Guildkeep.Proofs.Json.Reading
import Guildkeep.Proofs.Json.Yield
import Guildkeep.Proofs.Time.Reading

/-!
# Game Values Read Back

Every value that a save holds is read back from its JSON text, as long as its floating-point numbers
are finite. The records are filled one member at a time, in the order in which they are written.
Nothing else can be read: whatever text a value came from, its numbers are finite.

## Main results

* `reads_snapshot`: a **snapshot** is read back from its text if its three numbers are finite.
* `yields_snapshot`: the three numbers of a snapshot that was read are finite.
-/

namespace Guildkeep

open Json

/-- An instant is **read back**. -/
theorem Time.reads_instant (t : Instant) : Reads readInstant t.toJson.text t := by
  intro rest _
  have hstring := readStringAs_stringText "an RFC 3339 formatted date and time string" t.text rest
  rw [Instant.toJson, text, readInstant, hstring]
  simp only [bind, Except.bind, Instant.read_text]

namespace Game

/-- A difficulty is **read back**. -/
theorem reads_difficulty (d : Difficulty) : Reads Difficulty.read d.toJson.text d :=
  reads_variant _ (Difficulty.ofName?_name d)

/-- A finite position is **read back**. -/
theorem reads_position {p : Position} (hx : p.x.isFinite = true) (hy : p.y.isFinite = true) :
    Reads Position.read p.toJson.text p := by
  refine reads_record "Position" (
    .cons rfl rfl (reads_slot _ _ _ (reads_float hx) _) <|
    .cons rfl rfl (reads_slot _ _ _ (reads_float hy) _) <|
    .nil _) ?_
  rfl

/-- A configuration with a finite multiplier is **read back**. -/
theorem reads_config {c : Config} (h : c.scoreMultiplier.isFinite = true) :
    Reads Config.read c.toJson.text c := by
  refine reads_record "GameConfig" (
    .cons rfl rfl (reads_slot _ _ _ (reads_uint32 c.maxLevel) _) <|
    .cons rfl rfl (reads_slot _ _ _ (reads_int32 c.initialHealth) _) <|
    .cons rfl rfl (reads_slot _ _ _ (reads_float h) _) <|
    .cons rfl rfl (reads_slot _ _ _ (reads_bool c.autoSave) _) <|
    .cons rfl rfl (reads_slot _ _ _ (reads_difficulty c.difficulty) _) <|
    .nil _) ?_
  rfl

/-- A state with a finite position is **read back**. -/
theorem reads_state {s : State} (hx : s.position.x.isFinite = true)
    (hy : s.position.y.isFinite = true) : Reads State.read s.toJson.text s := by
  refine reads_record "GameState" (
    .cons rfl rfl (reads_slot _ _ _ (reads_string s.id) _) <|
    .cons rfl rfl (reads_slot _ _ _ (reads_uint32 s.level) _) <|
    .cons rfl rfl (reads_slot _ _ _ (reads_int64 s.score) _) <|
    .cons rfl rfl (reads_slot _ _ _ (reads_int32 s.health) _) <|
    .cons rfl rfl (reads_slot _ _ _ (reads_list fun item _ => reads_string item) _) <|
    .cons rfl rfl (reads_slot _ _ _ (reads_position hx hy) _) <|
    .cons rfl rfl (reads_slot _ _ _ (Time.reads_instant s.timestamp) _) <|
    .nil _) ?_
  rfl

/-- A **snapshot** is read back from its text if its numbers are finite. -/
theorem reads_snapshot {s : Snapshot} (hx : s.state.position.x.isFinite = true)
    (hy : s.state.position.y.isFinite = true) (hm : s.config.scoreMultiplier.isFinite = true) :
    Reads Snapshot.read s.toJson.text s := by
  refine reads_record "Snapshot" (
    .cons rfl rfl (reads_slot _ _ _ (reads_state hx hy) _) <|
    .cons rfl rfl (reads_slot _ _ _ (reads_config hm) _) <|
    .nil _) ?_
  rfl

/-! ### What can be read -/

/-- Every position that is read is **finite**. -/
theorem yields_position :
    Yields Position.read fun p => p.x.isFinite = true ∧ p.y.isFinite = true := by
  refine yields_record (Q := fun d =>
    (∀ x, d.x = some x → x.isFinite = true) ∧ ∀ y, d.y = some y → y.isFinite = true) "Position"
    (List.forall_mem_cons.2 ⟨?_, List.forall_mem_singleton.2 ?_⟩) ?_ ?_
  · refine keeps_slot _ _ yields_float fun d x hd hx => ⟨?_, hd.2⟩
    rintro x' ⟨⟩
    exact hx
  · refine keeps_slot _ _ yields_float fun d y hd hy => ⟨hd.1, ?_⟩
    rintro y' ⟨⟩
    exact hy
  · exact ⟨(fun _ h => nomatch h), fun _ h => nomatch h⟩
  · intro d p hd hfinish
    obtain ⟨x, hx, hfinish⟩ := exists_of_bind_eq_ok hfinish
    obtain ⟨y, hy, hfinish⟩ := exists_of_bind_eq_ok hfinish
    cases hfinish
    exact ⟨hd.1 x (eq_some_of_need hx), hd.2 y (eq_some_of_need hy)⟩

/-- Every configuration that is read has a **finite multiplier**. -/
theorem yields_config : Yields Config.read (·.scoreMultiplier.isFinite = true) := by
  refine yields_record (Q := fun d => ∀ m, d.scoreMultiplier = some m → m.isFinite = true)
    "GameConfig" ?_ ?_ ?_
  · simp only [Config.fields, List.forall_mem_cons]
    refine ⟨keeps_slot_other _ _ _ fun _ _ h => h, keeps_slot_other _ _ _ fun _ _ h => h, ?_,
      keeps_slot_other _ _ _ fun _ _ h => h, keeps_slot_other _ _ _ fun _ _ h => h,
      List.forall_mem_nil _⟩
    refine keeps_slot _ _ yields_float fun d m _ hm => ?_
    rintro m' ⟨⟩
    exact hm
  · exact fun _ h => nomatch h
  · intro d c hd hfinish
    obtain ⟨maxLevel, -, hfinish⟩ := exists_of_bind_eq_ok hfinish
    obtain ⟨initialHealth, -, hfinish⟩ := exists_of_bind_eq_ok hfinish
    obtain ⟨m, hm, hfinish⟩ := exists_of_bind_eq_ok hfinish
    obtain ⟨autoSave, -, hfinish⟩ := exists_of_bind_eq_ok hfinish
    obtain ⟨difficulty, -, hfinish⟩ := exists_of_bind_eq_ok hfinish
    cases hfinish
    exact hd m (eq_some_of_need hm)

/-- Every state that is read has a **finite position**. -/
theorem yields_state :
    Yields State.read fun s => s.position.x.isFinite = true ∧ s.position.y.isFinite = true := by
  refine yields_record (Q := fun d =>
    ∀ p, d.position = some p → p.x.isFinite = true ∧ p.y.isFinite = true) "GameState" ?_ ?_ ?_
  · simp only [State.fields, List.forall_mem_cons]
    refine ⟨keeps_slot_other _ _ _ fun _ _ h => h, keeps_slot_other _ _ _ fun _ _ h => h,
      keeps_slot_other _ _ _ fun _ _ h => h, keeps_slot_other _ _ _ fun _ _ h => h,
      keeps_slot_other _ _ _ fun _ _ h => h, ?_, keeps_slot_other _ _ _ fun _ _ h => h,
      List.forall_mem_nil _⟩
    refine keeps_slot _ _ yields_position fun d p _ hp => ?_
    rintro p' ⟨⟩
    exact hp
  · exact fun _ h => nomatch h
  · intro d s hd hfinish
    obtain ⟨id, -, hfinish⟩ := exists_of_bind_eq_ok hfinish
    obtain ⟨level, -, hfinish⟩ := exists_of_bind_eq_ok hfinish
    obtain ⟨score, -, hfinish⟩ := exists_of_bind_eq_ok hfinish
    obtain ⟨health, -, hfinish⟩ := exists_of_bind_eq_ok hfinish
    obtain ⟨inventory, -, hfinish⟩ := exists_of_bind_eq_ok hfinish
    obtain ⟨position, hposition, hfinish⟩ := exists_of_bind_eq_ok hfinish
    obtain ⟨timestamp, -, hfinish⟩ := exists_of_bind_eq_ok hfinish
    cases hfinish
    exact hd position (eq_some_of_need hposition)

/-- The numbers of a **snapshot** that was read are finite, however the text was spelt. -/
theorem yields_snapshot :
    Yields Snapshot.read fun s => s.state.position.x.isFinite = true ∧
      s.state.position.y.isFinite = true ∧ s.config.scoreMultiplier.isFinite = true := by
  refine yields_record (Q := fun d =>
    (∀ s, d.state = some s → s.position.x.isFinite = true ∧ s.position.y.isFinite = true) ∧
      ∀ c, d.config = some c → c.scoreMultiplier.isFinite = true) "Snapshot"
    (List.forall_mem_cons.2 ⟨?_, List.forall_mem_singleton.2 ?_⟩) ?_ ?_
  · refine keeps_slot _ _ yields_state fun d s hd hs => ⟨?_, hd.2⟩
    rintro s' ⟨⟩
    exact hs
  · refine keeps_slot _ _ yields_config fun d c hd hc => ⟨hd.1, ?_⟩
    rintro c' ⟨⟩
    exact hc
  · exact ⟨(fun _ h => nomatch h), fun _ h => nomatch h⟩
  · intro d s hd hfinish
    obtain ⟨state, hstate, hfinish⟩ := exists_of_bind_eq_ok hfinish
    obtain ⟨config, hconfig, hfinish⟩ := exists_of_bind_eq_ok hfinish
    cases hfinish
    obtain ⟨hx, hy⟩ := hd.1 state (eq_some_of_need hstate)
    exact ⟨hx, hy, hd.2 config (eq_some_of_need hconfig)⟩

end Game

end Guildkeep
