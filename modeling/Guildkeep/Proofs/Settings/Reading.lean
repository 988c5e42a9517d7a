import Guildkeep.Proofs.Text.Blank
import Guildkeep.Proofs.Text.Digits
import Guildkeep.Settings
import Mathlib.Data.List.Induction

/-!
# What the Environment Says

The settings that an environment asks for, said variable by variable: which texts spell a number and
which switch a flag on, and what is left at its default. Nothing that a variable may hold leads to
settings that could not be worked with.

## Conventions

A variable is unset, holds a text, or holds bytes that are none. An unset one and one that holds no
text say the same, namely nothing. A text may spell a number that is too large for a word, with any
number of zeros in front; it then says nothing either.

## Main results

* `denotes_iff`: digits **denote** what they are read as.
* `parseNatural?_eq_some_iff`, `parseNatural?_eq_none_iff`: which texts are **numbers**.
* `parseFlag_iff`: which texts **switch a flag on**.
* `settings_follow_environment`: each setting, for every environment.
-/

namespace Guildkeep.Settings

open Text

/-! ### Numbers -/

/-- The number that a run of digits **denotes**, the last place being the last digit. -/
inductive Denotes : List Char → Nat → Prop where
  | one {d : Nat} (h : d < 10) : Denotes [Nat.digitChar d] d
  | more {ds : List Char} {n d : Nat} (front : Denotes ds n) (h : d < 10) :
      Denotes (ds ++ [Nat.digitChar d]) (10 * n + d)

/-- The number that a text **spells**: digits, with one plus sign in front or none. -/
def Spells (s : String) (n : Nat) : Prop :=
  ∃ ds, Denotes ds n ∧ (s.toList = ds ∨ s.toList = '+' :: ds)

/-- A digit is the character of **its value**. -/
theorem exists_digitChar {c : Char} (h : isDigit c = true) : ∃ d < 10, c = Nat.digitChar d := by
  simp only [isDigit, Bool.and_eq_true, decide_eq_true_eq, Char.le_def, UInt32.le_iff_toNat_le] at h
  have hlow : 48 ≤ c.toNat := h.1
  have hhigh : c.toNat ≤ 57 := h.2
  refine ⟨c.toNat - 48, by omega, Char.toNat_inj.1 ?_⟩
  rw [Nat.toNat_digitChar_of_lt_ten (by omega)]
  omega

/-- Digits **denote** what they are read as, and nothing else denotes a number. -/
theorem denotes_iff {ds : List Char} {n : Nat} :
    Denotes ds n ↔ ds ≠ [] ∧ (∀ c ∈ ds, isDigit c = true) ∧ ofDigits ds = n := by
  constructor
  · intro h
    induction h with
    | @one d h =>
      refine ⟨List.cons_ne_nil _ _, ?_, ?_⟩
      · intro c hc
        rw [List.mem_singleton.1 hc]
        exact isDigit_digitChar h
      · exact (ofDigits_append [] _).trans ((Nat.zero_add _).trans (digitValue_digitChar h))
    | more front h ih =>
      obtain ⟨-, hdigits, hvalue⟩ := ih
      refine ⟨List.concat_ne_nil _ _, ?_, ?_⟩
      · intro c hc
        rcases List.mem_append.1 hc with hc | hc
        · exact hdigits c hc
        · rw [List.mem_singleton.1 hc]
          exact isDigit_digitChar h
      · rw [ofDigits_append, hvalue, digitValue_digitChar h]
  · rintro ⟨hne, hdigits, rfl⟩
    -- The induction is on the last digit, as the relation is.
    induction ds using List.reverseRecOn with
    | nil => exact absurd rfl hne
    | append_singleton ds c ih =>
      obtain ⟨d, hd, rfl⟩ := exists_digitChar (hdigits c (by simp))
      rw [ofDigits_append, digitValue_digitChar hd]
      by_cases hds : ds = []
      · subst hds
        exact (Nat.zero_add d).symm ▸ .one hd
      · exact .more (ih hds fun c hc => hdigits c (List.mem_append_left _ hc)) hd

/-- The digits of a text behind a plus sign, if there is one, are what it **spells**, and what it is
read as. -/
theorem exists_digits (s : String) :
    ∃ ds, (∀ n, Spells s n ↔ Denotes ds n) ∧ parseNatural? s =
      if ds ≠ [] ∧ ds.all isDigit = true ∧ ofDigits ds < 18446744073709551616 then
        some (UInt64.ofNat (ofDigits ds))
      else none := by
  rw [parseNatural?]
  split
  case h_1 rest hs =>
    refine ⟨rest, fun n => ⟨?_, fun h => ⟨rest, h, .inr hs⟩⟩, rfl⟩
    rintro ⟨ds, hds, htext | htext⟩
    · -- A plus sign is no digit.
      have hplus : isDigit '+' = true := (denotes_iff.1 hds).2.1 '+' (by rw [← htext, hs]; simp)
      exact absurd hplus (by decide)
    · rw [hs] at htext
      rwa [(List.cons.inj htext).2]
  case h_2 hs =>
    refine ⟨s.toList, fun n => ⟨?_, fun h => ⟨s.toList, h, .inl rfl⟩⟩, rfl⟩
    rintro ⟨ds, hds, htext | htext⟩
    · rwa [htext]
    · exact absurd htext (hs ds)

/-- A text is a **number** if it spells one that a word can hold. -/
theorem parseNatural?_eq_some_iff {s : String} {w : UInt64} :
    parseNatural? s = some w ↔ ∃ n < 18446744073709551616, Spells s n ∧ w = UInt64.ofNat n := by
  obtain ⟨ds, hspells, hparse⟩ := exists_digits s
  simp only [hparse, hspells, denotes_iff, List.all_eq_true]
  constructor
  · intro h
    split at h
    case isTrue hds => exact ⟨ofDigits ds, hds.2.2, ⟨hds.1, hds.2.1, rfl⟩, (Option.some.inj h).symm⟩
    case isFalse => cases h
  · rintro ⟨n, hn, ⟨hne, hdigits, rfl⟩, rfl⟩
    rw [if_pos ⟨hne, hdigits, hn⟩]

/-- A text is **no number** if it spells none, or one that a word cannot hold. -/
theorem parseNatural?_eq_none_iff {s : String} :
    parseNatural? s = none ↔ ¬ ∃ n < 18446744073709551616, Spells s n := by
  rw [Option.eq_none_iff_forall_ne_some]
  constructor
  · rintro h ⟨n, hn, hspells⟩
    exact h _ (parseNatural?_eq_some_iff.2 ⟨n, hn, hspells, rfl⟩)
  · rintro h w hw
    obtain ⟨n, hn, hspells, -⟩ := parseNatural?_eq_some_iff.1 hw
    exact h ⟨n, hn, hspells⟩

/-! ### Flags -/

/-- A text **switches a flag on** if it says one of a few words, or nothing at all. -/
def SwitchesOn (s : String) : Prop :=
  SaysOneOf ["", "1", "true", "yes", "on"] s

/-- A flag is on if it **says so**. -/
theorem parseFlag_iff (s : String) : parseFlag s = true ↔ SwitchesOn s :=
  contains_lower_trim_iff

/-! ### Variables -/

/-- A variable **names** a number: it holds a text that spells it, and a word can hold the
number. -/
def Names (env : Environment) (name : String) (n : Nat) : Prop :=
  n < 18446744073709551616 ∧ ∃ text, env.value? name = some (.text text) ∧ Spells text n

section Variables

variable {env env' : Environment} {name text : String}

/-- A variable is found if it is set to a **text**. -/
theorem get?_eq_some_iff : env.get? name = some text ↔ env.value? name = some (.text text) := by
  rw [Environment.get?, Option.bind_eq_some_iff]
  constructor
  · rintro ⟨value, hvalue, htext⟩
    cases value with
    | text s =>
      obtain rfl : s = text := Option.some.inj htext
      exact hvalue
    | raw bytes => cases htext
  · exact fun h => ⟨.text text, h, rfl⟩

/-- The number that a variable **names**, or 1 in place of 0. -/
theorem atLeastOne?_of_names {n : Nat} (h : Names env name n) :
    ∃ w, atLeastOne? env name = some w ∧ w.toNat = max n 1 := by
  obtain ⟨hn, text, hvalue, hspells⟩ := h
  have hparse := parseNatural?_eq_some_iff.2 ⟨n, hn, hspells, rfl⟩
  rw [atLeastOne?, get?_eq_some_iff.2 hvalue, Option.bind_some, hparse]
  refine ⟨_, rfl, ?_⟩
  have hword : (UInt64.ofNat n).toNat = n := UInt64.toNat_ofNat_of_lt' hn
  dsimp only
  split
  case isTrue hzero =>
    have : n = 0 := hword.symm.trans (congrArg UInt64.toNat hzero)
    rw [this]
    rfl
  case isFalse hnonzero =>
    have : n ≠ 0 := by
      rintro rfl
      exact hnonzero rfl
    rw [hword]
    omega

/-- A variable that names no number **says nothing**. -/
theorem atLeastOne?_of_not_names (h : ¬ ∃ n, Names env name n) : atLeastOne? env name = none := by
  rw [atLeastOne?, Option.bind_eq_none_iff]
  intro text htext
  rw [Option.map_eq_none_iff, parseNatural?_eq_none_iff]
  rintro ⟨n, hn, hspells⟩
  exact h ⟨n, hn, text, get?_eq_some_iff.1 htext, hspells⟩

/-- Whatever a variable says, it is **at least 1**. -/
theorem one_le_getD_atLeastOne? {default : UInt64} (h : 1 ≤ default) :
    1 ≤ (atLeastOne? env name).getD default := by
  by_cases hnames : ∃ n, Names env name n
  · obtain ⟨n, hn⟩ := hnames
    obtain ⟨w, hw, hvalue⟩ := atLeastOne?_of_names hn
    rw [hw, Option.getD_some, UInt64.le_iff_toNat_le, hvalue]
    exact Nat.le_max_right n 1
  · rw [atLeastOne?_of_not_names hnames]
    exact h

/-- A setting depends on **its own variable**. -/
theorem get?_congr (h : env'.value? name = env.value? name) : env'.get? name = env.get? name := by
  rw [Environment.get?, Environment.get?, h]

/-- A number that is one at least depends on **its own variable** alone. -/
theorem atLeastOne?_congr (h : env'.value? name = env.value? name) :
    atLeastOne? env' name = atLeastOne? env name := by
  rw [atLeastOne?, atLeastOne?, get?_congr h]

end Variables

/-- **The settings follow the environment.** Whatever its variables hold: at least one save is kept,
and at least one second lies between two saves that nobody asked for. How many saves are kept is
what `SAVE_MAX_SAVES` spells, 0 counting as 1, and 10 if it is unset, no text, or spells no number
below `2 ^ 64`; the seconds are what `AUTOSAVE_INTERVAL_SECS` spells in the same way, and 60
otherwise. Saves are compressed exactly if `SAVE_COMPRESSION` holds a text that switches a flag on.
And another environment that holds the same but for one variable leaves all settings as they are but
the one that is read from that variable. -/
theorem settings_follow_environment (env : Environment) :
    let settings := ofEnvironment env
    (1 ≤ settings.manager.maxSaves ∧ 1 ≤ settings.autosaveSeconds) ∧
    ((∀ n, Names env "SAVE_MAX_SAVES" n → settings.manager.maxSaves.toNat = max n 1) ∧
      ((¬ ∃ n, Names env "SAVE_MAX_SAVES" n) → settings.manager.maxSaves = 10)) ∧
    ((∀ n, Names env "AUTOSAVE_INTERVAL_SECS" n → settings.autosaveSeconds.toNat = max n 1) ∧
      ((¬ ∃ n, Names env "AUTOSAVE_INTERVAL_SECS" n) → settings.autosaveSeconds = 60)) ∧
    (settings.manager.enableCompression = true ↔
      ∃ text, env.value? "SAVE_COMPRESSION" = some (.text text) ∧ SwitchesOn text) ∧
    ∀ (changed : String) (env' : Environment),
      (∀ name, name ≠ changed → env'.value? name = env.value? name) →
      let settings' := ofEnvironment env'
      ("SAVE_MAX_SAVES" ≠ changed → settings'.manager.maxSaves = settings.manager.maxSaves) ∧
      ("AUTOSAVE_INTERVAL_SECS" ≠ changed →
        settings'.autosaveSeconds = settings.autosaveSeconds) ∧
      ("SAVE_COMPRESSION" ≠ changed →
        settings'.manager.enableCompression = settings.manager.enableCompression) ∧
      ("SAVE_DATA_DIR" ≠ changed → settings'.saveDataDir = settings.saveDataDir) := by
  intro settings
  refine ⟨⟨one_le_getD_atLeastOne? (by decide), one_le_getD_atLeastOne? (by decide)⟩,
    ⟨fun n hn => ?_, fun hnone => ?_⟩, ⟨fun n hn => ?_, fun hnone => ?_⟩, ?_,
    fun changed env' hothers =>
      ⟨fun hname => ?_, fun hname => ?_, fun hname => ?_, fun hname => ?_⟩⟩
  · obtain ⟨w, hw, hvalue⟩ := atLeastOne?_of_names hn
    change ((atLeastOne? env "SAVE_MAX_SAVES").getD 10).toNat = _
    rw [hw, Option.getD_some, hvalue]
  · change (atLeastOne? env "SAVE_MAX_SAVES").getD 10 = 10
    rw [atLeastOne?_of_not_names hnone, Option.getD_none]
  · obtain ⟨w, hw, hvalue⟩ := atLeastOne?_of_names hn
    change ((atLeastOne? env "AUTOSAVE_INTERVAL_SECS").getD 60).toNat = _
    rw [hw, Option.getD_some, hvalue]
  · change (atLeastOne? env "AUTOSAVE_INTERVAL_SECS").getD 60 = 60
    rw [atLeastOne?_of_not_names hnone, Option.getD_none]
  · change ((env.get? "SAVE_COMPRESSION").map parseFlag).getD false = true ↔ _
    simp only [← parseFlag_iff, ← get?_eq_some_iff]
    cases env.get? "SAVE_COMPRESSION" with
    | none => simp
    | some text => simp
  · exact congrArg (Option.getD · 10) (atLeastOne?_congr (hothers _ hname))
  · exact congrArg (Option.getD · 60) (atLeastOne?_congr (hothers _ hname))
  · exact congrArg (fun text? => (text?.map parseFlag).getD false) (get?_congr (hothers _ hname))
  · exact get?_congr (hothers _ hname)

end Guildkeep.Settings
