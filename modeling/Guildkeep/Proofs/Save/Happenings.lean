import Guildkeep.Proofs.Bus.Moments

/-!
# What Happens to Listeners

The history of a manager's listeners: who registered under which number, whose removal was asked
for, which emissions began and who was called in them. From the history alone one can tell who is
registered at any point of it.

## Conventions

An emission is known by the number of things that had been noticed before it. So no two have the
same number, also where one begins while listeners are told of another one.

Who asks for a removal is told whether there was a listener with the number. A removal that found
nobody is part of the history as well, since the next question is whether one was the first.

## Main results

* `present`: those who registered and were **not removed**, in order.
* `RemovesThePresent.there_iff`: a removal finds someone exactly if it is the **first** one since
  the number was given.
-/

namespace Guildkeep

/-- What a notice shows of an emission: that it **began**, or who was told of its event. -/
def Notice.attended? : Notice → Option (Option String × Event)
  | told e => some (none, e)
  | heard listener e _ => some (some listener, e)
  | started .. | finished .. | reported .. | taken .. => none

namespace Scene

/-- What was noticed of **emissions**, in order. -/
def attended (s : Scene) : List (Option String × Event) :=
  s.log.filterMap Notice.attended?

/-- What was attended grows by **one notice** at most. -/
theorem attended_note (s : Scene) (n : Notice) :
    (s.note n).attended = s.attended ++ n.attended?.toList :=
  filterMap_log_note ..

/-- A notice makes the log **longer by one**. -/
theorem length_log_note (s : Scene) (n : Notice) : (s.note n).log.length = s.log.length + 1 := by
  rw [log_note, List.length_append, List.length_singleton]

/-- Work of the bus is **not attended**. -/
theorem Busied.attended {s t : Scene} (h : Busied s t) : t.attended = s.attended :=
  h.filterMap_log fun n hn => by cases n <;> first | rfl | cases hn

/-- Work of the bus makes the log **no shorter**. -/
theorem Busied.length_log_le {s t : Scene} (h : Busied s t) : s.log.length ≤ t.log.length := by
  obtain ⟨more, hlog, -⟩ := h.noticed
  rw [hlog, List.length_append]
  exact Nat.le_add_right _ _

end Scene

namespace Save

/-! ### Histories -/

/-- Something that **happens** to listeners. -/
inductive Happening where
  /-- A listener is registered and given a number. -/
  | registers (id : Nat) (name : String)
  /-- The removal of a number is asked for: whether there was a listener with that number. -/
  | removes (id : Nat) (there : Bool)
  /-- An emission begins. It is known by the number of notices before it. -/
  | begins (emission : Nat) (e : Event)
  /-- In an emission a listener is called. -/
  | calls (emission : Nat) (e : Event) (id : Nat) (name : String)

namespace Happening

/-- The listener that is registered. -/
def registered? : Happening → Option (Nat × String)
  | registers id name => some (id, name)
  | _ => none

/-- The number of which the removal is asked for. -/
def asked? : Happening → Option Nat
  | removes id _ => some id
  | _ => none

/-- The number of the listener that is removed, if there was one. -/
def removed? : Happening → Option Nat
  | removes id there => if there then some id else none
  | _ => none

/-- The listener that is called in an emission, and the event it is told of. -/
def called? (emission : Nat) : Happening → Option ((Nat × String) × Event)
  | calls n e id name => if n = emission then some ((id, name), e) else none
  | _ => none

/-- What the log shows of it. -/
def attended? : Happening → Option (Option String × Event)
  | begins _ e => some (none, e)
  | calls _ e _ name => some (some name, e)
  | _ => none

/-- A happening that registers **is a registration**. -/
theorem registered?_eq_some {h : Happening} {p : Nat × String} :
    h.registered? = some p ↔ h = .registers p.1 p.2 := by
  cases h <;> simp [registered?, Prod.ext_iff]

/-- A happening that asks for a removal **is a removal**, whether it finds something or not. -/
theorem asked?_eq_some {h : Happening} {id : Nat} :
    h.asked? = some id ↔ ∃ there, h = .removes id there := by
  cases h <;> simp [asked?]

/-- A happening that removes **is a removal** that finds something. -/
theorem removed?_eq_some {h : Happening} {id : Nat} :
    h.removed? = some id ↔ h = .removes id true := by
  cases h <;> simp [removed?, and_comm]

end Happening

/-- The listeners that were **registered**, with their numbers, in order. -/
def registrations (past : List Happening) : List (Nat × String) :=
  past.filterMap Happening.registered?

/-- The numbers of those who were **removed**. -/
def removals (past : List Happening) : List Nat :=
  past.filterMap Happening.removed?

/-- Those who were registered and **not removed**, in the order of registration. -/
def present (past : List Happening) : List (Nat × String) :=
  (registrations past).filter fun p => p.1 ∉ removals past

/-- Registrations are collected **piece by piece**. -/
theorem registrations_append (past more : List Happening) :
    registrations (past ++ more) = registrations past ++ registrations more :=
  List.filterMap_append

/-- Removals are collected **piece by piece**. -/
theorem removals_append (past more : List Happening) :
    removals (past ++ more) = removals past ++ removals more :=
  List.filterMap_append

/-- Whatever neither registers nor removes leaves all those **present** who were. -/
theorem present_append {past more : List Happening} (hregistrations : registrations more = [])
    (hremovals : removals more = []) : present (past ++ more) = present past := by
  rw [present, registrations_append, removals_append, hregistrations, hremovals, List.append_nil,
    List.append_nil, present]

/-- A number is present exactly if it was **given and not taken back**. -/
theorem mem_present_iff {past : List Happening} {id : Nat} :
    id ∈ (present past).map (·.1) ↔ id ∈ (registrations past).map (·.1) ∧ id ∉ removals past := by
  rw [present, List.mem_map, List.mem_map]
  constructor
  · rintro ⟨p, hp, rfl⟩
    obtain ⟨hmem, hstays⟩ := List.mem_filter.1 hp
    exact ⟨⟨p, hmem, rfl⟩, of_decide_eq_true hstays⟩
  · rintro ⟨⟨p, hp, rfl⟩, hstays⟩
    exact ⟨p, List.mem_filter.2 ⟨hp, decide_eq_true hstays⟩, rfl⟩

/-- Whoever registers under a number that was never taken back **joins** those who are present. -/
theorem present_registers {past : List Happening} {id : Nat} (hnew : id ∉ removals past)
    (name : String) : present (past ++ [.registers id name]) = present past ++ [(id, name)] := by
  have hregistrations : registrations [.registers id name] = [(id, name)] := rfl
  have hremovals : removals [.registers id name] = [] := rfl
  rw [present, registrations_append, removals_append, hregistrations, hremovals, List.append_nil,
    List.filter_append, ← present, List.filter_cons_of_pos (by simpa using hnew), List.filter_nil]

/-- A removal that finds someone exactly if someone is there takes off **that one only**. -/
theorem present_removes {past : List Happening} {id : Nat} {there : Bool}
    (hthere : there = true ↔ id ∈ (present past).map (·.1)) :
    present (past ++ [.removes id there]) = (present past).filter (·.1 ≠ id) := by
  cases there with
  | true =>
    have hremovals : removals [.removes id true] = [id] := rfl
    rw [present, registrations_append, removals_append, hremovals, present, List.filter_filter]
    refine (congrArg (List.filter _) (List.append_nil _)).trans (List.filter_congr fun p _ => ?_)
    simp [and_comm]
  | false =>
    have hnone : id ∉ (present past).map (·.1) := fun hmem => Bool.false_ne_true (hthere.2 hmem)
    rw [present_append rfl rfl, List.filter_eq_self.2]
    rintro p hp
    exact decide_eq_true fun heq => hnone (List.mem_map.2 ⟨p, hp, heq⟩)

/-! ### Places in a history -/

/-- An entry of two histories in a row is one of the **first** or one of the **second**. -/
theorem append_eq_append_cons {α : Type} {l₁ l₂ before after : List α} {a : α}
    (h : l₁ ++ l₂ = before ++ a :: after) :
    (∃ between, l₁ = before ++ a :: between ∧ after = between ++ l₂) ∨
      ∃ between, before = l₁ ++ between ∧ l₂ = between ++ a :: after := by
  obtain ⟨between, hbefore, hrest⟩ | ⟨between, hfirst, hrest⟩ := List.append_eq_append_iff.1 h
  · exact .inr ⟨between, hbefore, hrest⟩
  · cases between with
    | nil => exact .inr ⟨[], by rw [hfirst, List.append_nil, List.append_nil], hrest.symm⟩
    | cons b between =>
      obtain ⟨rfl, hafter⟩ := List.cons.inj hrest
      exact .inl ⟨between, hfirst, hafter⟩

/-- A list of one has **nothing** before it and nothing after it. -/
theorem singleton_eq_append_cons {α : Type} {a b : α} {before after : List α}
    (h : [a] = before ++ b :: after) : before = [] ∧ a = b ∧ after = [] := by
  cases before with
  | nil =>
    obtain ⟨hab, hafter⟩ := List.cons.inj h
    exact ⟨rfl, hab, hafter.symm⟩
  | cons c before => simp at h

/-- Whatever is found in a list is found **at a place** of it. -/
theorem exists_append_of_mem_filterMap {α β : Type} {f : α → Option β} {l : List α} {b : β}
    (h : b ∈ l.filterMap f) : ∃ before a after, l = before ++ a :: after ∧ f a = some b := by
  obtain ⟨a, ha, hfound⟩ := List.mem_filterMap.1 h
  obtain ⟨before, after, hsplit⟩ := List.append_of_mem ha
  exact ⟨before, a, after, hsplit, hfound⟩

/-! ### Removals -/

section Removal

variable {past : List Happening}

/-- A removal finds someone exactly if there is someone to remove. -/
def RemovesThePresent (past : List Happening) : Prop :=
  ∀ before id there after, past = before ++ .removes id there :: after →
    (there = true ↔ id ∈ (present before).map (·.1))

/-- Only who was registered can have been **removed**. -/
theorem RemovesThePresent.registered (h : RemovesThePresent past) {before after : List Happening}
    (hsplit : past = before ++ after) {id : Nat} (hid : id ∈ removals before) :
    id ∈ (registrations before).map (·.1) := by
  obtain ⟨early, happening, late, rfl, hremoved⟩ := exists_append_of_mem_filterMap hid
  rw [Happening.removed?_eq_some] at hremoved
  subst hremoved
  rw [List.append_assoc] at hsplit
  have hpresent := (h early id true _ hsplit).1 rfl
  rw [registrations_append, List.map_append]
  exact List.mem_append_left _ (mem_present_iff.1 hpresent).1

/-- Who was registered under a number has been removed exactly if that was **asked for** since. -/
theorem RemovesThePresent.removed_iff (h : RemovesThePresent past)
    (hnumbers : ((registrations past).map (·.1)).Nodup) {early between after : List Happening}
    {id : Nat} {name : String} (hsplit : past = early ++ .registers id name :: between ++ after) :
    id ∈ removals (early ++ .registers id name :: between) ↔
      id ∈ between.filterMap Happening.asked? := by
  have hremovals : removals (early ++ .registers id name :: between) =
      removals early ++ removals between :=
    removals_append ..
  rw [hremovals, List.mem_append]
  constructor
  · rintro (hremoved | hremoved)
    · -- A listener that was removed earlier had been given the same number.
      rw [List.append_assoc] at hsplit
      have hearlier := h.registered hsplit hremoved
      rw [hsplit, registrations_append, List.map_append] at hnumbers
      exact absurd rfl ((List.nodup_append.1 hnumbers).2.2 id hearlier id List.mem_cons_self)
    · obtain ⟨happening, hmem, hremoves⟩ := List.mem_filterMap.1 hremoved
      rw [Happening.removed?_eq_some] at hremoves
      exact List.mem_filterMap.2 ⟨happening, hmem, hremoves ▸ rfl⟩
  · intro hasked
    obtain ⟨since, happening, later, rfl, hasks⟩ := exists_append_of_mem_filterMap hasked
    obtain ⟨found, rfl⟩ := Happening.asked?_eq_some.1 hasks
    rw [removals_append, List.mem_append]
    by_cases hearly : id ∈ removals early
    · exact .inl hearly
    by_cases hsince : id ∈ removals since
    · exact .inr (.inl hsince)
    -- Nobody has removed the listener until then, so the removal that is asked for finds it.
    have hthere : id ∈ (present (early ++ .registers id name :: since)).map (·.1) := by
      rw [mem_present_iff, registrations_append, removals_append, List.map_append]
      exact ⟨List.mem_append_right _ List.mem_cons_self,
        fun hgone => (List.mem_append.1 hgone).elim hearly hsince⟩
    have hfound : found = true := by
      refine (h _ id found (later ++ after) ?_).2 hthere
      rw [hsplit, List.append_assoc, List.append_assoc, List.cons_append, List.append_assoc]
      rfl
    subst hfound
    exact .inr (.inr List.mem_cons_self)

/-- A removal finds someone exactly if the number was given and this is the **first** time that its
removal is asked for. -/
theorem RemovesThePresent.there_iff (h : RemovesThePresent past)
    (hnumbers : ((registrations past).map (·.1)).Nodup) {before after : List Happening} {id : Nat}
    {there : Bool} (hsplit : past = before ++ .removes id there :: after) :
    there = true ↔ ∃ early name between, before = early ++ .registers id name :: between ∧
      id ∉ between.filterMap Happening.asked? := by
  rw [h before id there after hsplit, mem_present_iff]
  constructor
  · rintro ⟨hgiven, hstays⟩
    obtain ⟨⟨id, name⟩, hmem, rfl⟩ := List.mem_map.1 hgiven
    obtain ⟨early, happening, between, rfl, hregisters⟩ := exists_append_of_mem_filterMap hmem
    rw [Happening.registered?_eq_some] at hregisters
    subst hregisters
    exact ⟨early, name, between, rfl,
      fun hasked => hstays ((h.removed_iff hnumbers hsplit).2 hasked)⟩
  · rintro ⟨early, name, between, rfl, hfirst⟩
    rw [registrations_append, List.map_append]
    exact ⟨List.mem_append_right _ List.mem_cons_self,
      fun hremoved => hfirst ((h.removed_iff hnumbers hsplit).1 hremoved)⟩

end Removal

end Save

end Guildkeep
