import Guildkeep.Proofs.Save.Manifest

/-!
# One Order for Showing and for Giving Up

The entries of a manifest are shown newest first, which is a stable sort of all of them at once.
They are given up oldest first, which is a search for the oldest among those that are still there,
again and again. Both follow one order: what is given up is what is shown last, in reverse.

## Conventions

Entries of equal times are told apart by their places alone, and an entry may be listed twice. So
the order is fixed by what it does to the entries of each time: it turns them around.

## Main results

* `Showing`: the **order** in which entries are shown, apart from how they are sorted.
* `Showing.unique`: there is one such order, and `showing_newestFirst`: the entries are shown in it.
* `newestFirst_eq_append_evict`: whatever is given up was shown **last**.
* `evictOver_follows_newestFirst`: eviction in terms of the order of showing.
-/

namespace Guildkeep.Save.Manifest

open Time

/-! ### The order -/

/-- The entries that were made at one moment. -/
def madeAt (entries : List Entry) (t : Instant) : List Entry :=
  entries.filter (·.timestamp = t)

/-- Entries in the order in which they are **shown**: all of them and no other, a later time before
an earlier one, and among equal times the entry made later before the one made earlier. -/
structure Showing (entries shown : List Entry) : Prop where
  all : shown.Perm entries
  descending : shown.Pairwise fun a b => b.timestamp.rank ≤ a.timestamp.rank
  ties : ∀ t, madeAt shown t = (madeAt entries t).reverse

/-- What was made at a time is collected **piece by piece**. -/
theorem madeAt_append (front back : List Entry) (t : Instant) :
    madeAt (front ++ back) t = madeAt front t ++ madeAt back t :=
  List.filter_append ..

/-- An entry is among what was made at **its time**. -/
theorem madeAt_cons_self (e : Entry) (rest : List Entry) :
    madeAt (e :: rest) e.timestamp = e :: madeAt rest e.timestamp :=
  List.filter_cons_of_pos (by simp)

/-- An entry is not among what was made at **another time**. -/
theorem madeAt_cons_of_ne {e : Entry} {t : Instant} (h : e.timestamp ≠ t) (rest : List Entry) :
    madeAt (e :: rest) t = madeAt rest t :=
  List.filter_cons_of_neg (by simpa using h)

/-- Nothing was made at a moment before all the entries. -/
theorem madeAt_of_later {entries : List Entry} {t : Instant}
    (h : ∀ e ∈ entries, t.rank < e.timestamp.rank) : madeAt entries t = [] := by
  refine List.filter_eq_nil_iff.2 fun e he => ?_
  have hlater := h e he
  simp only [decide_eq_true_eq]
  rintro rfl
  omega

/-- An entry is listed by all that list **the same of its time**. -/
theorem mem_of_madeAt_eq {e : Entry} {shown other : List Entry} (he : e ∈ shown)
    (h : madeAt shown e.timestamp = madeAt other e.timestamp) : e ∈ other := by
  have hmade : e ∈ madeAt shown e.timestamp := List.mem_filter.2 ⟨he, by simp⟩
  rw [h] at hmade
  exact List.mem_of_mem_filter hmade

/-- Descending times and the entries of each time **fix a list**. -/
theorem eq_of_descending {shown other : List Entry}
    (hshown : shown.Pairwise fun a b => b.timestamp.rank ≤ a.timestamp.rank)
    (hother : other.Pairwise fun a b => b.timestamp.rank ≤ a.timestamp.rank)
    (hties : ∀ t, madeAt shown t = madeAt other t) : shown = other := by
  induction shown generalizing other with
  | nil =>
    cases other with
    | nil => rfl
    | cons b other =>
      exact absurd (mem_of_madeAt_eq List.mem_cons_self (hties b.timestamp).symm) List.not_mem_nil
  | cons a shown ih =>
    cases other with
    | nil => exact absurd (mem_of_madeAt_eq List.mem_cons_self (hties a.timestamp)) List.not_mem_nil
    | cons b other =>
      -- Each of the two lists has the first entry of the other one, so their first times are equal.
      have hab : b.timestamp.rank ≤ a.timestamp.rank := by
        rcases List.mem_cons.1 (mem_of_madeAt_eq List.mem_cons_self (hties b.timestamp).symm) with
          rfl | hb
        · exact le_rfl
        · exact List.rel_of_pairwise_cons hshown hb
      have hba : a.timestamp.rank ≤ b.timestamp.rank := by
        rcases List.mem_cons.1 (mem_of_madeAt_eq List.mem_cons_self (hties a.timestamp)) with
          rfl | ha
        · exact le_rfl
        · exact List.rel_of_pairwise_cons hother ha
      have htime : a.timestamp = b.timestamp := Instant.eq_of_rank_eq (le_antisymm hba hab)
      have hfirst := hties a.timestamp
      rw [madeAt_cons_self, htime, madeAt_cons_self, List.cons_eq_cons] at hfirst
      obtain ⟨rfl, hsame⟩ := hfirst
      refine congrArg (a :: ·) (ih hshown.of_cons hother.of_cons fun t => ?_)
      by_cases ht : a.timestamp = t
      · rw [← ht]
        exact hsame
      · have hrest := hties t
        rwa [madeAt_cons_of_ne ht, madeAt_cons_of_ne ht] at hrest

namespace Showing

variable {entries others shown other : List Entry} {o : Entry}

/-- Entries can be shown in **one** order only. -/
theorem unique (h : Showing entries shown) (h' : Showing entries other) : shown = other :=
  eq_of_descending h.descending h'.descending fun t => (h.ties t).trans (h'.ties t).symm

/-- The **oldest** entry is shown behind all others. -/
theorem concat_oldest (h : Showing others shown) (hold : takeOldest entries = some (o, others)) :
    Showing entries (shown ++ [o]) := by
  obtain ⟨front, back, rfl, rfl, hfront, hback⟩ := takeOldest_place hold
  refine ⟨?_, ?_, ?_⟩
  · calc
      List.Perm (shown ++ [o]) (o :: shown) := List.perm_append_singleton o shown
      List.Perm _ (o :: (front ++ back)) := h.all.cons o
      List.Perm _ (front ++ o :: back) := List.perm_middle.symm
  · rw [List.pairwise_append]
    refine ⟨h.descending, List.pairwise_singleton _ _, ?_⟩
    intro e he o' ho'
    rw [List.mem_singleton.1 ho']
    rcases List.mem_append.1 (h.all.subset he) with he | he
    · exact (hfront e he).le
    · exact hback e he
  · intro t
    rw [madeAt_append, h.ties, madeAt_append, madeAt_append]
    by_cases ht : o.timestamp = t
    · -- What stands in front of the oldest entry is later, so that nothing changes places with it.
      subst ht
      rw [madeAt_of_later hfront, madeAt_cons_self, madeAt_cons_self]
      exact List.reverse_cons.symm
    · rw [madeAt_cons_of_ne ht, madeAt_cons_of_ne ht]
      exact List.append_nil _

end Showing

/-! ### Showing -/

/-- Whether an entry may be shown before another, wherever they stand. -/
def mayPrecede (a b : Entry) : Bool :=
  !a.timestamp.before b.timestamp

/-- An entry may precede another if it is **no older**. -/
theorem mayPrecede_iff {a b : Entry} :
    mayPrecede a b = true ↔ b.timestamp.rank ≤ a.timestamp.rank := by
  simp [mayPrecede, Instant.before]

/-- Precedence is **transitive**. -/
theorem mayPrecede_trans (a b c : Entry) (hab : mayPrecede a b = true)
    (hbc : mayPrecede b c = true) :
    mayPrecede a c = true :=
  mayPrecede_iff.2 ((mayPrecede_iff.1 hbc).trans (mayPrecede_iff.1 hab))

/-- Of two entries **one may precede** the other. -/
theorem mayPrecede_total (a b : Entry) : (mayPrecede a b || mayPrecede b a) = true := by
  rw [Bool.or_eq_true, mayPrecede_iff, mayPrecede_iff]
  exact Int.le_total _ _

/-- Sorting **keeps the places** of entries of equal times. -/
theorem madeAt_mergeSort (entries : List Entry) (t : Instant) :
    madeAt (entries.mergeSort mayPrecede) t = madeAt entries t := by
  have hequal : (madeAt entries t).Pairwise (mayPrecede · ·) := by
    refine List.pairwise_of_forall_mem_list fun a ha b hb => mayPrecede_iff.2 ?_
    obtain rfl : a.timestamp = t := by simpa using List.of_mem_filter ha
    have htime : b.timestamp = a.timestamp := by simpa using List.of_mem_filter hb
    rw [htime]
  have hsorted : (madeAt entries t).Sublist (madeAt (entries.mergeSort mayPrecede) t) := by
    have hkept :=
      List.sublist_mergeSort mayPrecede_trans mayPrecede_total hequal List.filter_sublist
    simpa [madeAt] using hkept.filter (·.timestamp = t)
  have hlength : (madeAt (entries.mergeSort mayPrecede) t).length = (madeAt entries t).length :=
    ((List.mergeSort_perm entries mayPrecede).filter _).length_eq
  exact (hsorted.eq_of_length hlength.symm).symm

/-- The entries are **shown** in the order. -/
theorem showing_newestFirst (m : Manifest) : Showing m.entries m.newestFirst where
  all := m.newestFirst_perm
  descending :=
    (List.pairwise_mergeSort mayPrecede_trans mayPrecede_total m.entries.reverse).imp
      mayPrecede_iff.1
  ties t := (madeAt_mergeSort m.entries.reverse t).trans (List.filter_reverse ..)

/-! ### Giving up -/

/-- The oldest entry comes **last** where the newest come first. -/
theorem newestFirst_eq_concat {m : Manifest} {o : Entry} {others : List Entry}
    (hold : takeOldest m.entries = some (o, others)) :
    m.newestFirst = ({ m with entries := others } : Manifest).newestFirst ++ [o] :=
  m.showing_newestFirst.unique
    ((showing_newestFirst { m with entries := others }).concat_oldest hold)

/-- Whatever is given up was shown **last**, and the rest is shown as it was. -/
theorem newestFirst_eq_append_evict (n : Nat) (m : Manifest) :
    m.newestFirst = ({ m with entries := (evict n m.entries).2 } : Manifest).newestFirst ++
      (evict n m.entries).1.reverse := by
  induction n generalizing m with
  | zero => exact (List.append_nil _).symm
  | succ n ih =>
    rw [evict]
    split
    case h_1 => exact (List.append_nil _).symm
    case h_2 o others hold =>
      rw [newestFirst_eq_concat hold, ih { m with entries := others }, List.append_assoc]
      exact congrArg _ List.reverse_cons.symm

/-- **One order for showing and for giving up.** The entries are shown newest first. Those given up
beyond a limit are the ones shown behind it, from the last one on. Those kept are as many as there
may be, stand in the order in which they were made, and are shown as they were shown before. -/
theorem evictOver_follows_newestFirst (m : Manifest) (limit : Nat) :
    let evicted := (m.evictOver limit).1
    let kept := (m.evictOver limit).2
    Showing m.entries m.newestFirst ∧
    evicted = (m.newestFirst.drop limit).reverse ∧
    kept.version = m.version ∧
    kept.entries.length = min m.entries.length limit ∧
    kept.entries.Sublist m.entries ∧
    kept.newestFirst = m.newestFirst.take limit := by
  intro evicted kept
  have hsplit : m.newestFirst = kept.newestFirst ++ evicted.reverse :=
    newestFirst_eq_append_evict (m.entries.length - limit) m
  have hlengths : evicted.length = m.entries.length - limit ∧
      kept.entries.length = m.entries.length - (m.entries.length - limit) :=
    length_evict (Nat.sub_le m.entries.length limit)
  have hshown : kept.newestFirst.length = kept.entries.length := kept.newestFirst_perm.length_eq
  have hcut : m.newestFirst.drop limit = evicted.reverse ∧
      m.newestFirst.take limit = kept.newestFirst := by
    rw [hsplit]
    rcases Nat.le_total m.entries.length limit with hle | hle
    · -- Within the limit nothing is given up.
      rw [List.eq_nil_of_length_eq_zero (show evicted.length = 0 by omega), List.reverse_nil,
        List.append_nil]
      exact ⟨List.drop_eq_nil_of_le (by omega), List.take_of_length_le (by omega)⟩
    · have hlimit : kept.newestFirst.length = limit := by omega
      exact ⟨List.drop_left' hlimit, List.take_left' hlimit⟩
  refine ⟨m.showing_newestFirst, ?_, rfl, by omega, evict_sublist _ _, hcut.2.symm⟩
  rw [hcut.1, List.reverse_reverse]

end Guildkeep.Save.Manifest
