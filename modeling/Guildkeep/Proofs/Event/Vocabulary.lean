import Guildkeep.Event.Basic
import Guildkeep.Proofs.Text.Blank

/-!
# Dotted Names and the Vocabulary

Which texts may be the type of an event, said as a grammar, and which kinds the types have. The
check on the characters of a text accepts this grammar and nothing else; and asking an event for its
kind agrees with asking it of each kind whether it is of that one.

## Conventions

The kind of an event depends on its type alone, whatever way that came about: through a kind,
through a name that was checked, or through a text that was read and never checked.

## Main results

* `segments_eq_splitOn`: the segments are what stands **between the dots**.
* `isDotted_iff`: the check accepts the **dotted names**.
* `types_make_kinds`: which types are taken, and which kinds they have.
-/

namespace Guildkeep.Event

/-! ### Dotted names -/

/-- A **segment** of a dotted name: it is not empty, and has no dot and no white space in it. -/
def Segment (s : String) : Prop :=
  s ≠ "" ∧ ∀ c ∈ s.toList, c ≠ '.' ∧ c ∉ Text.whiteSpace

/-- A **dotted name**: two segments or more, joined by single dots. -/
def DottedName (t : String) : Prop :=
  ∃ parts : List String, 2 ≤ parts.length ∧ (∀ s ∈ parts, Segment s) ∧ t = ".".intercalate parts

/-- The segments are what stands **between the dots**. -/
theorem segments_eq_splitOn (cs : List Char) : segments cs = cs.splitOn '.' := by
  induction cs with
  | nil => rfl
  | cons c cs ih =>
    rw [segments, List.splitOn_cons_eq_if_modifyHead, ih]
    by_cases hc : c = '.'
    · simp [hc]
    · obtain ⟨s, rest, hsplit⟩ := List.exists_cons_of_ne_nil (List.splitOn_ne_nil '.' cs)
      simp [hc, hsplit]

/-- Between the dots there is **no dot**. -/
theorem dot_notMem_segment {cs s : List Char} (h : s ∈ segments cs) : '.' ∉ s := by
  induction cs generalizing s with
  | nil =>
    obtain rfl : s = [] := List.mem_singleton.1 h
    exact List.not_mem_nil
  | cons c cs ih =>
    rw [segments] at h
    split at h
    case isTrue =>
      rcases List.mem_cons.1 h with rfl | h
      · exact List.not_mem_nil
      · exact ih h
    case isFalse hc =>
      split at h
      case h_1 =>
        obtain rfl : s = [c] := List.mem_singleton.1 h
        exact fun hdot => hc (List.mem_singleton.1 hdot).symm
      case h_2 first rest hsegments =>
        rcases List.mem_cons.1 h with rfl | h
        · intro hdot
          rcases List.mem_cons.1 hdot with heq | hdot
          · exact hc heq.symm
          · exact ih (hsegments ▸ List.mem_cons_self) hdot
        · exact ih (hsegments ▸ List.mem_cons_of_mem _ h)

/-- The check for a segment is passed by **segments** only. -/
theorem isSegment_iff {s : String} (hdot : '.' ∉ s.toList) :
    isSegment s.toList = true ↔ Segment s := by
  simp only [isSegment, Segment, Bool.and_eq_true, Bool.not_eq_true', List.isEmpty_eq_false_iff,
    List.any_eq_false, Text.isBlank_iff, ne_eq, String.toList_eq_nil_iff]
  refine and_congr_right fun _ => forall₂_congr fun c hc => ?_
  refine (and_iff_right ?_).symm
  rintro rfl
  exact hdot hc

/-- Two segments or more have a **dot** between them. -/
theorem dot_mem_intercalate {parts : List (List Char)} (h : 2 ≤ parts.length) :
    '.' ∈ ['.'].intercalate parts := by
  match parts, h with
  | first :: second :: rest, _ => simp

/-- The check accepts the **dotted names**, and nothing else. -/
theorem isDotted_iff (t : String) : isDotted t = true ↔ DottedName t := by
  rw [isDotted, Bool.and_eq_true, List.all_eq_true, List.contains_iff_mem]
  constructor
  · rintro ⟨hdot, hall⟩
    have hjoin : ['.'].intercalate (segments t.toList) = t.toList := by
      rw [segments_eq_splitOn, List.intercalate_splitOn]
    refine ⟨(segments t.toList).map String.ofList, ?_, ?_, ?_⟩
    · -- A single segment would be the whole text, and that has a dot.
      rw [List.length_map]
      by_contra hfew
      rw [segments_eq_splitOn] at hfew hjoin
      obtain ⟨s, rest, hsplit⟩ := List.exists_cons_of_ne_nil (List.splitOn_ne_nil '.' t.toList)
      rw [hsplit, List.length_cons] at hfew
      obtain rfl : rest = [] := List.length_eq_zero_iff.1 (by omega)
      rw [hsplit, List.intercalate_singleton] at hjoin
      have hs : s ∈ segments t.toList := by
        rw [segments_eq_splitOn, hsplit]
        exact List.mem_singleton_self s
      exact dot_notMem_segment hs (hjoin ▸ hdot)
    · intro s hs
      obtain ⟨cs, hcs, rfl⟩ := List.mem_map.1 hs
      refine (isSegment_iff ?_).1 ?_
      · rw [String.toList_ofList]
        exact dot_notMem_segment hcs
      · rw [String.toList_ofList]
        exact hall cs hcs
    · apply String.toList_injective
      rw [String.toList_intercalate, List.map_map]
      simpa [Function.comp_def] using hjoin.symm
  · rintro ⟨parts, hmany, hparts, rfl⟩
    rw [String.toList_intercalate]
    have hsegments : segments (['.'].intercalate (parts.map String.toList)) =
        parts.map String.toList := by
      rw [segments_eq_splitOn]
      refine List.splitOn_intercalate '.' ?_ ?_
      · intro cs hcs
        obtain ⟨s, hs, rfl⟩ := List.mem_map.1 hcs
        exact fun hdot => ((hparts s hs).2 '.' hdot).1 rfl
      · rintro hnone
        rw [List.map_eq_nil_iff.1 hnone] at hmany
        exact absurd hmany (by decide)
    refine ⟨dot_mem_intercalate (by rwa [List.length_map]), fun cs hcs => ?_⟩
    have hmem : cs ∈ parts.map String.toList := hsegments ▸ hcs
    obtain ⟨s, hs, rfl⟩ := List.mem_map.1 hmem
    exact (isSegment_iff fun hdot => ((hparts s hs).2 '.' hdot).1 rfl).2 (hparts s hs)

/-! ### Types that a caller chooses -/

section Custom

variable {type : String} {source : String} {now : Time.Instant} {id : String}

/-- A **dotted name** is taken as it is. -/
theorem custom_of_dottedName (h : DottedName type) :
    custom type source now id = .ok (ofType type source now id) :=
  if_pos ((isDotted_iff type).2 h)

/-- A text that is **no dotted name** is refused, and the refusal says which. -/
theorem custom_of_not_dottedName (h : ¬ DottedName type) :
    custom type source now id = .error ⟨type⟩ :=
  if_neg (mt (isDotted_iff type).1 h)

/-- A made-up event has the **type** that it was given. -/
theorem type_of_custom {e : Event} (h : custom type source now id = .ok e) : e.type = type := by
  by_cases hdotted : DottedName type
  · rw [custom_of_dottedName hdotted] at h
    rw [← Except.ok.inj h]
    rfl
  · rw [custom_of_not_dottedName hdotted] at h
    cases h

end Custom

/-! ### The vocabulary -/

/-- The **vocabulary**: the types of the events of the well-known kinds. -/
def vocabulary : List String :=
  ["game.started", "game.ended", "score.changed", "player.health.changed", "player.damaged",
   "player.moved", "game.save.created", "game.save.loaded", "game.save.deleted",
   "game.state.manager.updated", "game.autosave.enabled", "game.autosave.disabled",
   "game.autosave.completed"]

/-- The vocabulary has the type of **every kind** and no other. -/
theorem mem_vocabulary_iff {t : String} : t ∈ vocabulary ↔ ∃ k : Kind, k.type = t := by
  have hall : vocabulary = Kind.all.map Kind.type := rfl
  rw [hall, List.mem_map]
  exact exists_congr fun k => and_iff_right (Kind.mem_all k)

/-- Every type of the vocabulary is a **dotted name**. -/
theorem Kind.dottedName (k : Kind) : DottedName k.type := by
  rw [← isDotted_iff]
  cases k <;> decide

/-- An event has a kind **exactly if** its type is in the vocabulary. -/
theorem exists_kind_iff (e : Event) : (∃ k, e.kind? = some k) ↔ e.type ∈ vocabulary := by
  rw [mem_vocabulary_iff]
  exact exists_congr fun k => Kind.ofType?_eq_some_iff

/-- **Types make kinds.** A text is taken for the type of an event exactly if it is a dotted name,
two or more segments joined by single dots and none of them empty or with a dot or white space in
it; any other text is refused, and the refusal names it. Every kind has a type that is such a name.
An event, whatever its type, is of a kind exactly if that is the kind it has; so it is of at most
one; and an event with a type that a caller chose has a kind exactly if that type is in the
vocabulary. -/
theorem types_make_kinds :
    (∀ type source now id,
      ((∃ e, custom type source now id = .ok e) ↔ DottedName type) ∧
      (custom type source now id = .error ⟨type⟩ ↔ ¬ DottedName type) ∧
      ∀ e, custom type source now id = .ok e →
        e.type = type ∧ ((∃ k, e.kind? = some k) ↔ type ∈ vocabulary)) ∧
    (∀ k : Kind, DottedName k.type) ∧
    ∀ (e : Event) (k : Kind), (e.isKind k = true ↔ e.kind? = some k) ∧
      ∀ j : Kind, e.isKind j = true → e.isKind k = true → j = k := by
  refine ⟨fun type source now id => ?_, Kind.dottedName, fun e k => ⟨isKind_iff, ?_⟩⟩
  · refine ⟨?_, ?_, fun e he => ?_⟩
    · by_cases h : DottedName type
      · exact iff_of_true ⟨_, custom_of_dottedName h⟩ h
      · rw [custom_of_not_dottedName h]
        refine iff_of_false ?_ h
        rintro ⟨e, ⟨⟩⟩
    · by_cases h : DottedName type
      · rw [custom_of_dottedName h]
        exact iff_of_false (by rintro ⟨⟩) (not_not_intro h)
      · exact iff_of_true (custom_of_not_dottedName h) h
    · rw [exists_kind_iff, type_of_custom he]
      exact ⟨rfl, Iff.rfl⟩
  · intro j hj hk
    exact Option.some.inj ((isKind_iff.1 hj).symm.trans (isKind_iff.1 hk))

end Guildkeep.Event
