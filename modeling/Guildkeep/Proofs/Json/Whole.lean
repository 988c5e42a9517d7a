import Guildkeep.Proofs.Json.Reading
import Guildkeep.Proofs.Json.Yield
import Mathlib.Data.String.Basic

/-!
# Whole Values Read Back

A value that was read has the members of its objects sorted, each key once, and nests no deeper than
the reader allows. These are exactly the values that the reader gives back when it reads their text:
sorting a sorted object changes nothing.

## Main results

* `yields_value`: what is read as a value is **sorted and not too deep**.
* `reads_value`: every value of that kind is **read back** from its text.
* `yields_option_value`: a value that may be missing is never `null`, for `null` means that it is.
-/

namespace Guildkeep.Json

/-! ### Sorted and not too deep -/

/-- Items are sorted if **each of them** is. -/
theorem sortedItems_iff {items : List Json} :
    sortedItems items = true ↔ ∀ item ∈ items, item.sorted = true := by
  induction items with
  | nil => simp [sortedItems]
  | cons item items ih => simp [sortedItems, ih]

/-- Members are sorted if their keys are and every value is. -/
theorem sortedMembers_iff {members : List (String × Json)} :
    sortedMembers members = true ↔
      members.Pairwise (fun a b => a.1 < b.1) ∧ ∀ member ∈ members, member.2.sorted = true := by
  induction members with
  | nil => simp [sortedMembers]
  | cons member members ih =>
    simp only [sortedMembers, Bool.and_eq_true, ih, List.all_eq_true, decide_eq_true_eq,
      List.pairwise_cons, List.forall_mem_cons]
    tauto

/-- Items are no deeper than a bound if **each of them** is. -/
theorem depthItems_le_iff {items : List Json} {d : Nat} :
    depthItems items ≤ d ↔ ∀ item ∈ items, item.depth ≤ d := by
  induction items with
  | nil => simp [depthItems]
  | cons item items ih => simp [depthItems, ih]

/-- Members are no deeper than a bound if **each of them** is. -/
theorem depthMembers_le_iff {members : List (String × Json)} {d : Nat} :
    depthMembers members ≤ d ↔ ∀ member ∈ members, member.2.depth ≤ d := by
  induction members with
  | nil => simp [depthMembers]
  | cons member members ih => simp [depthMembers, ih]

/-- A value that a reader can **give back**: sorted, with at most `d` brackets open at once. -/
def Fits (d : Nat) (v : Json) : Prop :=
  v.sorted = true ∧ v.depth ≤ d

/-- An array fits if its **items** fit one level further down. -/
theorem fits_array_iff {d : Nat} {items : List Json} :
    Fits (d + 1) (array items) ↔ ∀ item ∈ items, Fits d item := by
  rw [Fits, sorted, depth, sortedItems_iff, Nat.add_comm d 1, Nat.add_le_add_iff_left,
    depthItems_le_iff, ← forall₂_and]
  rfl

/-- An object fits if its **keys are in order** and its values fit one level further down. -/
theorem fits_object_iff {d : Nat} {members : List (String × Json)} :
    Fits (d + 1) (object members) ↔
      members.Pairwise (fun a b => a.1 < b.1) ∧ ∀ member ∈ members, Fits d member.2 := by
  rw [Fits, sorted, depth, sortedMembers_iff, Nat.add_comm d 1, Nat.add_le_add_iff_left,
    depthMembers_le_iff, and_assoc, ← forall₂_and]
  rfl

/-! ### Members in their places -/

/-- An insertion adds **no member** but the one that is inserted. -/
theorem mem_insertMember {key : String} {value : Json} {members : List (String × Json)}
    {member : String × Json} (h : member ∈ insertMember key value members) :
    member = (key, value) ∨ member ∈ members := by
  induction members with
  | nil => exact .inl (List.mem_singleton.1 h)
  | cons head members ih =>
    rw [insertMember] at h
    split_ifs at h
    · exact List.mem_cons.1 h
    · exact (List.mem_cons.1 h).imp_right (List.mem_cons_of_mem head)
    · obtain rfl | h := List.mem_cons.1 h
      · exact .inr List.mem_cons_self
      · exact (ih h).imp_right (List.mem_cons_of_mem head)

/-- Putting a member in its place leaves the keys **sorted**. -/
theorem pairwise_insertMember {members : List (String × Json)}
    (h : members.Pairwise fun a b => a.1 < b.1) (key : String) (value : Json) :
    (insertMember key value members).Pairwise fun a b => a.1 < b.1 := by
  induction members with
  | nil => exact List.pairwise_singleton _ _
  | cons head members ih =>
    obtain ⟨hhead, hmembers⟩ := List.pairwise_cons.1 h
    rw [insertMember]
    split_ifs with hlt heq
    · refine List.pairwise_cons.2 ⟨?_, h⟩
      exact List.forall_mem_cons.2 ⟨hlt, fun member hmember => hlt.trans (hhead member hmember)⟩
    · exact List.pairwise_cons.2 ⟨heq ▸ hhead, hmembers⟩
    · refine List.pairwise_cons.2 ⟨?_, ih hmembers⟩
      intro member hmember
      obtain rfl | hmember := mem_insertMember hmember
      · exact lt_of_le_of_ne (not_lt.1 hlt) (Ne.symm heq)
      · exact hhead member hmember

/-- The place of a member with the greatest key is the **last** one. -/
theorem insertMember_last {key : String} {members : List (String × Json)}
    (h : ∀ member ∈ members, member.1 < key) (value : Json) :
    insertMember key value members = members ++ [(key, value)] := by
  induction members with
  | nil => rfl
  | cons head members ih =>
    obtain ⟨hhead, hmembers⟩ := List.forall_mem_cons.1 h
    rw [insertMember, if_neg hhead.asymm, if_neg hhead.ne', ih hmembers, List.cons_append]

/-! ### What is read -/

/-- A value is read as a list or an object, if one more bracket may be open, or else as a scalar. -/
theorem readValue_cases {d : Nat} {cs rest : List Char} {v : Json}
    (h : readValue d cs = .ok (v, rest)) :
    (∃ n text items, d = n + 1 ∧ v = array items ∧
      readItems (readValue n) text.length.succ true text = .ok (items, rest)) ∨
    (∃ n text members, d = n + 1 ∧ v = object members ∧
      readSorted (readValue n) text.length.succ true [] text = .ok (members, rest)) ∨
    readScalar (skipSpace cs) = .ok (v, rest) := by
  unfold readValue at h
  split at h
  · cases h
  · cases h
  case h_3 text n _ =>
    obtain ⟨⟨items, behind⟩, hitems, h⟩ := exists_of_bind_eq_ok h
    cases h
    exact .inl ⟨n, text, items, rfl, rfl, hitems⟩
  case h_4 text n _ =>
    obtain ⟨⟨members, behind⟩, hmembers, h⟩ := exists_of_bind_eq_ok h
    cases h
    exact .inr (.inl ⟨n, text, members, rfl, rfl, hmembers⟩)
  · exact .inr (.inr h)

/-- A scalar opens no bracket, and only the word for it is read as `null`. -/
theorem readScalar_cases {cs rest : List Char} {v : Json} (h : readScalar cs = .ok (v, rest)) :
    (∀ d, Fits d v) ∧ (v = null → cs.head? = some 'n') := by
  have hfits {w : Json} (hsorted : w.sorted = true) (hdepth : w.depth = 0) (d : Nat) : Fits d w :=
    ⟨hsorted, hdepth ▸ Nat.zero_le d⟩
  rw [readScalar.eq_def] at h
  split at h
  · cases h
  · obtain ⟨behind, -, h⟩ := exists_of_bind_eq_ok h
    cases h
    exact ⟨hfits rfl rfl, fun _ => rfl⟩
  · obtain ⟨behind, -, h⟩ := exists_of_bind_eq_ok h
    cases h
    exact ⟨hfits rfl rfl, nofun⟩
  · obtain ⟨behind, -, h⟩ := exists_of_bind_eq_ok h
    cases h
    exact ⟨hfits rfl rfl, nofun⟩
  · obtain ⟨⟨s, behind⟩, -, h⟩ := exists_of_bind_eq_ok h
    cases h
    exact ⟨hfits rfl rfl, nofun⟩
  · split at h
    · obtain ⟨⟨n, behind⟩, -, h⟩ := exists_of_bind_eq_ok h
      cases h
      exact ⟨hfits rfl rfl, nofun⟩
    · cases h

/-- Members are sorted while they are read. -/
theorem yields_sorted {value : Reader Json} {d : Nat} (hvalue : Yields value (Fits d)) (fuel : Nat)
    (first : Bool) {members : List (String × Json)} (hmembers : Fits (d + 1) (object members)) :
    Yields (readSorted value fuel first members) fun members => Fits (d + 1) (object members) := by
  induction fuel generalizing first members with
  | zero =>
    intro cs members' rest hread
    cases hread
  | succ fuel ih =>
    intro cs members' rest hread
    rw [readSorted] at hread
    obtain ⟨⟨key?, behind⟩, -, hread⟩ := exists_of_bind_eq_ok hread
    cases key? with
    | none =>
      cases hread
      exact hmembers
    | some key =>
      obtain ⟨text, -, hread⟩ := exists_of_bind_eq_ok hread
      obtain ⟨⟨v, behind'⟩, hv, hread⟩ := exists_of_bind_eq_ok hread
      obtain ⟨hkeys, hvalues⟩ := fits_object_iff.1 hmembers
      refine ih false (fits_object_iff.2 ⟨pairwise_insertMember hkeys key v, ?_⟩) _ _ _ hread
      intro member hmember
      obtain rfl | hmember := mem_insertMember hmember
      · exact hvalue _ _ _ hv
      · exact hvalues member hmember

/-- What is read as a value is **sorted and not too deep**, whatever the text was. -/
theorem yields_value (d : Nat) : Yields (readValue d) (Fits d) := by
  induction d with
  | zero =>
    intro cs v rest hread
    obtain ⟨n, -, -, hn, -⟩ | ⟨n, -, -, hn, -⟩ | hscalar := readValue_cases hread
    · cases hn
    · cases hn
    · exact (readScalar_cases hscalar).1 0
  | succ d ih =>
    intro cs v rest hread
    obtain ⟨n, text, items, hn, rfl, hitems⟩ | ⟨n, text, members, hn, rfl, hmembers⟩ | hscalar :=
      readValue_cases hread
    · obtain rfl : d = n := Nat.succ.inj hn
      exact fits_array_iff.2 (yields_items ih _ _ _ _ _ hitems)
    · obtain rfl : d = n := Nat.succ.inj hn
      have hnone : Fits (d + 1) (object []) := fits_object_iff.2 ⟨.nil, List.forall_mem_nil _⟩
      exact yields_sorted ih _ _ hnone _ _ _ hmembers
    · exact (readScalar_cases hscalar).1 (d + 1)

/-- A value that may be missing is **never `null`**: that word says that it is missing. -/
theorem yields_option_value (d : Nat) :
    Yields (readOption (readValue d)) fun data => ∀ v ∈ data, v ≠ null ∧ Fits d v := by
  intro cs data rest hread
  rw [readOption] at hread
  split at hread
  · obtain ⟨behind, -, hread⟩ := exists_of_bind_eq_ok hread
    cases hread
    rintro v ⟨⟩
  case h_2 hword =>
    obtain ⟨⟨v, behind⟩, hvalue, hread⟩ := exists_of_bind_eq_ok hread
    cases hread
    rintro v' ⟨⟩
    refine ⟨?_, yields_value d _ _ _ hvalue⟩
    rintro rfl
    obtain ⟨_, _, _, _, hv, _⟩ | ⟨_, _, _, _, hv, _⟩ | hscalar := readValue_cases hvalue
    · cases hv
    · cases hv
    · obtain ⟨text, htext⟩ := List.head?_eq_some_iff.1 ((readScalar_cases hscalar).2 rfl)
      exact hword text htext

/-! ### What is read back -/

/-- A text that opens no bracket is read as a scalar. -/
theorem readValue_scalar (d : Nat) {c : Char} (hspace : isSpace c = false) (hlist : c ≠ '[')
    (hobject : c ≠ '\x7b') (cs : List Char) : readValue d (c :: cs) = readScalar (c :: cs) := by
  have hskip : skipSpace (c :: cs) = c :: cs := by simp [skipSpace, hspace]
  unfold readValue
  simp only [hskip]
  split
  case h_1 h => exact absurd (List.cons.inj h).1 hlist
  case h_2 h => exact absurd (List.cons.inj h).1 hobject
  case h_3 h => exact absurd (List.cons.inj h).1 hlist
  case h_4 h => exact absurd (List.cons.inj h).1 hobject
  case h_5 => rfl

/-- What starts as a number is **scanned** as one. -/
theorem readScalar_number {c : Char} (hc : startsNumber c = true) (cs : List Char) :
    readScalar (c :: cs) = (do
      let (n, rest) ← scanNumber (c :: cs)
      .ok (number n, rest)) := by
  rw [readScalar.eq_def]
  split
  case h_1 h => cases h
  case h_6 h =>
    cases h
    rw [if_pos hc]
  all_goals
    rename_i h
    cases h
    exact absurd hc (by decide)

/-- A printed number is read as a value, at any depth. -/
theorem reads_value_number (d : Nat) (n : Number) :
    Reads (readValue d) (number n).text (number n) := by
  intro rest hrest
  have hscan := scanNumber_text n hrest
  obtain ⟨c, cs, htext, hc⟩ := startsNumber_of_scanNumber hscan
  obtain ⟨_, _, hcons, hspace, -⟩ := starts_of_startsNumber hc cs
  cases hcons
  have hlist : c ≠ '[' := by
    rintro rfl
    exact absurd hc (by decide)
  have hobject : c ≠ '\x7b' := by
    rintro rfl
    exact absurd hc (by decide)
  rw [htext] at hscan
  rw [text, htext, readValue_scalar d hspace hlist hobject, readScalar_number hc, hscan]
  rfl

/-- A printed **scalar** is read as a value, at any depth. -/
theorem reads_value_scalar (d : Nat) {v : Json} (h : v.depth = 0) :
    Reads (readValue d) v.text v := by
  cases v with
  | null =>
    intro rest _
    exact readValue_scalar d (by decide) (by decide) (by decide) _
  | bool b =>
    intro rest _
    cases b <;> exact readValue_scalar d (by decide) (by decide) (by decide) _
  | number n => exact reads_value_number d n
  | string s =>
    intro rest _
    have htext : (string s).text ++ rest = '"' :: (escape s.toList ++ '"' :: rest) := by
      simp [text, stringText]
    rw [htext, readValue_scalar d (by decide) (by decide) (by decide)]
    simp only [readScalar, readStringTail_escape, bind, Except.bind]
  | array items =>
    rw [depth] at h
    omega
  | object members =>
    rw [depth] at h
    omega

/-- The members behind the first one are put behind those that were read before. -/
theorem readSorted_next {value : Reader Json} {members : List (String × Json)}
    (h : ∀ member ∈ members, Reads value member.2.text member.2) {done : List (String × Json)}
    (hsorted : (done ++ members).Pairwise fun a b => a.1 < b.1) (rest : List Char) {fuel : Nat}
    (hfuel : members.length < fuel) :
    readSorted value fuel false done ((memberTexts members).flatMap (',' :: ·) ++ '\x7d' :: rest) =
      .ok (done ++ members, rest) := by
  induction members generalizing done fuel with
  | nil =>
    obtain ⟨fuel, rfl⟩ : ∃ n, fuel = n + 1 := ⟨fuel - 1, by omega⟩
    simp [readSorted, memberTexts, nextKey_close, bind, Except.bind]
  | cons member members ih =>
    obtain ⟨fuel, rfl⟩ : ∃ n, fuel = n + 1 := ⟨fuel - 1, by omega⟩
    obtain ⟨key, v⟩ := member
    obtain ⟨hvalue, hothers⟩ := List.forall_mem_cons.1 h
    have hread : value (v.text ++ ((memberTexts members).flatMap (',' :: ·) ++ '\x7d' :: rest)) =
        .ok (v, (memberTexts members).flatMap (',' :: ·) ++ '\x7d' :: rest) :=
      hvalue _ (ends_flatMap (memberTexts members) (.inr rfl) rest)
    have htext : (memberTexts ((key, v) :: members)).flatMap (',' :: ·) ++ '\x7d' :: rest =
        ',' :: (stringText key ++ (':' :: (v.text ++
          ((memberTexts members).flatMap (',' :: ·) ++ '\x7d' :: rest)))) := by
      simp [memberTexts]
    have hlast : insertMember key v done = done ++ [(key, v)] := by
      refine insertMember_last (fun other hother => ?_) v
      exact (List.pairwise_append.1 hsorted).2.2 other hother (key, v) List.mem_cons_self
    rw [List.append_cons] at hsorted
    have hnext := ih hothers hsorted (Nat.lt_of_succ_lt_succ hfuel)
    rw [htext]
    simp only [readSorted, nextKey_next, colon_colon, hread, hlast, hnext, bind, Except.bind,
      List.append_assoc, List.cons_append, List.nil_append]

/-- The members of a sorted object, up to its closing brace. -/
theorem readSorted_all {value : Reader Json} {members : List (String × Json)}
    (h : ∀ member ∈ members, Reads value member.2.text member.2)
    (hsorted : members.Pairwise fun a b => a.1 < b.1) {cs rest : List Char}
    (hcs : commas (memberTexts members) ++ '\x7d' :: rest = cs) :
    readSorted value cs.length.succ true [] cs = .ok (members, rest) := by
  cases members with
  | nil =>
    subst hcs
    simp [readSorted, memberTexts, commas, nextKey_close, bind, Except.bind]
  | cons member members =>
    obtain ⟨key, v⟩ := member
    obtain ⟨hvalue, hothers⟩ := List.forall_mem_cons.1 h
    have hread : value (v.text ++ ((memberTexts members).flatMap (',' :: ·) ++ '\x7d' :: rest)) =
        .ok (v, (memberTexts members).flatMap (',' :: ·) ++ '\x7d' :: rest) :=
      hvalue _ (ends_flatMap (memberTexts members) (.inr rfl) rest)
    have htext : cs = stringText key ++ (':' :: (v.text ++
        ((memberTexts members).flatMap (',' :: ·) ++ '\x7d' :: rest))) := by
      simp [← hcs, memberTexts, commas_cons]
    have hfuel : members.length < cs.length := by
      have hlong := length_le_flatMap (memberTexts members)
      rw [length_memberTexts] at hlong
      simp only [htext, List.length_append, List.length_cons]
      omega
    have hkey := nextKey_first key (':' :: (v.text ++
      ((memberTexts members).flatMap (',' :: ·) ++ '\x7d' :: rest)))
    rw [← htext] at hkey
    have hnext := @readSorted_next value members hothers [(key, v)] hsorted rest cs.length hfuel
    simp only [readSorted, hkey, colon_colon, hread, insertMember, hnext, bind, Except.bind,
      List.cons_append, List.nil_append]

/-- A value that is **sorted and not too deep** is read back from its text. -/
theorem reads_value {d : Nat} {v : Json} (h : Fits d v) : Reads (readValue d) v.text v := by
  induction d generalizing v with
  | zero => exact reads_value_scalar 0 (Nat.le_zero.1 h.2)
  | succ d ih =>
    cases v with
    | array items =>
      intro rest _
      have hitems : ∀ item ∈ items, Reads (readValue d) (id item).text item := fun item hitem =>
        ih (fits_array_iff.1 h item hitem)
      have htext : (array items).text ++ rest =
          '[' :: (commas (itemTexts (items.map id)) ++ ']' :: rest) := by simp [text]
      have hread : readValue (d + 1) ((array items).text ++ rest) = (do
          let read ← readItems (readValue d) _ true _
          .ok (array read.1, read.2)) := congrArg (readValue (d + 1)) htext
      rw [hread, readItems_all hitems rfl]
      rfl
    | object members =>
      intro rest _
      obtain ⟨hsorted, hvalues⟩ := fits_object_iff.1 h
      have hmembers : ∀ member ∈ members, Reads (readValue d) member.2.text member.2 :=
        fun member hmember => ih (hvalues member hmember)
      have htext : (object members).text ++ rest =
          '\x7b' :: (commas (memberTexts members) ++ '\x7d' :: rest) := by simp [text]
      have hread : readValue (d + 1) ((object members).text ++ rest) = (do
          let read ← readSorted (readValue d) _ true [] _
          .ok (object read.1, read.2)) := congrArg (readValue (d + 1)) htext
      rw [hread, readSorted_all hmembers hsorted rfl]
      rfl
    | null | bool _ | number _ | string _ => exact reads_value_scalar (d + 1) rfl

end Guildkeep.Json
