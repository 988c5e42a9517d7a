import Guildkeep.Text.Blank
import Mathlib.Data.Char
import Mathlib.Data.List.TakeWhile
import Mathlib.Data.Set.Insert
import Mathlib.Order.Interval.Set.Defs

/-!
# White Space and Trimming

What it is to be white space and to be trimmed, said without the table of ranges and without the two
passes over the text.

## Main results

* `isBlank_iff`: the blanks are the characters of **white space**.
* `trim_eq_iff`: trimming takes off all white space at either end, and **nothing else**.
* `contains_lower_trim_iff`: which texts **say** one of some words.
-/

namespace Guildkeep.Text

/-- The characters with the Unicode property **White_Space**. -/
def whiteSpace : Set Char :=
  Set.Icc '\u0009' '\u000d' ∪ Set.Icc '\u2000' '\u200a' ∪
    {'\u0020', '\u0085', '\u00a0', '\u1680', '\u2028', '\u2029', '\u202f', '\u205f', '\u3000'}

/-- The blanks are the characters of **white space**. -/
theorem isBlank_iff (c : Char) : isBlank c = true ↔ c ∈ whiteSpace := by
  have hle (a b : Char) : a ≤ b ↔ a.toNat ≤ b.toNat := Char.le_def.trans UInt32.le_iff_toNat_le
  simp only [whiteSpace, Set.mem_union, Set.mem_Icc, Set.mem_insert_iff, Set.mem_singleton_iff, hle,
    ← Char.toNat_inj, isBlank, inRanges, blankRanges, List.any_cons, List.any_nil, Bool.or_false,
    Bool.or_eq_true, Bool.and_eq_true, decide_eq_true_eq]
  simp only [Char.reduceToNat]
  omega

/-- A text without the **white space around it**: what is left has none at either end. -/
def Trims (s core : List Char) : Prop :=
  ∃ before after, s = before ++ core ++ after ∧ (∀ c ∈ before, c ∈ whiteSpace) ∧
    (∀ c ∈ after, c ∈ whiteSpace) ∧ (∀ c ∈ core.head?, c ∉ whiteSpace) ∧
    ∀ c ∈ core.getLast?, c ∉ whiteSpace

/-- White space in front is taken off. -/
theorem trimStart_append {before : List Char} (h : ∀ c ∈ before, c ∈ whiteSpace) (s : List Char) :
    trimStart (before ++ s) = trimStart s :=
  List.dropWhile_append_of_pos fun c hc => (isBlank_iff c).2 (h c hc)

/-- What starts without white space is **left as it is** by taking that off. -/
theorem trimStart_eq_self {s : List Char} (h : ∀ c ∈ s.head?, c ∉ whiteSpace) :
    trimStart s = s := by
  cases s with
  | nil => rfl
  | cons c s =>
    rw [trimStart, List.dropWhile_cons_of_neg]
    rw [isBlank_iff]
    exact h c rfl

/-- Taking white space off in front leaves a text that **starts with none**. -/
theorem head?_trimStart (s : List Char) : ∀ c ∈ (trimStart s).head?, c ∉ whiteSpace := by
  induction s with
  | nil => exact fun c hc => nomatch hc
  | cons d s ih =>
    rw [trimStart, List.dropWhile_cons]
    split
    case isTrue => exact ih
    case isFalse hd =>
      rintro c ⟨⟩
      rwa [← isBlank_iff]

/-- Only **white space** is trimmed off in front. -/
theorem exists_trimStart (s : List Char) :
    ∃ before, s = before ++ trimStart s ∧ ∀ c ∈ before, c ∈ whiteSpace :=
  ⟨s.takeWhile isBlank, List.takeWhile_append_dropWhile.symm, fun c hc =>
    (isBlank_iff c).1 (List.mem_takeWhile_imp hc)⟩

/-- Trimming is trimming **in front and behind**. -/
theorem trim_eq (s : List Char) : trim s = (trimStart (trimStart s).reverse).reverse := rfl

/-- Trimming takes off all white space at either end, and **nothing else**. -/
theorem trim_eq_iff {s core : List Char} : trim s = core ↔ Trims s core := by
  rw [trim_eq]
  constructor
  · rintro rfl
    obtain ⟨before, hfront, hbefore⟩ := exists_trimStart s
    obtain ⟨after, hback, hafter⟩ := exists_trimStart (trimStart s).reverse
    refine ⟨before, after.reverse, ?_, hbefore, ?_, ?_, ?_⟩
    · rw [List.append_assoc, ← List.reverse_append, ← hback, List.reverse_reverse, ← hfront]
    · exact fun c hc => hafter c (List.mem_reverse.1 hc)
    · -- What is left still starts as it did before its end was trimmed.
      intro c hc
      refine head?_trimStart s c ?_
      have hwhole : (trimStart (trimStart s).reverse).reverse ++ after.reverse = trimStart s := by
        rw [← List.reverse_append, ← hback, List.reverse_reverse]
      rw [← hwhole, List.head?_append, hc]
      rfl
    · rw [List.getLast?_reverse]
      exact head?_trimStart _
  · rintro ⟨before, after, rfl, hbefore, hafter, hfirst, hlast⟩
    rw [List.append_assoc, trimStart_append hbefore]
    have hrest : ∀ c ∈ after.reverse, c ∈ whiteSpace := fun c hc => hafter c (List.mem_reverse.1 hc)
    cases core with
    | nil =>
      have hnone : trimStart after = [] :=
        List.dropWhile_eq_nil_iff.2 fun c hc => (isBlank_iff c).2 (hafter c hc)
      rw [List.nil_append, hnone]
      rfl
    | cons c core =>
      rw [trimStart_eq_self (s := c :: core ++ after) hfirst, List.reverse_append,
        trimStart_append hrest, trimStart_eq_self, List.reverse_reverse]
      rw [List.head?_reverse]
      exact hlast

/-- A text **says** one of some words, white space around it and upper case aside. -/
def SaysOneOf (words : List String) (s : String) : Prop :=
  ∃ core, Trims s.toList core ∧ String.ofList (core.map Char.toLower) ∈ words

/-- The check for one of some words is passed by what **says one** of them. -/
theorem contains_lower_trim_iff {words : List String} {s : String} :
    words.contains (String.ofList (lower (trim s.toList))) = true ↔ SaysOneOf words s := by
  rw [List.contains_iff_mem]
  constructor
  · exact fun h => ⟨trim s.toList, trim_eq_iff.1 rfl, h⟩
  · rintro ⟨core, hcore, h⟩
    rwa [trim_eq_iff.2 hcore]

end Guildkeep.Text
