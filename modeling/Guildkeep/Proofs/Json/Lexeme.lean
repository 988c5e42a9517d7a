import Guildkeep.Json.Reader
import Guildkeep.Proofs.Number.Rounding
import Guildkeep.Proofs.Text.Digits
import Mathlib.Tactic.SplitIfs

/-!
# Strings and Numbers Read Back

What the printer writes for a string or a number, the scanner takes off the front of a text and
gives back unchanged.

## Conventions

A number has no closing mark, so it is known to end only by what follows it: the statements on
numbers ask that the rest `Ends` a value, that is, that it is empty or starts with a comma or a
closing bracket.

## Main results

* `scanString_escape`: an escaped string is scanned to the string.
* `scanNumber_natDigits`, `scanNumber_intDigits`: a printed integer is scanned to the word.
* `scanNumber_jsonDigits`: **a printed binary64 number is scanned to that number**, in each of the
  layouts that the printer may choose.
* `scanNumber_text`: the three kinds together.
-/

namespace Guildkeep.Json

open Text

attribute [local instance (2000)] instPowNat instNatPowNat

/-! ### Strings -/

/-- A digit of base sixteen has its **own value**. -/
theorem hexValue?_digitChar : ∀ {d : Nat}, d < 16 → hexValue? (Nat.digitChar d) = some d := by
  decide

/-- The digits of a control character are read as its code point. -/
theorem fourHex_control {n : Nat} (h : n < 32) (cs : List Char) :
    fourHex ('0' :: '0' :: Nat.digitChar (n / 16) :: Nat.digitChar (n % 16) :: cs) = .ok n := by
  have hzero : hexValue? '0' = some 0 := by decide
  have hhigh : hexValue? (Nat.digitChar (n / 16)) = some (n / 16) := hexValue?_digitChar (by omega)
  have hlow : hexValue? (Nat.digitChar (n % 16)) = some (n % 16) := hexValue?_digitChar (by omega)
  have hvalue : n / 16 * 16 + n % 16 = n := by omega
  simp [fourHex, hzero, hhigh, hlow, hvalue]

/-- A letter behind a backslash is **scanned** as what it stands for. -/
theorem scanString_letter {letter c : Char} (h : letterEscape? letter = some c)
    (cs done : List Char) :
    scanString .plain ('\\' :: letter :: cs) done = scanString .plain cs (c :: done) := by
  rw [scanString, if_neg (by decide), if_pos rfl, scanString, h]

/-- One printed character is scanned to itself, escaped or not. -/
theorem scanString_escaped (c : Char) (cs done : List Char) :
    scanString .plain (escaped c ++ cs) done = scanString .plain cs (c :: done) := by
  unfold escaped
  split_ifs with hquote hslash hback htab hline hfeed hreturn hcontrol
  · subst hquote
    exact scanString_letter rfl cs done
  · subst hslash
    exact scanString_letter rfl cs done
  · subst hback
    exact scanString_letter rfl cs done
  · subst htab
    exact scanString_letter rfl cs done
  · subst hline
    exact scanString_letter rfl cs done
  · subst hfeed
    exact scanString_letter rfl cs done
  · subst hreturn
    exact scanString_letter rfl cs done
  · have hlead : isLead c.toNat = false := by simp [isLead]; omega
    have htrail : isTrail c.toNat = false := by simp [isTrail]; omega
    have hletter : letterEscape? 'u' = none := by decide
    simp only [List.cons_append, List.nil_append]
    rw [scanString, if_neg (by decide), if_pos rfl, scanString, hletter]
    simp only [if_pos, fourHex_control hcontrol, htrail, hlead, Bool.false_eq_true, if_false]
    rw [scanString, scanString, scanString, scanString, Char.ofNat_toNat]
  · exact scanString_plain hquote hslash (by omega) cs done

/-- An **escaped string** is scanned to the string. -/
theorem scanString_escape (s rest done : List Char) :
    scanString .plain (escape s ++ '"' :: rest) done = .ok (done.reverse ++ s, rest) := by
  induction s generalizing done with
  | nil => simp [escape, scanString]
  | cons c s ih =>
    rw [escape, List.flatMap_cons, List.append_assoc, scanString_escaped]
    have := ih (c :: done)
    rw [escape] at this
    rw [this, List.reverse_cons, List.append_assoc, List.singleton_append]

/-- A text that is escaped is **read back**. -/
theorem readStringTail_escape (s : String) (rest : List Char) :
    readStringTail (escape s.toList ++ '"' :: rest) = .ok (s, rest) := by
  rw [readStringTail, scanString_escape]
  simp [bind, Except.bind, String.ofList_toList]

/-! ### Where a number ends -/

/-- The rest of a text **ends** a value: it is empty, or starts with a comma or a closing
bracket. -/
def Ends (rest : List Char) : Prop :=
  ∀ c ∈ rest.head?, c = ',' ∨ c = ']' ∨ c = '\x7d'

/-- A number may stand **at the end**. -/
theorem ends_nil : Ends [] := by
  simp [Ends]

/-- A number may stand before what **closes or separates**. -/
theorem ends_cons {c : Char} (h : c = ',' ∨ c = ']' ∨ c = '\x7d') (rest : List Char) :
    Ends (c :: rest) := by
  intro d hd
  obtain rfl : c = d := by simpa using hd
  exact h

/-- What ends a number is **no digit**. -/
theorem Ends.isDigit_head {rest : List Char} (h : Ends rest) :
    ∀ c ∈ rest.head?, isDigit c = false := by
  intro c hc
  rcases h c hc with rfl | rfl | rfl <;> decide

/-! ### The parts of a number -/

/-- The digits in front of the point: at least one, and no zero in front of others. -/
structure IsWhole (ds : List Char) : Prop where
  ne_nil : ds ≠ []
  digits : ∀ c ∈ ds, isDigit c = true
  leading : ds.head? = some '0' → ds = ['0']

/-- One digit is a **whole number**. -/
theorem isWhole_singleton {c : Char} (h : isDigit c = true) : IsWhole [c] where
  ne_nil := by simp
  digits := by simpa using h
  leading := by simp

/-- The digits of a number are a **whole number**. -/
theorem isWhole_natDigits (n : Nat) : IsWhole (natDigits n) where
  ne_nil := natDigits_ne_nil n
  digits _ := isDigit_of_mem_natDigits
  leading hhead := by
    cases hds : natDigits n with
    | nil => exact absurd hds (natDigits_ne_nil n)
    | cons c ds =>
      obtain rfl : c = '0' := by simpa [hds] using hhead
      rw [← hds, eq_zero_of_head_natDigits hds, natDigits_zero]

/-- Whole digits are taken off, if no digit follows. -/
theorem numeral_whole (negative : Bool) {whole rest : List Char} (hwhole : IsWhole whole)
    (hrest : ∀ c ∈ rest.head?, isDigit c = false) :
    numeral .endInValue negative (whole ++ rest) = numeralTail .endInValue negative whole rest := by
  have htake := takeWhile_digits hwhole.digits hrest
  have hdrop := dropWhile_digits hwhole.digits hrest
  cases whole with
  | nil => exact absurd rfl hwhole.ne_nil
  | cons c ds =>
    have hc : isDigit c = true := hwhole.digits c (by simp)
    simp only [List.cons_append] at htake hdrop ⊢
    rw [numeral]
    split
    · rename_i hzero
      obtain rfl : ds = [] := (List.cons.inj (hwhole.leading (by simp [hzero]))).2
      have hnext : (rest.head?.map isDigit).getD false = false := by
        cases rest with
        | nil => rfl
        | cons d rest => simpa using hrest d (by simp)
      simp [hnext, hzero]
    · rw [htake, hdrop]

/-- Without an exponent a number ends here. -/
theorem exponentTail_ends (negative : Bool) (whole fraction : List Char) (isInteger : Bool)
    {rest : List Char} (h : Ends rest) :
    exponentTail .endInValue negative whole fraction isInteger rest =
      .ok (⟨negative, whole, fraction, 0, isInteger⟩, rest) := by
  cases rest with
  | nil => rfl
  | cons c rest =>
    have hc : ¬ (c = 'e' ∨ c = 'E') := by
      rcases h c (by simp) with rfl | rfl | rfl <;> decide
    rw [exponentTail, if_neg hc]

/-- Without a point and an exponent a number is an integer. -/
theorem numeralTail_ends (negative : Bool) (whole : List Char) {rest : List Char} (h : Ends rest) :
    numeralTail .endInValue negative whole rest = .ok (⟨negative, whole, [], 0, true⟩, rest) := by
  rw [numeralTail, exponentTail_ends _ _ _ _ h]
  rintro rest rfl
  simpa using h '.' (by simp)

/-- Digits behind the point are taken off, if no digit follows. -/
theorem numeralTail_fraction (negative : Bool) (whole : List Char) {fraction rest : List Char}
    (hne : fraction ≠ []) (hdigits : ∀ c ∈ fraction, isDigit c = true)
    (hrest : ∀ c ∈ rest.head?, isDigit c = false) :
    numeralTail .endInValue negative whole ('.' :: (fraction ++ rest)) =
      exponentTail .endInValue negative whole fraction false rest := by
  simp only [numeralTail, takeWhile_digits hdigits hrest, dropWhile_digits hdigits hrest]
  rw [if_neg (by simpa using hne)]

/-- A written exponent is taken off. -/
theorem exponentTail_exponent (negative : Bool) (whole fraction : List Char) (isInteger : Bool)
    (e : Int) {rest : List Char} (h : Ends rest) :
    exponentTail .endInValue negative whole fraction isInteger
        ('e' :: ((if e < 0 then intDigits e else '+' :: intDigits e) ++ rest)) =
      .ok (⟨negative, whole, fraction, e, false⟩, rest) := by
  have hdigits (down : Bool) (n : Nat) : exponentDigits .endInValue down (natDigits n ++ rest) =
      .ok (Binary64.signed down n, rest) := by
    have htake := takeWhile_digits (fun _ => isDigit_of_mem_natDigits (n := n)) h.isDigit_head
    have hdrop := dropWhile_digits (fun _ => isDigit_of_mem_natDigits (n := n)) h.isDigit_head
    have hvalue := ofDigits_natDigits n
    have hfirst (c : Char) (hc : c ∈ natDigits n) : isDigit c = true := isDigit_of_mem_natDigits hc
    cases hn : natDigits n with
    | nil => exact absurd hn (natDigits_ne_nil n)
    | cons c ds =>
      rw [hn] at htake hdrop hvalue hfirst
      simp only [List.cons_append] at htake hdrop ⊢
      simp only [exponentDigits, hfirst c (by simp), if_true, htake, hdrop, hvalue]
  have hpart :
      exponentPart .endInValue ((if e < 0 then intDigits e else '+' :: intDigits e) ++ rest) =
      .ok (e, rest) := by
    by_cases he : e < 0
    · have hsigned : Binary64.signed true e.natAbs = e := by
        rw [Binary64.signed, if_pos rfl]
        omega
      rw [if_pos he, intDigits, if_pos he, List.cons_append, exponentPart, hdigits, hsigned]
    · have hsigned : Binary64.signed false e.natAbs = e := by
        rw [Binary64.signed, if_neg (by decide)]
        omega
      rw [if_neg he, intDigits, if_neg he, List.cons_append, exponentPart, hdigits, hsigned]
  rw [exponentTail, if_pos (.inl rfl), hpart]
  rfl

/-- A number is scanned behind its sign. -/
theorem scanNumber_of_numeral {negative : Bool} {body rest : List Char} {n : Numeral} {v : Number}
    (hnumeral : numeral .endInValue negative body = .ok (n, rest)) (hvalue : n.value = .ok v) :
    scanNumber (Binary64.signText negative ++ body) = .ok (v, rest) := by
  have hsign (tail : List Char) : body ≠ '-' :: tail := by
    rintro rfl
    rw [numeral, if_neg (by decide), if_neg (by decide)] at hnumeral
    cases hnumeral
  cases negative with
  | true => simp [Binary64.signText, scanNumber, hnumeral, hvalue, bind, Except.bind]
  | false =>
    simp [Binary64.signText, scanNumber, hnumeral, hvalue, bind, Except.bind]

/-! ### Integers -/

/-- The digits of a number are **scanned** as that number. -/
theorem numeral_natDigits (negative : Bool) (n : Nat) {rest : List Char} (h : Ends rest) :
    numeral .endInValue negative (natDigits n ++ rest) =
      .ok (⟨negative, natDigits n, [], 0, true⟩, rest) := by
  rw [numeral_whole negative (isWhole_natDigits n) h.isDigit_head, numeralTail_ends negative _ h]

/-- A printed **natural number** is scanned to the word. -/
theorem scanNumber_natDigits {n : Nat} (hn : n < 18446744073709551616) {rest : List Char}
    (h : Ends rest) :
    scanNumber (natDigits n ++ rest) = .ok (.unsigned (UInt64.ofNat n), rest) := by
  have hvalue : (⟨false, natDigits n, [], 0, true⟩ : Numeral).value =
      .ok (.unsigned (UInt64.ofNat n)) := by
    simp [Numeral.value, integerNumber, hn]
  exact scanNumber_of_numeral (numeral_natDigits false n h) hvalue

/-- A printed **negative integer** is scanned to the word. -/
theorem scanNumber_intDigits {i : Int} (hlo : -9223372036854775808 ≤ i) (hneg : i < 0)
    (hword : (Int64.ofInt i).toInt < 0) {rest : List Char} (h : Ends rest) :
    scanNumber (intDigits i ++ rest) = .ok (.negative (Int64.ofInt i) hword, rest) := by
  have habs : -(i.natAbs : Int) = i := by omega
  have hvalue : (⟨true, natDigits i.natAbs, [], 0, true⟩ : Numeral).value =
      .ok (.negative (Int64.ofInt i) hword) := by
    simp only [Numeral.value, integerNumber, if_true, ofDigits_natDigits, habs]
    rw [dif_pos ⟨hword, by omega⟩]
  rw [intDigits, if_pos hneg]
  exact scanNumber_of_numeral (numeral_natDigits true i.natAbs h) hvalue

/-! ### Binary64 numbers -/

/-- A text **shows** a decimal: it is read as a numeral that is no integer and has the value of the
decimal, whatever zeros it shows at the end. -/
def Shows (text : List Char) (d : Decimal) : Prop :=
  ∀ (negative : Bool) {rest : List Char}, Ends rest → ∃ (n : Numeral) (k : Nat),
    numeral .endInValue negative (text ++ rest) = .ok (n, rest) ∧ n.negative = negative ∧
      n.isInteger = false ∧ ofDigits (n.whole ++ n.fraction) = d.digits * 10 ^ k ∧
      n.exponent - n.fraction.length = d.exponent - k

/-- Digits, zeros up to the point, and one zero behind it. -/
theorem shows_whole {d : Decimal} (hzero : d.digits = 0 → d.exponent = 0) {j : Nat}
    (hj : d.exponent = j) : Shows (natDigits d.digits ++ zeros j ++ ['.', '0']) d := by
  intro negative rest hrest
  have hwhole : IsWhole (natDigits d.digits ++ zeros j) := by
    refine ⟨by simp [natDigits_ne_nil], ?_, ?_⟩
    · intro c hc
      rcases List.mem_append.mp hc with hc | hc
      · exact isDigit_of_mem_natDigits hc
      · exact isDigit_of_mem_zeros hc
    · intro hhead
      rw [List.head?_append_of_ne_nil _ (natDigits_ne_nil _)] at hhead
      have hdigits := (isWhole_natDigits d.digits).leading hhead
      have hj0 : j = 0 := by
        have := hzero (eq_zero_of_head_natDigits hdigits)
        omega
      rw [hdigits, hj0]
      rfl
  refine ⟨⟨negative, natDigits d.digits ++ zeros j, ['0'], 0, false⟩, j + 1, ?_, rfl, rfl, ?_, ?_⟩
  · rw [List.append_assoc (natDigits d.digits ++ zeros j),
      numeral_whole negative hwhole (by simp; decide)]
    have htail :
        numeralTail .endInValue negative (natDigits d.digits ++ zeros j) ('.' :: (['0'] ++ rest)) =
        exponentTail .endInValue negative (natDigits d.digits ++ zeros j) ['0'] false rest :=
      numeralTail_fraction negative _ (by simp) (by simp; decide) hrest.isDigit_head
    exact htail.trans (exponentTail_ends negative _ _ _ hrest)
  · rw [ofDigits_append_list, ofDigits_append_zeros, ofDigits_natDigits, Nat.pow_succ]
    simp [ofDigits, digitValue, Nat.mul_assoc]
  · simp only [List.length_cons, List.length_nil]
    omega

/-- Digits with the point between them. -/
theorem shows_inside {d : Decimal} {p : Nat} (hp : 0 < p) (hlt : p < (natDigits d.digits).length)
    (hexp : d.exponent = p - (natDigits d.digits).length) :
    Shows ((natDigits d.digits).take p ++ '.' :: (natDigits d.digits).drop p) d := by
  intro negative rest hrest
  have hwhole : IsWhole ((natDigits d.digits).take p) := by
    refine ⟨by simp [natDigits_ne_nil]; omega, ?_, ?_⟩
    · intro c hc
      exact isDigit_of_mem_natDigits (List.mem_of_mem_take hc)
    · -- A number of more than one digit does not start with zero.
      intro hhead
      rw [List.head?_take, if_neg (by omega)] at hhead
      rw [(isWhole_natDigits d.digits).leading hhead] at hlt
      simp at hlt
      omega
  have hfraction (c : Char) (hc : c ∈ (natDigits d.digits).drop p) : isDigit c = true :=
    isDigit_of_mem_natDigits (List.mem_of_mem_drop hc)
  refine ⟨⟨negative, (natDigits d.digits).take p, (natDigits d.digits).drop p, 0, false⟩, 0, ?_,
    rfl, rfl, ?_, ?_⟩
  · rw [List.append_assoc, numeral_whole negative hwhole (by simp; decide), List.cons_append,
      numeralTail_fraction negative _ (by simp; omega) hfraction hrest.isDigit_head,
      exponentTail_ends negative _ _ _ hrest]
  · simp [List.take_append_drop]
  · simp only [List.length_drop]
    omega

/-- The point in front of all digits, with zeros behind it. -/
theorem shows_below {d : Decimal} {j : Nat} (hexp : d.exponent = -j - (natDigits d.digits).length) :
    Shows ('0' :: '.' :: zeros j ++ natDigits d.digits) d := by
  intro negative rest hrest
  have hfraction (c : Char) (hc : c ∈ zeros j ++ natDigits d.digits) : isDigit c = true := by
    rcases List.mem_append.mp hc with hc | hc
    · exact isDigit_of_mem_zeros hc
    · exact isDigit_of_mem_natDigits hc
  refine ⟨⟨negative, ['0'], zeros j ++ natDigits d.digits, 0, false⟩, 0, ?_, rfl, rfl, ?_, ?_⟩
  · have htail := numeralTail_fraction negative ['0'] (by simp [natDigits_ne_nil]) hfraction
      hrest.isDigit_head
    rw [exponentTail_ends negative _ _ _ hrest] at htail
    rw [← htail]
    exact numeral_whole negative (isWhole_singleton (by decide)) (by simp; decide)
  · have hzero : ofDigits ['0'] = 0 := by decide
    rw [ofDigits_append_list, hzero, ofDigits_zeros_append, ofDigits_natDigits]
    simp
  · simp only [List.length_append, length_zeros]
    push_cast
    omega

/-- One digit, the others behind the point, and an exponent. -/
theorem shows_scientific {d : Decimal} {point : Int}
    (hpoint : point = (natDigits d.digits).length + d.exponent) :
    Shows (Decimal.scientific (natDigits d.digits) point) d := by
  intro negative rest hrest
  have hvalue := ofDigits_natDigits d.digits
  have hdigit (c : Char) (hc : c ∈ natDigits d.digits) : isDigit c = true :=
    isDigit_of_mem_natDigits hc
  match hds : natDigits d.digits with
  | [] => exact absurd hds (natDigits_ne_nil _)
  | [c] =>
    rw [hds] at hvalue hdigit hpoint
    refine ⟨⟨negative, [c], [], point - 1, false⟩, 0, ?_, rfl, rfl, ?_, ?_⟩
    · simp only [Decimal.scientific, List.append_assoc]
      rw [numeral_whole negative (isWhole_singleton (hdigit c (by simp))) (by simp; decide)]
      exact exponentTail_exponent negative [c] [] true (point - 1) hrest
    · simpa using hvalue
    · simp at hpoint ⊢
      omega
  | c :: c' :: ds =>
    rw [hds] at hvalue hdigit hpoint
    refine ⟨⟨negative, [c], c' :: ds, point - 1, false⟩, 0, ?_, rfl, rfl, ?_, ?_⟩
    · have hfraction (x : Char) (hx : x ∈ c' :: ds) : isDigit x = true :=
        hdigit x (List.mem_cons_of_mem c hx)
      have htext : Decimal.scientific (c :: c' :: ds) point ++ rest =
          [c] ++ '.' :: (c' :: ds ++ 'e' :: ((if point - 1 < 0 then intDigits (point - 1)
            else '+' :: intDigits (point - 1)) ++ rest)) := by
        simp [Decimal.scientific]
      rw [htext, numeral_whole negative (isWhole_singleton (hdigit c (by simp))) (by simp; decide),
        numeralTail_fraction negative _ (by simp) hfraction (by simp; decide),
        exponentTail_exponent negative _ _ _ _ hrest]
    · simpa using hvalue
    · simp at hpoint ⊢
      omega

/-- The layout that the printer chooses **shows** the decimal. -/
theorem jsonDigits_shows (negative : Bool) {m : Nat} {q : Int} (h : Canonical m q) :
    ∃ body, Binary64.jsonDigits negative m q h = Binary64.signText negative ++ body ∧
      Shows body (Binary64.shortest negative m q h) := by
  set d := Binary64.shortest negative m q h with hd
  have hzero : d.digits = 0 → d.exponent = 0 := Binary64.shortest_digits_eq_zero h
  simp only [Binary64.jsonDigits, Decimal.layout, ← hd]
  split_ifs with hlarge hpositional
  · refine ⟨_, rfl, ?_⟩
    rw [Decimal.positional, if_pos hlarge.1]
    exact shows_whole hzero (by omega)
  · refine ⟨_, rfl, ?_⟩
    rw [Decimal.positional, if_neg (by omega)]
    split_ifs with hinside
    · exact shows_inside (by omega) (by omega) (by omega)
    · exact shows_below (by omega)
  · exact ⟨_, rfl, shows_scientific rfl⟩

/-- **A printed binary64 number is scanned to that number.** -/
theorem scanNumber_jsonDigits (negative : Bool) {m : Nat} {q : Int} (h : Canonical m q)
    {rest : List Char} (hrest : Ends rest) :
    scanNumber (Binary64.jsonDigits negative m q h ++ rest) = .ok (.real negative m q h, rest) := by
  obtain ⟨body, htext, hshows⟩ := jsonDigits_shows negative h
  obtain ⟨n, k, hnumeral, hneg, hint, hdigits, hexp⟩ := hshows negative hrest
  have hshift := Binary64.ofDecimal_shift (Binary64.ofDecimal_shortest_eq negative h)
    (Binary64.ne_zero_of_shortest_digits_ne_zero h) k
  have hvalue : n.value = .ok (.real negative m q h) := by
    rw [Numeral.value, hint, if_neg (by decide), hdigits, hexp, hneg, hshift]
    rfl
  rw [htext, List.append_assoc]
  exact scanNumber_of_numeral hnumeral hvalue

/-- A printed number of **any kind** is scanned to that number. -/
theorem scanNumber_text (n : Number) {rest : List Char} (h : Ends rest) :
    scanNumber (n.text ++ rest) = .ok (n, rest) := by
  cases n with
  | unsigned n =>
    have hscan := scanNumber_natDigits n.toNat_lt h
    rwa [UInt64.ofNat_toNat] at hscan
  | negative i hneg =>
    have hlo := i.le_toInt
    have hscan := scanNumber_intDigits (by omega) hneg (by rwa [Int64.ofInt_toInt]) h
    simp only [Int64.ofInt_toInt] at hscan
    exact hscan
  | real s m q hcanonical => exact scanNumber_jsonDigits s hcanonical h

end Guildkeep.Json
