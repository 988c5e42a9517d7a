import Guildkeep.Proofs.Json.Lexeme

/-!
# Printed Values Read Back

A reader `Reads` a text as a value when it takes exactly that text off the front of any text in
which the value ends there. Readers of scalars, lists and records are shown to read what the
printer writes; each kind of value then needs only its own fields.

## Main results

* `reads_string`, `reads_uint32`, `reads_uint64`, `reads_int32`, `reads_int64`, `reads_float`,
  `reads_bool`, `reads_variant`: the scalars.
* `reads_list`: a list is read if its items are.
* `reads_record`: a record is read from an object if its members fill the draft one after another.
* `run_of_reads`: what is read is the whole of a text that holds nothing else.
-/

namespace Guildkeep.Json

open Text

/-- The reader **reads** the text as the value, whatever follows that ends a value. -/
def Reads {α : Type} (reader : Reader α) (text : List Char) (a : α) : Prop :=
  ∀ rest : List Char, Ends rest → reader (text ++ rest) = .ok (a, rest)

/-- A text that is read to its end is read whole. -/
theorem run_of_reads {α : Type} {reader : Reader α} {v : Json} {a : α}
    (h : Reads reader v.text a) : reader.run v.render = .ok a := by
  have hread := h [] ends_nil
  rw [List.append_nil] at hread
  simp [Reader.run, render, String.toList_ofList, hread, bind, Except.bind, skipSpace]

/-! ### How values start -/

/-- A text **starts a value**: there is a first character, and it is neither blank nor a mark that
stands between values. -/
def Starts (text : List Char) : Prop :=
  ∃ c cs, text = c :: cs ∧ isSpace c = false ∧ c ≠ ']'

/-- What starts a value starts it **whatever follows**. -/
theorem Starts.append {text : List Char} (h : Starts text) (rest : List Char) :
    Starts (text ++ rest) := by
  obtain ⟨c, cs, rfl, hspace, hclose⟩ := h
  exact ⟨c, cs ++ rest, rfl, hspace, hclose⟩

/-- There are no blanks to skip. -/
theorem Starts.skipSpace {text : List Char} (h : Starts text) : skipSpace text = text := by
  obtain ⟨c, cs, rfl, hspace, -⟩ := h
  simp [Json.skipSpace, hspace]

/-- What is scanned as a number starts like one. -/
theorem startsNumber_of_scanNumber {text : List Char} {n : Number} {rest : List Char}
    (h : scanNumber text = .ok (n, rest)) : ∃ c cs, text = c :: cs ∧ startsNumber c = true := by
  cases text with
  | nil => simp [scanNumber, numeral, bind, Except.bind] at h
  | cons c cs =>
    refine ⟨c, cs, rfl, ?_⟩
    by_contra hc
    simp only [startsNumber, Bool.not_eq_true, Bool.or_eq_false_iff, decide_eq_false_iff_not] at hc
    have hzero : c ≠ '0' := by
      rintro rfl
      exact absurd hc.2 (by decide)
    simp [scanNumber, hc.1, numeral, hzero, hc.2, bind, Except.bind] at h

/-- What starts a number **starts a value**. -/
theorem starts_of_startsNumber {c : Char} (h : startsNumber c = true) (cs : List Char) :
    Starts (c :: cs) := by
  refine ⟨c, cs, rfl, ?_, ?_⟩
  · by_contra hspace
    simp only [isSpace, Bool.not_eq_false, Bool.or_eq_true, decide_eq_true_eq] at hspace
    rcases hspace with ((rfl | rfl) | rfl) | rfl <;> exact absurd h (by decide)
  · rintro rfl
    exact absurd h (by decide)

/-- Every printed value **starts a value**. -/
theorem starts_text (v : Json) : Starts v.text := by
  cases v with
  | null => exact ⟨'n', _, rfl, by decide, by decide⟩
  | bool b => cases b <;> exact ⟨_, _, rfl, by decide, by decide⟩
  | number n =>
    obtain ⟨c, cs, htext, hc⟩ := startsNumber_of_scanNumber (scanNumber_text n ends_nil)
    rw [List.append_nil] at htext
    rw [text, htext]
    exact starts_of_startsNumber hc cs
  | string s => exact ⟨'"', _, rfl, by decide, by decide⟩
  | array items => exact ⟨'[', _, rfl, by decide, by decide⟩
  | object members => exact ⟨'\x7b', _, rfl, by decide, by decide⟩

/-! ### Scalars -/

/-- A printed number is read if it is accepted. -/
theorem reads_number {α : Type} (expected : String) {accept : Number → Except Fault α} {n : Number}
    {a : α} (h : accept n = .ok a) : Reads (readNumber expected accept) (number n).text a := by
  intro rest hrest
  have hscan := scanNumber_text n hrest
  obtain ⟨c, cs, htext, hc⟩ := startsNumber_of_scanNumber hscan
  rw [htext] at hscan
  rw [text, htext, readNumber, (starts_of_startsNumber hc cs).skipSpace]
  simp [hc, hscan, h, bind, Except.bind]

/-- A natural number that 64 bits can hold and that is not too large is **read back**. -/
theorem reads_ofNat (expected : String) {lo hi : Int} {n : Nat} (hn : n < 18446744073709551616)
    (hhi : (n : Int) ≤ hi) : Reads (readInt expected lo hi) (ofNat n).text n := by
  refine reads_number expected ?_
  have hword : (UInt64.ofNat n).toNat = n := UInt64.toNat_ofNat_of_lt' hn
  simp [hword, hhi]

/-- An integer within two bounds that 64 bits can hold is **read back**. -/
theorem reads_ofInt (expected : String) {lo hi i : Int} (hmin : minInt64 ≤ lo)
    (hmax : hi ≤ maxInt64) (hlo : lo ≤ i) (hhi : i ≤ hi) :
    Reads (readInt expected lo hi) (ofInt i).text i := by
  have hword : (Int64.ofInt i).toInt = i := by
    simp only [minInt64, maxInt64] at hmin hmax
    exact Int64.toInt_ofInt_of_le (by omega) (by omega)
  rw [ofInt]
  split
  · refine reads_number expected ?_
    simp [hword, hlo]
  · rename_i hneg
    rw [hword, and_self] at hneg
    have hnat : (i.toNat : Int) = i := by omega
    have hread : Reads (readInt expected lo hi) (ofNat i.toNat).text i.toNat := by
      refine reads_ofNat expected ?_ (by omega)
      simp only [maxInt64] at hmax
      omega
    rwa [hnat] at hread

/-- A number that is read is read **as the word** that is made of it. -/
theorem reads_word {α : Type} {reader : Reader Int} {text : List Char} {i : Int}
    (h : Reads reader text i) (word : Int → α) {a : α} (hword : word i = a) :
    Reads (fun cs => do
      let (i, rest) ← reader cs
      .ok (word i, rest)) text a := by
  intro rest hrest
  dsimp only
  rw [h rest hrest, ← hword]
  rfl

/-- A word of 32 bits without sign is **read back**. -/
theorem reads_uint32 (n : UInt32) : Reads readUInt32 (ofNat n.toNat).text n := by
  have hlt := n.toNat_lt
  exact reads_word (reads_ofNat "u32" (by omega) (by omega)) (fun i => UInt32.ofNat i.toNat)
    (by simp)

/-- A word of 64 bits without sign is **read back**. -/
theorem reads_uint64 (expected : String) (n : UInt64) :
    Reads (readUInt64 expected) (ofNat n.toNat).text n := by
  have hlt := n.toNat_lt
  exact reads_word (reads_ofNat expected (by omega) (by omega)) (fun i => UInt64.ofNat i.toNat)
    (by simp)

/-- A signed word of 32 bits is **read back**. -/
theorem reads_int32 (i : Int32) : Reads readInt32 (ofInt i.toInt).text i :=
  have hlt := Int.le_of_lt_add_one i.toInt_lt
  reads_word (reads_ofInt "i32" (by decide) (by decide) i.le_toInt hlt) Int32.ofInt (by simp)

/-- A signed word of 64 bits is **read back**. -/
theorem reads_int64 (i : Int64) : Reads readInt64 (ofInt i.toInt).text i :=
  have hlt := Int.le_of_lt_add_one i.toInt_lt
  reads_word (reads_ofInt "i64" (by decide) (by decide) i.le_toInt hlt) Int64.ofInt (by simp)

/-- A **finite** number is read back; anything else is printed as `null`. -/
theorem reads_float {x : Binary64} (h : x.isFinite = true) :
    Reads readFloat (ofFloat x).text x := by
  cases x with
  | nan => cases h
  | inf s => cases h
  | finite s m q hcanonical => exact reads_number "f64" rfl

/-- A truth value is **read back**. -/
theorem reads_bool (b : Bool) : Reads readBool (bool b).text b := by
  intro rest _
  cases b <;> rfl

/-- A string is **read back**, whatever was expected. -/
theorem readStringAs_stringText (expected : String) (s : String) (rest : List Char) :
    readStringAs expected (stringText s ++ rest) = .ok (s, rest) := by
  have hskip : skipSpace (stringText s ++ rest) = '"' :: (escape s.toList ++ '"' :: rest) := by
    simp [stringText, skipSpace, isSpace]
  rw [readStringAs, hskip]
  exact readStringTail_escape s rest

/-- A string is **read back**. -/
theorem reads_string (s : String) : Reads readString (string s).text s := by
  intro rest _
  exact readStringAs_stringText "a string" s rest

/-- A printed name is read as the variant with that name. -/
theorem reads_variant {α : Type} (known : List String) {ofName? : String → Option α} {name : String}
    {a : α} (h : ofName? name = some a) :
    Reads (readVariant known ofName?) (string name).text a := by
  intro rest _
  have hskip :
      skipSpace ((string name).text ++ rest) = '"' :: (escape name.toList ++ '"' :: rest) := by
    simp [text, stringText, skipSpace, isSpace]
  rw [readVariant, hskip]
  simp [readStringTail_escape, variantOf, h, bind, Except.bind]

/-- A value that may be missing is read if it does not look like the word for that. -/
theorem reads_some {α : Type} {item : Reader α} {text : List Char} {a : α} (h : Reads item text a)
    (hstarts : Starts text) (hfirst : text.head? ≠ some 'n') :
    Reads (readOption item) text (some a) := by
  intro rest hrest
  obtain ⟨c, cs, rfl, hspace, hclose⟩ := hstarts
  have hskip : skipSpace (c :: cs ++ rest) = c :: (cs ++ rest) := by
    simp [skipSpace, hspace]
  have hc : c ≠ 'n' := by simpa using hfirst
  simp only [readOption, hskip, h rest hrest]
  simp [hc, bind, Except.bind]

/-- The word for a value that is missing is read as that, whatever would be read in its place. -/
theorem reads_none {α : Type} (item : Reader α) : Reads (readOption item) null.text none := by
  intro rest _
  simp [readOption, text, skipSpace, isSpace, word, bind, Except.bind]

/-! ### Lists -/

/-- Behind the first text every text has a comma in front. -/
theorem commas_cons (t : List Char) (ts : List (List Char)) :
    commas (t :: ts) = t ++ ts.flatMap (',' :: ·) := by
  induction ts generalizing t with
  | nil => simp [commas]
  | cons u us ih =>
    rw [commas, ih, List.flatMap_cons, List.cons_append]
    simp

/-- What stands behind a value inside brackets ends it: a comma or the closing bracket. -/
theorem ends_flatMap (ts : List (List Char)) {c : Char} (hc : c = ']' ∨ c = '\x7d')
    (rest : List Char) : Ends (ts.flatMap (',' :: ·) ++ c :: rest) := by
  cases ts with
  | nil => exact ends_cons (.inr hc) rest
  | cons t ts => exact ends_cons (.inl rfl) _

/-- Every text has a comma in front, so there are at most as many texts as characters. -/
theorem length_le_flatMap (ts : List (List Char)) :
    ts.length ≤ (ts.flatMap (',' :: ·)).length := by
  induction ts with
  | nil => simp
  | cons t ts ih =>
    simp only [List.flatMap_cons, List.length_append, List.length_cons]
    omega

/-- There is **one text** for each item. -/
theorem length_itemTexts (items : List Json) : (itemTexts items).length = items.length := by
  induction items with
  | nil => rfl
  | cons item items ih => rw [itemTexts, List.length_cons, ih, List.length_cons]

/-- There is **one text** for each member. -/
theorem length_memberTexts (members : List (String × Json)) :
    (memberTexts members).length = members.length := by
  induction members with
  | nil => rfl
  | cons member members ih => rw [memberTexts, List.length_cons, ih, List.length_cons]

/-- A bracket **closes** an array. -/
theorem nextItem_close (first : Bool) (rest : List Char) :
    nextItem first (']' :: rest) = .ok none := by
  simp [nextItem, skipSpace, isSpace]

/-- The **first item** has no comma before it. -/
theorem nextItem_first {text : List Char} (h : Starts text) :
    nextItem true text = .ok (some text) := by
  have hskip := h.skipSpace
  obtain ⟨c, cs, rfl, -, hclose⟩ := h
  rw [nextItem, hskip]
  simp [hclose]

/-- Every **other item** has a comma before it. -/
theorem nextItem_next {text : List Char} (h : Starts text) :
    nextItem false (',' :: text) = .ok (some text) := by
  have hskip := h.skipSpace
  have hcomma : skipSpace (',' :: text) = ',' :: text := by simp [skipSpace, isSpace]
  obtain ⟨c, cs, rfl, -, hclose⟩ := h
  rw [nextItem, hcomma]
  simp [hskip, hclose]

section List

variable {α : Type} {item : Reader α} {form : α → Json}

/-- The items behind the first one. -/
theorem readItems_next {as : List α} (h : ∀ a ∈ as, Reads item (form a).text a) (rest : List Char)
    {fuel : Nat} (hfuel : as.length < fuel) :
    readItems item fuel false ((itemTexts (as.map form)).flatMap (',' :: ·) ++ ']' :: rest) =
      .ok (as, rest) := by
  induction as generalizing fuel with
  | nil =>
    obtain ⟨fuel, rfl⟩ : ∃ n, fuel = n + 1 := ⟨fuel - 1, by omega⟩
    simp [readItems, itemTexts, nextItem_close, bind, Except.bind, skipSpace, isSpace]
  | cons a as ih =>
    obtain ⟨fuel, rfl⟩ : ∃ n, fuel = n + 1 := ⟨fuel - 1, by omega⟩
    have hnext := ih (fun b hb => h b (List.mem_cons_of_mem a hb)) (Nat.lt_of_succ_lt_succ hfuel)
    have hitem := h a (by simp) _ (ends_flatMap (itemTexts (as.map form)) (.inl rfl) rest)
    simp only [List.map_cons, itemTexts, List.flatMap_cons, List.cons_append, List.append_assoc]
    rw [readItems, nextItem_next ((starts_text (form a)).append _)]
    simp [hitem, hnext, bind, Except.bind]

/-- The items of a list, up to its closing bracket. -/
theorem readItems_all {as : List α} (h : ∀ a ∈ as, Reads item (form a).text a)
    {cs rest : List Char} (hcs : commas (itemTexts (as.map form)) ++ ']' :: rest = cs) :
    readItems item cs.length.succ true cs = .ok (as, rest) := by
  cases as with
  | nil =>
    subst hcs
    simp [itemTexts, commas, readItems, nextItem_close, bind, Except.bind, skipSpace, isSpace]
  | cons a as =>
    have hends := ends_flatMap (itemTexts (as.map form)) (.inl rfl) rest
    have hitem := h a (by simp) _ hends
    have htext : cs = (form a).text ++
        ((itemTexts (as.map form)).flatMap (',' :: ·) ++ ']' :: rest) := by
      simp [← hcs, itemTexts, commas_cons]
    have hfuel : as.length < cs.length := by
      have hlong := length_le_flatMap (itemTexts (as.map form))
      rw [length_itemTexts, List.length_map] at hlong
      simp only [htext, List.length_append, List.length_cons]
      omega
    have hfirst : nextItem true cs = .ok (some cs) := by
      rw [htext]
      exact nextItem_first ((starts_text (form a)).append _)
    have hnext := readItems_next (fun b hb => h b (List.mem_cons_of_mem a hb)) rest hfuel
    rw [← htext] at hitem
    simp only [readItems, hfirst, hitem, hnext, bind, Except.bind]

/-- A **list** is read if its items are. -/
theorem reads_list {as : List α} (h : ∀ a ∈ as, Reads item (form a).text a) :
    Reads (readList item) (array (as.map form)).text as := by
  intro rest _
  have hskip (cs : List Char) : skipSpace ('[' :: cs) = '[' :: cs := by simp [skipSpace, isSpace]
  have htext : (array (as.map form)).text ++ rest =
      '[' :: (commas (itemTexts (as.map form)) ++ ']' :: rest) := by simp [text]
  rw [htext, readList, hskip]
  exact readItems_all h rfl

end List

/-! ### Records -/

/-- A string has **no blank** before it. -/
theorem skipSpace_stringText (s : String) (rest : List Char) :
    skipSpace (stringText s ++ rest) = '"' :: (escape s.toList ++ '"' :: rest) := by
  simp [stringText, skipSpace, isSpace]

/-- A brace **closes** an object. -/
theorem nextKey_close (first : Bool) (rest : List Char) :
    nextKey first ('\x7d' :: rest) = .ok (none, rest) := by
  simp [nextKey, skipSpace, isSpace]

/-- The **first key** has no comma before it. -/
theorem nextKey_first (key : String) (rest : List Char) :
    nextKey true (stringText key ++ rest) = .ok (some key, rest) := by
  rw [nextKey, skipSpace_stringText]
  simp [readStringTail_escape, bind, Except.bind]

/-- Every **other key** has a comma before it. -/
theorem nextKey_next (key : String) (rest : List Char) :
    nextKey false (',' :: (stringText key ++ rest)) = .ok (some key, rest) := by
  have hcomma (cs : List Char) : skipSpace (',' :: cs) = ',' :: cs := by simp [skipSpace, isSpace]
  rw [nextKey, hcomma]
  simp [skipSpace_stringText, readStringTail_escape, bind, Except.bind]

/-- A colon is **taken off**. -/
theorem colon_colon (rest : List Char) : colon (':' :: rest) = .ok rest := by
  simp [colon, skipSpace, isSpace]

section Record

variable {σ : Type}

/-- The members **fill** a draft one after another: each is the member of a field that is still
empty, and is read into it. -/
inductive Fills (fields : List (RecordField σ)) : σ → List (String × Json) → σ → Prop
  | nil (draft : σ) : Fills fields draft [] draft
  | cons {draft draft' filled : σ} {key : String} {value : Json} {members : List (String × Json)}
      {field : RecordField σ} (known : fields.find? (·.name == key) = some field)
      (empty : field.isFilled draft = false) (reads : Reads (field.read draft) value.text draft')
      (rest : Fills fields draft' members filled) :
      Fills fields draft ((key, value) :: members) filled

/-- A slot is filled with what its reader reads. -/
theorem reads_slot {α : Type} (name : String) (get : σ → Option α) (set : σ → α → σ)
    {item : Reader α} {text : List Char} {a : α} (h : Reads item text a) (draft : σ) :
    Reads ((RecordField.slot name get set item).read draft) text (set draft a) := by
  intro rest hrest
  simp [RecordField.slot, h rest hrest, bind, Except.bind]

/-- An optional field is read in the same way. -/
theorem reads_optional {field : RecordField σ} {text : List Char} {draft draft' : σ}
    (h : Reads (field.read draft) text draft') : Reads (field.optional.read draft) text draft' :=
  h

/-- One member, behind its key. -/
theorem readMembers_value {fields : List (RecordField σ)} {field : RecordField σ} {draft draft' : σ}
    {key : String} {value : Json} {cs : List Char} {first : Bool} {fuel : Nat}
    (known : fields.find? (·.name == key) = some field) (empty : field.isFilled draft = false)
    (reads : Reads (field.read draft) value.text draft') {rest : List Char} (hrest : Ends rest)
    (hkey : nextKey first cs = .ok (some key, ':' :: (value.text ++ rest))) :
    readMembers fields (fuel + 1) first draft cs = readMembers fields fuel false draft' rest := by
  simp [readMembers, hkey, known, empty, colon_colon, reads rest hrest, bind, Except.bind]

/-- The members behind the first one. -/
theorem readMembers_next {fields : List (RecordField σ)} {draft filled : σ}
    {members : List (String × Json)} (h : Fills fields draft members filled) (rest : List Char)
    {fuel : Nat} (hfuel : members.length < fuel) :
    readMembers fields fuel false draft
        ((memberTexts members).flatMap (',' :: ·) ++ '\x7d' :: rest) = .ok (filled, rest) := by
  induction h generalizing fuel with
  | nil draft =>
    obtain ⟨fuel, rfl⟩ : ∃ n, fuel = n + 1 := ⟨fuel - 1, by omega⟩
    simp [readMembers, memberTexts, nextKey_close, bind, Except.bind]
  | @cons draft draft' filled key value members field known empty reads _ ih =>
    obtain ⟨fuel, rfl⟩ : ∃ n, fuel = n + 1 := ⟨fuel - 1, by omega⟩
    rw [← ih (Nat.lt_of_succ_lt_succ hfuel)]
    refine readMembers_value known empty reads (ends_flatMap _ (.inr rfl) rest) ?_
    simp [memberTexts, nextKey_next]

/-- A **record** is read from an object whose members fill its draft. -/
theorem reads_record {α : Type} (name : String) {fields : List (RecordField σ)} {blank filled : σ}
    {finish : σ → Except Fault α} {members : List (String × Json)} {a : α}
    (h : Fills fields blank members filled) (hfinish : finish filled = .ok a) :
    Reads (readRecord name fields blank finish) (object members).text a := by
  intro rest _
  have hskip (cs : List Char) : skipSpace ('\x7b' :: cs) = '\x7b' :: cs := by
    simp [skipSpace, isSpace]
  suffices hmembers : ∀ cs, commas (memberTexts members) ++ '\x7d' :: rest = cs →
      readMembers fields cs.length.succ true blank cs = .ok (filled, rest) by
    have htext : (object members).text ++ rest =
        '\x7b' :: (commas (memberTexts members) ++ '\x7d' :: rest) := by simp [text]
    rw [htext, readRecord, hskip]
    simp only [hmembers _ rfl, hfinish, bind, Except.bind]
  rintro cs rfl
  cases h with
  | nil draft => simp [memberTexts, commas, readMembers, nextKey_close, bind, Except.bind]
  | @cons _ draft' _ key value members field known empty reads hrest =>
    have hlong := length_le_flatMap (memberTexts members)
    rw [length_memberTexts] at hlong
    have hfuel : members.length <
        (commas (memberTexts ((key, value) :: members)) ++ '\x7d' :: rest).length := by
      simp only [memberTexts, commas_cons, List.length_append, List.length_cons]
      omega
    rw [← readMembers_next hrest rest hfuel]
    refine readMembers_value known empty reads (ends_flatMap _ (.inr rfl) rest) ?_
    simp [memberTexts, commas_cons, nextKey_first]

end Record

end Guildkeep.Json
