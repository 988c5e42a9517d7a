import Guildkeep.Json.Skip

/-!
# Reading JSON

Readers for what a text may hold: scalars, lists, records with named fields, variants, and whole
values. A reader gets the text in front of it and yields what it read with the text behind, or the
first fault in the order of the text.

## Conventions

A record is read from an object with its fields in any order, or from a list with its fields in the
declared order. Unknown members are passed over, a repeated field is a fault, and missing fields
are found when the object ends, in the declared order. A whole value may nest at most
`maxDepth` brackets deep.
-/

namespace Guildkeep.Json

/-- A **reader**: it takes its value off the front of a text. -/
def Reader (α : Type) : Type :=
  List Char → Except Fault (α × List Char)

/-- How many brackets may be open at once in a value that is kept. -/
def maxDepth : Nat := 127

/-! ### Faults for values of the wrong type -/

/-- What a number looks like in a message. -/
def Number.found : Number → Found
  | .unsigned n => .unsigned n
  | .negative i _ => .negative i
  | .real s m q h => .real (Binary64.jsonDigits s m q h)

/-- The fault for a value that is not of the expected type: it is read as far as a message needs,
and a fault inside it comes first. -/
def wrongType (expected : String) (cs : List Char) : Fault :=
  match cs with
  | [] => .expectedValue
  | 'n' :: rest =>
    match word "ull".toList rest with
    | .ok _ => .invalidType .null expected
    | .error fault => fault
  | 't' :: rest =>
    match word "rue".toList rest with
    | .ok _ => .invalidType (.bool true) expected
    | .error fault => fault
  | 'f' :: rest =>
    match word "alse".toList rest with
    | .ok _ => .invalidType (.bool false) expected
    | .error fault => fault
  | '"' :: rest =>
    match scanString .plain rest [] with
    | .ok (s, _) => .invalidType (.string (String.ofList s)) expected
    | .error fault => fault
  | '[' :: _ => .invalidType .sequence expected
  | '\x7b' :: _ => .invalidType .map expected
  | c :: rest =>
    if c = '-' ∨ Text.isDigit c then
      match scanNumber (c :: rest) with
      | .ok (n, _) => .invalidType n.found expected
      | .error fault => fault
    else .expectedValue

/-! ### Scalars -/

/-- Whether a number starts with this character. -/
def startsNumber (c : Char) : Bool :=
  c = '-' || Text.isDigit c

/-- A number, judged by `accept`. -/
def readNumber {α : Type} (expected : String) (accept : Number → Except Fault α) : Reader α :=
  fun cs => match skipSpace cs with
    | [] => .error .endInValue
    | c :: rest =>
      if startsNumber c then do
        let (n, behind) ← scanNumber (c :: rest)
        let value ← accept n
        .ok (value, behind)
      else .error (wrongType expected (c :: rest))

/-- An integer between two bounds. Only a word is an integer: `1.0` is not. -/
def readInt (expected : String) (lo hi : Int) : Reader Int :=
  readNumber expected fun
    | .unsigned n =>
      if (n.toNat : Int) ≤ hi then .ok n.toNat else .error (.invalidValue (.unsigned n) expected)
    | .negative i _ =>
      if lo ≤ i.toInt then .ok i.toInt else .error (.invalidValue (.negative i) expected)
    | n => .error (.invalidType n.found expected)

/-- The binary64 number that a JSON number stands for. -/
def Number.toFloat : Number → Binary64
  | .unsigned n => Binary64.ofInt n.toNat
  | .negative i _ => Binary64.ofInt i.toInt
  | .real s m q h => .finite s m q h

/-- A word of 32 bits without sign. -/
def readUInt32 : Reader UInt32 := fun cs => do
  let (i, rest) ← readInt "u32" 0 4294967295 cs
  .ok (UInt32.ofNat i.toNat, rest)

/-- A word of 64 bits without sign. -/
def readUInt64 (expected : String) : Reader UInt64 := fun cs => do
  let (i, rest) ← readInt expected 0 18446744073709551615 cs
  .ok (UInt64.ofNat i.toNat, rest)

/-- A signed word of 32 bits. -/
def readInt32 : Reader Int32 := fun cs => do
  let (i, rest) ← readInt "i32" minInt32 maxInt32 cs
  .ok (Int32.ofInt i, rest)

/-- A signed word of 64 bits. -/
def readInt64 : Reader Int64 := fun cs => do
  let (i, rest) ← readInt "i64" minInt64 maxInt64 cs
  .ok (Int64.ofInt i, rest)

/-- A binary64 number; any number will do. -/
def readFloat : Reader Binary64 :=
  readNumber "f64" fun n => .ok n.toFloat

/-- A truth value. -/
def readBool : Reader Bool := fun cs =>
  match skipSpace cs with
  | [] => .error .endInValue
  | 't' :: rest => do .ok (true, ← word "rue".toList rest)
  | 'f' :: rest => do .ok (false, ← word "alse".toList rest)
  | rest => .error (wrongType "a boolean" rest)

/-- The word `null`. -/
def readNull : Reader Unit := fun cs =>
  match skipSpace cs with
  | [] => .error .endInValue
  | 'n' :: rest => do .ok ((), ← word "ull".toList rest)
  | rest => .error (wrongType "unit" rest)

/-- A string, from inside its quotes. -/
def readStringTail : Reader String := fun cs => do
  let (s, rest) ← scanString .plain cs []
  .ok (String.ofList s, rest)

/-- A string; `expected` is what a message calls it. -/
def readStringAs (expected : String) : Reader String := fun cs =>
  match skipSpace cs with
  | [] => .error .endInValue
  | '"' :: rest => readStringTail rest
  | rest => .error (wrongType expected rest)

/-- A string. -/
def readString : Reader String :=
  readStringAs "a string"

/-- An instant, in a string. -/
def readInstant : Reader Time.Instant := fun cs => do
  let (s, rest) ← readStringAs "an RFC 3339 formatted date and time string" cs
  match Time.Instant.read s with
  | .ok t => .ok (t, rest)
  | .error why => .error (.notAnInstant why)

/-- A value that may be `null`. -/
def readOption {α : Type} (item : Reader α) : Reader (Option α) := fun cs =>
  match skipSpace cs with
  | 'n' :: rest => do .ok (none, ← word "ull".toList rest)
  | _ => do
    let (a, rest) ← item cs
    .ok (some a, rest)

/-! ### Lists -/

/-- What stands before the next item of a list: `none` at the closing bracket, which is left
standing, or the text of the item. -/
def nextItem (first : Bool) (cs : List Char) : Except Fault (Option (List Char)) :=
  match skipSpace cs with
  | [] => .error .endInList
  | c :: rest =>
    if c = ']' then .ok none
    else if first then .ok (some (c :: rest))
    else if c = ',' then
      match skipSpace rest with
      | [] => .error .endInValue
      | ']' :: _ => .error .trailingComma
      | rest => .ok (some rest)
    else .error .expectedCommaOrBracket

/-- The items of a list up to its closing bracket; `fuel` bounds their number. -/
def readItems {α : Type} (item : Reader α) : Nat → Bool → Reader (List α)
  | 0, _, _ => .error .endInList
  | fuel + 1, first, cs => do
    match ← nextItem first cs with
    | none => .ok ([], (skipSpace cs).drop 1)
    | some rest =>
      let (a, rest) ← item rest
      let (as, rest) ← readItems item fuel false rest
      .ok (a :: as, rest)

/-- A list. -/
def readList {α : Type} (item : Reader α) : Reader (List α) := fun cs =>
  match skipSpace cs with
  | [] => .error .endInValue
  | '[' :: rest => readItems item rest.length.succ true rest
  | rest => .error (wrongType "a sequence" rest)

/-! ### Objects -/

/-- What stands before the next member of an object: `none` behind the closing brace, or the key,
with the text behind either. -/
def nextKey (first : Bool) (cs : List Char) : Except Fault (Option String × List Char) :=
  match skipSpace cs with
  | [] => .error .endInObject
  | c :: rest =>
    if c = '\x7d' then .ok (none, rest)
    else if first then
      if c = '"' then do
        let (key, rest) ← readStringTail rest
        .ok (some key, rest)
      else .error .keyNotString
    else if c = ',' then
      match skipSpace rest with
      | [] => .error .endInValue
      | '"' :: rest => do
        let (key, rest) ← readStringTail rest
        .ok (some key, rest)
      | '\x7d' :: _ => .error .trailingComma
      | _ => .error .keyNotString
    else .error .expectedCommaOrBrace

/-- The colon between a key and its value. -/
def colon (cs : List Char) : Except Fault (List Char) :=
  match skipSpace cs with
  | [] => .error .endInObject
  | ':' :: rest => .ok rest
  | _ => .error .expectedColon

/-- A field of a record whose draft has type `σ`. An optional field may be left out. -/
structure RecordField (σ : Type) where
  name : String
  isOptional : Bool
  isFilled : σ → Bool
  read : σ → Reader σ

/-- A field that is filled through a slot of the draft. -/
def RecordField.slot {σ α : Type} (name : String) (get : σ → Option α) (set : σ → α → σ)
    (item : Reader α) : RecordField σ where
  name := name
  isOptional := false
  isFilled draft := (get draft).isSome
  read draft cs := do
    let (a, rest) ← item cs
    .ok (set draft a, rest)

/-- The same field, made optional. -/
def RecordField.optional {σ : Type} (field : RecordField σ) : RecordField σ :=
  { field with isOptional := true }

/-- The members of an object up to its closing brace; `fuel` bounds their number. -/
def readMembers {σ : Type} (fields : List (RecordField σ)) : Nat → Bool → σ → Reader σ
  | 0, _, _, _ => .error .endInObject
  | fuel + 1, first, draft, cs => do
    let (key?, rest) ← nextKey first cs
    match key? with
    | none => .ok (draft, rest)
    | some key =>
      match fields.find? (·.name == key) with
      | some field =>
        if field.isFilled draft then .error (.duplicateField key)
        else do
          let rest ← colon rest
          let (draft, rest) ← field.read draft rest
          readMembers fields fuel false draft rest
      | none => do
        let rest ← colon rest
        let rest ← skipValue rest
        readMembers fields fuel false draft rest

/-- What has to follow the last field of a record that is written as a list. -/
def listEnd (cs : List Char) : Except Fault (List Char) :=
  match skipSpace cs with
  | [] => .error .endInList
  | ']' :: rest => .ok rest
  | ',' :: rest =>
    match skipSpace rest with
    | ']' :: _ => .error .trailingComma
    | _ => .error .trailingCharacters
  | _ => .error .trailingCharacters

/-- The fields of a record that is written as a list, from the field with this index on. -/
def readPositions {σ : Type} (expected : String) : List (RecordField σ) → Nat → Bool → σ → Reader σ
  | [], _, _, draft, cs => .ok (draft, cs)
  | field :: fields, index, first, draft, cs => do
    match ← nextItem first cs with
    | none =>
      if field.isOptional then readPositions expected fields (index + 1) first draft cs
      else .error (.invalidLength index expected)
    | some rest =>
      let (draft, rest) ← field.read draft rest
      readPositions expected fields (index + 1) false draft rest

/-- A **record**: its fields fill a draft, and `finish` turns the draft into the record or finds a
field missing. -/
def readRecord {σ α : Type} (name : String) (fields : List (RecordField σ)) (blank : σ)
    (finish : σ → Except Fault α) : Reader α := fun cs =>
  match skipSpace cs with
  | [] => .error .endInValue
  | '\x7b' :: rest => do
    let (draft, rest) ← readMembers fields rest.length.succ true blank rest
    let record ← finish draft
    .ok (record, rest)
  | '[' :: rest => do
    let expected := "struct " ++ name ++ " with " ++ Text.nat fields.length ++ " elements"
    let (draft, rest) ← readPositions expected fields 0 true blank rest
    let record ← finish draft
    let rest ← listEnd rest
    .ok (record, rest)
  | rest => .error (wrongType ("struct " ++ name) rest)

/-- The content of a slot, or the fault that its field is missing. -/
def need {α : Type} (name : String) : Option α → Except Fault α
  | some a => .ok a
  | none => .error (.missingField name)

/-! ### Variants -/

/-- The variant with a name, or the fault that there is none. -/
def variantOf {α : Type} (known : List String) (ofName? : String → Option α) (name : String) :
    Except Fault α :=
  match ofName? name with
  | some a => .ok a
  | none => .error (.unknownVariant name known)

/-- The name of a variant as the key of an object, behind the opening brace. -/
def readVariantKey : Reader String := fun cs =>
  match skipSpace cs with
  | [] => .error .endInObject
  | '"' :: rest => readStringTail rest
  | '\x7d' :: _ => .error .expectedValue
  | _ => .error .keyNotString

/-- A **variant**: its name in a string, or as the only key of an object whose value is null. -/
def readVariant {α : Type} (known : List String) (ofName? : String → Option α) : Reader α :=
  fun cs => match skipSpace cs with
    | [] => .error .endInValue
    | '"' :: rest => do
      let (name, rest) ← readStringTail rest
      let a ← variantOf known ofName? name
      .ok (a, rest)
    | '\x7b' :: rest => do
      let (name, rest) ← readVariantKey rest
      let a ← variantOf known ofName? name
      let rest ← colon rest
      let ((), rest) ← readNull rest
      match skipSpace rest with
      | [] => .error .endInObject
      | '\x7d' :: rest => .ok (a, rest)
      | _ => .error .expectedValue
    | _ => .error .expectedValue

/-! ### Whole values -/

/-- The members of an object, sorted as they are read, a later one replacing an earlier one. -/
def readSorted (value : Reader Json) : Nat → Bool → List (String × Json) →
    Reader (List (String × Json))
  | 0, _, _, _ => .error .endInObject
  | fuel + 1, first, members, cs => do
    let (key?, rest) ← nextKey first cs
    match key? with
    | none => .ok (members, rest)
    | some key =>
      let rest ← colon rest
      let (v, rest) ← value rest
      readSorted value fuel false (insertMember key v members) rest

/-- A value that opens no bracket. -/
def readScalar (cs : List Char) : Except Fault (Json × List Char) :=
  match cs with
  | [] => .error .endInValue
  | 'n' :: rest => do .ok (.null, ← word "ull".toList rest)
  | 't' :: rest => do .ok (.bool true, ← word "rue".toList rest)
  | 'f' :: rest => do .ok (.bool false, ← word "alse".toList rest)
  | '"' :: rest => do
    let (s, rest) ← readStringTail rest
    .ok (.string s, rest)
  | c :: rest =>
    if startsNumber c then do
      let (n, rest) ← scanNumber (c :: rest)
      .ok (.number n, rest)
    else .error .expectedValue

/-- A **whole value** with at most `depth` brackets open at once. -/
def readValue : Nat → Reader Json
  | depth, cs =>
    match skipSpace cs, depth with
    | '[' :: _, 0 => .error .tooDeep
    | '\x7b' :: _, 0 => .error .tooDeep
    | '[' :: rest, depth + 1 => do
      let (items, rest) ← readItems (readValue depth) rest.length.succ true rest
      .ok (.array items, rest)
    | '\x7b' :: rest, depth + 1 => do
      let (members, rest) ← readSorted (readValue depth) rest.length.succ true [] rest
      .ok (.object members, rest)
    | rest, _ => readScalar rest

/-! ### Whole texts -/

/-- Reads a text that holds one value and nothing else but blanks. -/
def Reader.run {α : Type} (reader : Reader α) (s : String) : Except Fault α := do
  let (a, rest) ← reader s.toList
  if skipSpace rest = [] then .ok a else .error .trailingCharacters

/-- Reads a text that holds one value of any kind. -/
def parse (s : String) : Except Fault Json :=
  (readValue maxDepth).run s

end Guildkeep.Json
