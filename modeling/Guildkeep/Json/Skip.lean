import Guildkeep.Json.Scan

/-!
# Passing over a Value

A member that nobody asked for is passed over. Its syntax is checked, nothing else: numbers may be
of any size, surrogates may stand alone and brackets may nest to any depth. The open brackets are
kept on a stack, so no recursion limit is needed.
-/

namespace Guildkeep.Json

/-- The blanks of JSON. -/
def isSpace (c : Char) : Bool :=
  c = ' ' || c = '\n' || c = '\t' || c = '\r'

/-- The text behind the blanks in front. -/
def skipSpace (cs : List Char) : List Char :=
  cs.dropWhile isSpace

/-- The rest of a word such as `null`, letter by letter. -/
def word : List Char → List Char → Except Fault (List Char)
  | [], cs => .ok cs
  | _ :: _, [] => .error .endInValue
  | e :: es, c :: cs => if c = e then word es cs else .error .expectedIdent

/-- An open bracket. -/
inductive Frame where
  | list
  | object
  deriving DecidableEq

/-- Passes over a value that opens no bracket, or notes the bracket it opens. -/
def skipHead (cs : List Char) : Except Fault (Option Frame × List Char) :=
  match skipSpace cs with
  | [] => .error .endInValue
  | 'n' :: rest => do .ok (none, ← word "ull".toList rest)
  | 't' :: rest => do .ok (none, ← word "rue".toList rest)
  | 'f' :: rest => do .ok (none, ← word "alse".toList rest)
  | '"' :: rest => do .ok (none, ← skipString .plain rest)
  | '[' :: rest => .ok (some .list, rest)
  | '\x7b' :: rest => .ok (some .object, rest)
  | c :: rest =>
    if c = '-' ∨ Text.isDigit c then do .ok (none, ← skipNumber (c :: rest))
    else .error .expectedValue

/-- Closes brackets as long as closing ones follow. With `comma` a value has just ended and a comma
may follow; it is passed over. Yields the brackets that are still open. -/
def skipClosings : Bool → List Frame → List Char → Except Fault (List Frame × List Char)
  | _, [], cs => .ok ([], cs)
  | comma, frame :: below, cs =>
    match skipSpace cs with
    | [] => .error (match frame with | .list => .endInList | .object => .endInObject)
    | c :: rest =>
      if c = ',' ∧ comma = true then .ok (frame :: below, rest)
      else if (c = ']' ∧ frame = .list) ∨ (c = '\x7d' ∧ frame = .object) then
        skipClosings true below rest
      else if comma then
        .error (match frame with
          | .list => .expectedCommaOrBracket
          | .object => .expectedCommaOrBrace)
      else .ok (frame :: below, c :: rest)

/-- Passes over the key and the colon before the next value of an open object. -/
def skipKey (cs : List Char) : Except Fault (List Char) :=
  match skipSpace cs with
  | [] => .error .endInObject
  | '"' :: rest => do
    let rest ← skipString .plain rest
    match skipSpace rest with
    | [] => .error .endInObject
    | ':' :: rest => .ok rest
    | _ => .error .expectedColon
  | _ => .error .keyNotString

/-- Passes over one value and, while brackets are open, over what follows it. -/
def skipValues : Nat → List Frame → List Char → Except Fault (List Char)
  | 0, _, _ => .error .endInValue
  | n + 1, open_, cs => do
    let (opened, rest) ← skipHead cs
    let (open_, rest) ← match opened with
      | some frame => skipClosings false (frame :: open_) rest
      | none => skipClosings true open_ rest
    match open_ with
    | [] => .ok rest
    | .list :: _ => skipValues n open_ rest
    | .object :: _ => do
      let rest ← skipKey rest
      skipValues n open_ rest

/-- The text behind the **value** in front, which is checked for its syntax only. -/
def skipValue (cs : List Char) : Except Fault (List Char) :=
  skipValues cs.length.succ [] cs

end Guildkeep.Json
