import Guildkeep.Settings
import Guildkeep.Text.Alphanumeric

/-!
# Environment Files

A file may add variables to the environment, one on a line: a name, an equals sign and a value.
Blank lines and lines that start with `#` say nothing, and `export` may stand before the name. A
value may have parts in single quotes, which stand as they are, and parts in double quotes; outside
single quotes a backslash escapes a character and `$name` or `$` and a name in braces stands for the
value of a variable. A quoted part may go over several lines. After a blank outside quotes only a
comment may follow.

## Conventions

A variable that is set already keeps its value. Reading stops at the first line that is not a text
or not of this form; the variables before it have been set.
-/

namespace Guildkeep.Tool.EnvFile

open Text

/-! ### Lines -/

/-- Where in a line one is, as far as quotes go. -/
inductive Place where
  | plain
  | blank
  | escape
  | single
  | singleEscape
  | double
  | doubleEscape
  deriving DecidableEq

/-- The place after a character, or none where a comment starts. -/
def Place.after : Place → Char → Option Place
  | .blank, '#' => none
  | .plain, c | .blank, c =>
    if c == '\\' then some .escape
    else if c == '"' then some .double
    else if c == '\'' then some .single
    else some .plain
  | .escape, _ => some .plain
  | .double, c => some (if c == '\\' then .doubleEscape else if c == '"' then .plain else .double)
  | .doubleEscape, _ => some .double
  | .single, c => some (if c == '\\' then .singleEscape else if c == '\'' then .plain else .single)
  | .singleEscape, _ => some .single

/-- The place after a character, blanks that may come before a comment included. -/
def Place.step (p : Place) (c : Char) : Option Place :=
  if p = .plain && isBlank c && c ≠ '\n' && c ≠ '\r' then some .blank else p.after c

/-- Goes through a line: what comes before a comment, or the place at its end. -/
def scan : Place → List Char → List Char → List Char ⊕ Place
  | p, [], _ => .inr p
  | p, c :: rest, seen =>
    match p.step c with
    | none => .inl seen.reverse
    | some p => scan p rest (c :: seen)

/-- The lines of a file, each with its end. -/
def physicalLines (bytes : List UInt8) : List (List UInt8) :=
  let (lines, last) := bytes.foldl
    (fun (lines, line) b => if b == 10 then ((b :: line) :: lines, []) else (lines, b :: line))
    (([] : List (List UInt8)), ([] : List UInt8))
  ((if last.isEmpty then lines else last :: lines).map List.reverse).reverse

/-- The lines up to the first that is not a text. -/
def readableLines : List (List UInt8) → List (List Char)
  | [] => []
  | line :: rest =>
    match String.fromUTF8? ⟨line.toArray⟩ with
    | some text => text.toList :: readableLines rest
    | none => []

/-- A line without its end. -/
def chomp (line : List Char) : List Char :=
  match line.reverse with
  | '\n' :: '\r' :: rest => rest.reverse
  | '\n' :: rest => rest.reverse
  | _ => line

/-! ### Values -/

/-- How far a name to be replaced has been read. -/
inductive Naming where
  | none
  | bare
  | braced
  deriving DecidableEq

/-- A value in the making. -/
structure Draft where
  single : Bool := false
  double : Bool := false
  escaped : Bool := false
  /-- Whether only a comment may follow. -/
  ending : Bool := false
  naming : Naming := .none
  name : List Char := []
  /-- What the value is so far, last character first. -/
  out : List Char := []

namespace Draft

/-- Adds a character. -/
def push (d : Draft) (c : Char) : Draft :=
  { d with out := c :: d.out }

/-- Puts the value of the variable in place of its name. -/
def replace (value : String → String) (d : Draft) : Draft :=
  { d with
    naming := .none
    name := []
    out := (value (String.ofList d.name.reverse)).toList.reverse ++ d.out }

/-- What an escaped character stands for. -/
def unescape? : Char → Option Char
  | '\\' => some '\\'
  | '\'' => some '\''
  | '"' => some '"'
  | '$' => some '$'
  | ' ' => some ' '
  | 'n' => some '\n'
  | _ => none

/-- One more character of a name to be replaced, or the first after it. -/
def stepName (value : String → String) (d : Draft) (c : Char) : Draft :=
  if isAlphanumeric c then { d with name := c :: d.name }
  else
    match d.naming with
    | .braced => if c == '\x7d' then d.replace value else { d with name := c :: d.name }
    | _ =>
      if c == '\x7b' && d.name.isEmpty then { d with naming := .braced }
      else if c == '$' then { d.replace value with naming := .bare }
      else (d.replace value).push c

/-- One more character outside single quotes, escapes and names. -/
def stepPlain (d : Draft) (c : Char) : Draft :=
  if c == '$' then { d with naming := .bare }
  else if d.double then
    if c == '"' then { d with double := false }
    else if c == '\\' then { d with escaped := true }
    else d.push c
  else if c == '\'' then { d with single := true }
  else if c == '"' then { d with double := true }
  else if c == '\\' then { d with escaped := true }
  else if c == ' ' || c == '\t' then { d with ending := true }
  else d.push c

/-- One more character of a value. -/
def step (value : String → String) (d : Draft) (c : Char) : Option Draft :=
  if d.escaped then (unescape? c).map fun c => { d.push c with escaped := false }
  else if d.single then some (if c == '\'' then { d with single := false } else d.push c)
  else if d.naming ≠ .none then some (d.stepName value c)
  else some (d.stepPlain c)

/-- Reads a value to its end, if it is well-formed. -/
def read (value : String → String) : Draft → List Char → Option String
  | d, [] =>
    if d.naming = .braced || d.single || d.double then none
    else some (String.ofList (d.replace value).out.reverse)
  | d, c :: rest =>
    if d.ending then
      if c == ' ' || c == '\t' then read value d rest
      else if c == '#' then read value d []
      else none
    else (d.step value c).bind fun d => read value d rest

end Draft

/-! ### Settings -/

/-- The name at the start of a line, and the rest. -/
def readName (line : List Char) : Option (String × List Char) :=
  match line with
  | c :: _ =>
    if c.isAlpha || c == '_' then
      let name := line.takeWhile fun c => c.isAlphanum || c == '_' || c == '.'
      some (String.ofList name, line.drop name.length)
    else none
  | [] => none

/-- What a line says. -/
inductive Line where
  | nothing
  | sets (name value : String)
  | wrong

/-- Reads the value of a name, after the equals sign. -/
def readValue (value : String → String) (name : String) (rest : List Char) : Line :=
  match trimStart rest with
  | [] | '#' :: _ => .sets name ""
  | chars =>
    match Draft.read value {} chars with
    | some v => .sets name v
    | none => .wrong

/-- Reads a line. -/
def readLine (value : String → String) (line : List Char) : Line :=
  match trim line with
  | [] | '#' :: _ => .nothing
  | chars =>
    match readName chars with
    | none => .wrong
    | some (name, rest) =>
      match trimStart rest with
      | '=' :: rest => readValue value name rest
      | rest =>
        if name ≠ "export" then .wrong
        else
          match readName rest with
          | none => .wrong
          | some (name, rest) =>
            match trimStart rest with
            | '=' :: rest => readValue value name rest
            | _ => .wrong

/-- The value of a variable: that of the environment, else what the file said. -/
def valueIn (env : Environment) (said : List (String × String)) (name : String) : String :=
  ((env.get? name).or (said.lookup name)).getD ""

/-- Reads lines on, given the start of one that goes over several. -/
def load (env : Environment) (said : List (String × String)) (p : Place) (start : List Char) :
    List (List Char) → Environment
  | [] => env
  | line :: rest =>
    let whole := start ++ line
    let take (line : List Char) : Environment :=
      match readLine (valueIn env said) line with
      | .wrong => env
      | .nothing => load env said .plain [] rest
      | .sets name value =>
        let env := if (env.get? name).isSome then env else (name, .text value) :: env
        load env ((name, value) :: said) .plain [] rest
    if (trimStart whole).head? = some '#' then load env said .plain [] rest
    else
      match scan p line [] with
      | .inl before => take (start ++ before)
      | .inr .plain => take (chomp whole)
      | .inr p => load env said p whole rest

/-- The bytes of a file without the mark that it may start with. -/
def withoutMark : List UInt8 → List UInt8
  | 0xEF :: 0xBB :: 0xBF :: rest => rest
  | bytes => bytes

/-- The environment with the **variables of a file**. -/
def extend (env : Environment) (content : ByteArray) : Environment :=
  load env [] .plain [] (readableLines (physicalLines (withoutMark content.data.toList)))

end Guildkeep.Tool.EnvFile
