import Guildkeep.Json.Value
import Guildkeep.Text.Quoted

/-!
# Printing JSON

The compact form, in which saves and events are stored, and the indented form for readers. Only
the quote, the backslash and the control characters below the blank are escaped.
-/

namespace Guildkeep.Json

open Text

/-- One character inside a JSON string. -/
def escaped (c : Char) : List Char :=
  if c = '"' then ['\\', '"']
  else if c = '\\' then ['\\', '\\']
  else if c = '\x08' then ['\\', 'b']
  else if c = '\t' then ['\\', 't']
  else if c = '\n' then ['\\', 'n']
  else if c = '\x0c' then ['\\', 'f']
  else if c = '\r' then ['\\', 'r']
  else if c.toNat < 32 then
    ['\\', 'u', '0', '0', Nat.digitChar (c.toNat / 16), Nat.digitChar (c.toNat % 16)]
  else [c]

/-- The characters of a string with their escapes. -/
def escape (s : List Char) : List Char :=
  s.flatMap escaped

/-- A string between quotes. -/
def stringText (s : String) : List Char :=
  '"' :: escape s.toList ++ ['"']

/-- The text of a number. -/
def Number.text : Number → List Char
  | .unsigned n => natDigits n.toNat
  | .negative i _ => intDigits i.toInt
  | .real s m q h => Binary64.jsonDigits s m q h

/-- The texts with a comma between each two. -/
def commas : List (List Char) → List Char
  | [] => []
  | [s] => s
  | s :: rest => s ++ ',' :: commas rest

mutual

/-- The **compact text** of a value. -/
def text : Json → List Char
  | null => "null".toList
  | bool true => "true".toList
  | bool false => "false".toList
  | number n => n.text
  | string s => stringText s
  | array items => '[' :: commas (itemTexts items) ++ [']']
  | object members => '\x7b' :: commas (memberTexts members) ++ ['\x7d']

/-- The compact texts of the items. -/
def itemTexts : List Json → List (List Char)
  | [] => []
  | item :: rest => item.text :: itemTexts rest

/-- The compact texts of the members. -/
def memberTexts : List (String × Json) → List (List Char)
  | [] => []
  | (key, value) :: rest => (stringText key ++ ':' :: value.text) :: memberTexts rest

end

/-- The compact text as a string. -/
def render (v : Json) : String :=
  String.ofList v.text

/-! ### Indented form -/

/-- A line break and the indentation of a level. -/
def newline (level : Nat) : List Char :=
  '\n' :: List.replicate (2 * level) ' '

/-- The texts, each on a line of its own, with commas between. -/
def lines (level : Nat) : List (List Char) → List Char
  | [] => []
  | [s] => newline level ++ s
  | s :: rest => newline level ++ s ++ ',' :: lines level rest

/-- Brackets around texts on lines of their own; an empty list stays on one line. -/
def bracket (opening closing : Char) (level : Nat) (texts : List (List Char)) : List Char :=
  if texts.isEmpty then [opening, closing]
  else opening :: lines (level + 1) texts ++ newline level ++ [closing]

mutual

/-- The indented text of a value at a level. -/
def prettyAt (level : Nat) : Json → List Char
  | array items => bracket '[' ']' level (prettyItems (level + 1) items)
  | object members => bracket '\x7b' '\x7d' level (prettyMembers (level + 1) members)
  | null => "null".toList
  | bool true => "true".toList
  | bool false => "false".toList
  | number n => n.text
  | string s => stringText s

/-- The indented texts of the items. -/
def prettyItems (level : Nat) : List Json → List (List Char)
  | [] => []
  | item :: rest => item.prettyAt level :: prettyItems level rest

/-- The indented texts of the members. -/
def prettyMembers (level : Nat) : List (String × Json) → List (List Char)
  | [] => []
  | (key, value) :: rest =>
    (stringText key ++ ':' :: ' ' :: value.prettyAt level) :: prettyMembers level rest

end

/-- The indented text of a value. -/
def pretty (v : Json) : String :=
  String.ofList (v.prettyAt 0)

end Guildkeep.Json
