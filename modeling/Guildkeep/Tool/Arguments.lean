/-!
# Command Lines

A command line names a command and gives it options and ids. An option may be written long or short;
a value follows in the same word, with or without an equals sign, or in the next word. Short options
that take no value may stand together in one word. After a double hyphen every word is an id.

## Conventions

A command line that is not of this form is wrong as a whole: an option that the command does not
have, one given twice, a value that is missing, empty or not one of those allowed, and any id too
many or too few.

The texts that say how the tool is used are left out, and so are the ways of asking for them: a
command line with `help` in the place of the command, or with `--help` or `-h` in it, is one more
that is **wrong** here. The tool itself prints such a text then, ends well and touches nothing.
-/

namespace Guildkeep.Tool

/-- How a save is shown. -/
inductive Format where
  | summary
  | json
  deriving DecidableEq

/-- What may be asked for on a command line. -/
inductive Command where
  | listSaves (dir : Option String)
  | readSave (id : String) (dir : Option String) (format : Format)
  | deleteSave (id : String) (dir : Option String) (yes : Bool)
  | clean (dir : Option String) (yes : Bool)
  deriving DecidableEq

/-- The options of the commands. -/
inductive Switch where
  | dataDir
  | format
  | yes
  deriving DecidableEq

namespace Switch

/-- The long name of an option. -/
def long : Switch → String
  | dataDir => "data-dir"
  | format => "format"
  | yes => "yes"

/-- The short name of an option. -/
def short : Switch → Char
  | dataDir => 'd'
  | format => 'f'
  | yes => 'y'

/-- Whether an option has a value. -/
def takesValue : Switch → Bool
  | yes => false
  | _ => true

end Switch

/-- What a command line has **given** so far. -/
structure Given where
  dir : Option String := none
  format : Option Format := none
  yes : Bool := false
  ids : List String := []

namespace Given

/-- Takes note of an option and its value, if the option is new and the value is allowed. -/
def set (g : Given) (s : Switch) (value : String) : Option Given :=
  match s with
  | .dataDir => if g.dir.isSome || value = "" then none else some { g with dir := some value }
  | .format =>
    if g.format.isSome then none
    else if value = "summary" then some { g with format := some .summary }
    else if value = "json" then some { g with format := some .json }
    else none
  | .yes => if g.yes then none else some { g with yes := true }

/-- Takes note of ids. -/
def addIds (g : Given) (ids : List String) : Given :=
  { g with ids := g.ids ++ ids }

end Given

/-- Whether a word is an option, and so no value of the option before it. -/
def isOption (word : String) : Bool :=
  match word.toList with
  | '-' :: _ :: _ => true
  | _ => false

/-- Reads a word of short options: what they give, and the option whose value is the next word. -/
def readShort (switches : List Switch) : List Char → Given → Option (Given × Option Switch)
  | [], g => some (g, none)
  | c :: rest, g =>
    match switches.find? (·.short == c) with
    | none => none
    | some s =>
      if s.takesValue then
        match rest with
        | [] => some (g, some s)
        | '=' :: value => (g.set s (String.ofList value)).map (·, none)
        | value => (g.set s (String.ofList value)).map (·, none)
      else (g.set s "").bind (readShort switches rest)

/-- Reads a long option, the hyphens aside. -/
def readLong (switches : List Switch) (word : List Char) (g : Given) :
    Option (Given × Option Switch) :=
  let name := word.takeWhile (· ≠ '=')
  match switches.find? (·.long.toList == name), word.drop name.length with
  | none, _ => none
  | some s, [] => if s.takesValue then some (g, some s) else (g.set s "").map (·, none)
  | some s, _ :: value =>
    if s.takesValue then (g.set s (String.ofList value)).map (·, none) else none

/-- Reads the words after the name of a command that has these options. -/
def readWords (switches : List Switch) : List String → Given → Option Given
  | [], g => some g
  | word :: rest, g =>
    let option := match word.toList with
      | '-' :: '-' :: name => some (readLong switches name g)
      | '-' :: c :: cs => some (readShort switches (c :: cs) g)
      | _ => none
    if word = "--" then some (g.addIds rest)
    else
      match option with
      | none => readWords switches rest (g.addIds [word])
      | some none => none
      | some (some (g, none)) => readWords switches rest g
      | some (some (g, some s)) =>
        match rest with
        | [] => none
        | value :: rest =>
          if isOption value then none else (g.set s value).bind (readWords switches rest)

/-- What a command line **asks for**. -/
inductive Invocation where
  | version
  | command (c : Command)
  /-- Nothing: it is not of the form. -/
  | wrong

/-- The command with a name, from what is given. -/
def Command.of? (name : String) (words : List String) : Option Command :=
  match name with
  | "list-saves" => do
    let g ← readWords [.dataDir] words {}
    match g.ids with
    | [] => some (.listSaves g.dir)
    | _ => none
  | "read-save" => do
    let g ← readWords [.dataDir, .format] words {}
    match g.ids with
    | [id] => some (.readSave id g.dir (g.format.getD .summary))
    | _ => none
  | "delete-save" => do
    let g ← readWords [.dataDir, .yes] words {}
    match g.ids with
    | [id] => some (.deleteSave id g.dir g.yes)
    | _ => none
  | "clean" => do
    let g ← readWords [.dataDir, .yes] words {}
    match g.ids with
    | [] => some (.clean g.dir g.yes)
    | _ => none
  | _ => none

/-- **Reads** a command line. One that asks for help is read as wrong. -/
def Invocation.ofWords : List String → Invocation
  | [] => .wrong
  | name :: words =>
    if name = "--version" || "-V".toList.isPrefixOf name.toList then .version
    else
      match Command.of? name words with
      | some c => .command c
      | none => .wrong

end Guildkeep.Tool
