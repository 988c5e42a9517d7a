import Guildkeep.Save.Options
import Guildkeep.Text.Blank
import Guildkeep.Text.Lossy

/-!
# Settings from the Environment

What the environment says about saving: compression, how many saves to keep, where they are and how
often to save unasked. A variable that is unset, not a text or not well-formed leaves the default in
place, and each setting depends on its own variable only.

The places of the home and of the data need not be texts; one that is none is shown as far as it can
be.

## Main results

* `parseNatural?`: an optional plus sign and digits, below `2 ^ 64`.
-/

namespace Guildkeep

/-- The **value** of a variable. -/
inductive Environment.Value where
  | text (s : String)
  /-- Bytes that are not a text. -/
  | raw (bytes : List UInt8)
  deriving DecidableEq

/-- The value as a text, if it is one. -/
def Environment.Value.text? : Environment.Value → Option String
  | text s => some s
  | raw _ => none

/-- The value as it is shown. -/
def Environment.Value.shown : Environment.Value → String
  | text s => s
  | raw bytes => Text.lossy bytes

/-- The **environment**: the variables that are set, each with its value. -/
abbrev Environment := List (String × Environment.Value)

namespace Environment

/-- The value of a variable, if it is set. -/
def value? (env : Environment) (name : String) : Option Value :=
  env.lookup name

/-- The text of a variable, if it is set and its value is a text. -/
def get? (env : Environment) (name : String) : Option String :=
  (env.value? name).bind Value.text?

/-- The place that a variable names, if it is set. -/
def place? (env : Environment) (name : String) : Option String :=
  (env.value? name).map Value.shown

/-- Whether a variable is set. -/
def has (env : Environment) (name : String) : Bool :=
  env.any (·.1 == name)

end Environment

/-! ### Paths -/

/-- A path with a part below it; a path that ends in a slash needs no second one. -/
def joinPath (base part : String) : String :=
  if base = "" ∨ base.toList.getLast? = some '/' then base ++ part else base ++ "/" ++ part

/-- Whether a path starts at the root. -/
def isAbsolute (path : String) : Bool :=
  path.toList.head? = some '/'

/-! ### Settings -/

/-- The **settings** of the program. -/
structure Settings where
  manager : Save.Options := {}
  /-- Where the saves are, if the environment says so. -/
  saveDataDir : Option String := none
  /-- Seconds between two saves that nobody asked for. -/
  autosaveSeconds : UInt64 := 60
  deriving DecidableEq

namespace Settings

/-- A natural number below `2 ^ 64`: digits, with a plus sign in front if one likes. -/
def parseNatural? (s : String) : Option UInt64 :=
  let digits := match s.toList with
    | '+' :: rest => rest
    | cs => cs
  if digits ≠ [] ∧ digits.all Text.isDigit ∧ Text.ofDigits digits < 18446744073709551616 then
    some (UInt64.ofNat (Text.ofDigits digits))
  else none

/-- The texts that switch a flag on. -/
def onWords : List String := ["", "1", "true", "yes", "on"]

/-- Whether a text switches a flag on: blanks around it and upper case do not matter. -/
def parseFlag (s : String) : Bool :=
  onWords.contains (String.ofList (Text.lower (Text.trim s.toList)))

/-- A natural number of at least 1 from a variable. -/
def atLeastOne? (env : Environment) (name : String) : Option UInt64 :=
  (env.get? name).bind fun s => (parseNatural? s).map fun n => if n = 0 then 1 else n

/-- The settings that the environment asks for. -/
def ofEnvironment (env : Environment) : Settings where
  manager :=
    { enableCompression := ((env.get? "SAVE_COMPRESSION").map parseFlag).getD false
      maxSaves := (atLeastOne? env "SAVE_MAX_SAVES").getD 10 }
  saveDataDir := env.get? "SAVE_DATA_DIR"
  autosaveSeconds := (atLeastOne? env "AUTOSAVE_INTERVAL_SECS").getD 60

/-- The directory for the data of this program, if the environment has a place for it. -/
def dataDir? (env : Environment) : Option String :=
  match (env.place? "XDG_DATA_HOME").filter isAbsolute with
  | some data => some (joinPath data "guild-manager")
  | none =>
    ((env.place? "HOME").filter (· ≠ "")).map fun home =>
      joinPath (joinPath home ".local/share") "guild-manager"

/-- The **directory of the saves**. -/
def saveDir (s : Settings) (env : Environment) : String :=
  s.saveDataDir.getD (joinPath ((dataDir? env).getD "./save_data") "saves")

end Settings

end Guildkeep
