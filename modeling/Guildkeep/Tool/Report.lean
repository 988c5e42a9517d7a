import Guildkeep.Save.Archive

/-!
# Reports of Failure

A failure is reported as what could not be done and, below it, the chain of causes. A single cause
stands indented; several are numbered.
-/

namespace Guildkeep.Tool

/-- A **report**: what could not be done, and why. -/
structure Report where
  message : String
  causes : List String := []

namespace Report

/-- A cause of several lines, each after the first behind an indent. -/
def indented (indent cause : String) : String :=
  String.ofList (cause.toList.flatMap fun c => if c = '\n' then '\n' :: indent.toList else [c])

/-- The lines for the causes. -/
def causeLines : List String → List String
  | [cause] => ["    " ++ indented "    " cause]
  | causes => causes.zipIdx.map fun (cause, n) =>
    let number := Text.nat n
    String.ofList (List.replicate (5 - number.length) ' ') ++ number ++ ": " ++
      indented "       " cause

/-- The text of a report. -/
def text (r : Report) : String :=
  "Error: " ++ r.message ++ "\n" ++
    if r.causes.isEmpty then ""
    else "\nCaused by:\n" ++ String.join ((causeLines r.causes).map (· ++ "\n"))

end Report

/-- The chain of causes of an error of a store. -/
def storeCauses : Store.Error → List String
  | .io why => [(Store.Error.io why).message, why.message]
  | e => [e.message]

/-- The chain of causes of an error of the archive. -/
def saveCauses : Save.Error → List String
  | .store why => (Save.Error.store why).message :: storeCauses why
  | e => [e.message]

end Guildkeep.Tool
