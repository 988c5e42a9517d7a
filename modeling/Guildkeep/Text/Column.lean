/-!
# Columns

Texts in columns are filled up with spaces to a width. The width counts characters, and a text that
is wider than its column stands as it is.
-/

namespace Guildkeep.Text

/-- As many spaces as a text lacks in a column. -/
def fill (width : Nat) (s : String) : String :=
  String.ofList (List.replicate (width - s.length) ' ')

/-- A text at the left of its column. -/
def left (width : Nat) (s : String) : String :=
  s ++ fill width s

/-- A text at the right of its column. -/
def right (width : Nat) (s : String) : String :=
  fill width s ++ s

end Guildkeep.Text
