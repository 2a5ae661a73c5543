import PubSub.Text.Hidden
/-!
# Diagnostic texts

How values look in diagnostic output: a record is its name with the fields in braces, a text stands in quotes with
the characters escaped that a reader could not see or would misread, and an optional value says whether it is there.
The functions build texts from texts; each type of the library says for itself which fields it shows.
-/

namespace PubSub.Text

/-- A character as it stands inside quotes. -/
def escape (c : Char) : String :=
  if c = '\x22' then "\\\""
  else if c = '\\' then "\\\\"
  else if c = '\n' then "\\n"
  else if c = '\r' then "\\r"
  else if c = '\t' then "\\t"
  else if c = '\x00' then "\\0"
  else if isHidden c then
    "\\u\x7b" ++ String.ofList (Nat.toDigits 16 c.toNat) ++ "\x7d"
  else c.toString

def quoted (text : String) : String :=
  "\"" ++ String.join (text.toList.map escape) ++ "\""

def optional (value : Option String) : String :=
  match value with
  | none => "None"
  | some shown => "Some(" ++ shown ++ ")"

def flag (value : Bool) : String :=
  if value then "true" else "false"

/-- Named fields with a comma between neighbours. -/
def fields (entries : List (String × String)) : String :=
  ", ".intercalate (entries.map fun entry ↦ entry.1 ++ ": " ++ entry.2)

/-- A record that shows all its fields, of which there is at least one. -/
def record (name : String) (entries : List (String × String)) : String :=
  name ++ " \x7b " ++ fields entries ++ " \x7d"

/-- A record that keeps some of its fields to itself. -/
def openRecord (name : String) (entries : List (String × String)) : String :=
  name ++ " \x7b " ++ fields entries ++ ", .. \x7d"

end PubSub.Text
