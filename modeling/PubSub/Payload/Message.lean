import PubSub.MessagePack.Packable
/-!
# Structured messages

Two shapes of message with fields. A reading is a record whose fields must all be given. A command is one of three
cases: the cases without fields stand as their name, and a move stands as a map from its name to the record of its
coordinates. A case may be named by its number too, and a case without fields may stand in a map to nil.
-/

namespace PubSub

open MessagePack

/-- What a sensor measured. -/
structure Reading where
  sensor : String
  value : Binary64
  deriving DecidableEq

instance : Packable Reading where
  pack reading := record [("sensor", pack reading.sensor), ("value", pack reading.value)]
  unpack? item := do
    match ← item.fields? ["sensor", "value"] with
    | [sensor, value] => pure { sensor := ← required? sensor, value := ← required? value }
    | _ => none

/-- What a machine is told to do. -/
inductive Command where
  | start
  | stop
  | move (x y : Int32)
  deriving DecidableEq

namespace Command

def caseNames : List String :=
  ["Start", "Stop", "Move"]

/-- The coordinates of a move. -/
def move? (item : Item) : Option Command := do
  match ← item.fields? ["x", "y"] with
  | [x, y] => pure (.move (← required? x) (← required? y))
  | _ => none

end Command

instance : Packable Command where
  pack
    | .start => .ofString "Start"
    | .stop => .ofString "Stop"
    | .move x y => record [("Move", record [("x", pack x), ("y", pack y)])]
  unpack?
    | .map [(key, content)] => do
      match ← FieldKey.of? Command.caseNames key, content with
      | .field 0, .nil => pure .start
      | .field 1, .nil => pure .stop
      | .field 2, content => Command.move? content
      | _, _ => none
    | item => do
      match ← FieldKey.of? Command.caseNames item with
      | .field 0 => pure .start
      | .field 1 => pure .stop
      | _ => none

end PubSub
