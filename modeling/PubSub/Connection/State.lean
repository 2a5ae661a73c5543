/-!
# Connection states

Where the single broker connection of an agent stands. A connect goes from any idle state to `connecting` and from
there to `connected` or `errored`; a disconnect leads back to `initialised` from everywhere.
-/

namespace PubSub

/-- Where the connection of an agent stands, as last recorded. -/
inductive ConnectionState where
  /-- No connection, and none attempted since the last disconnect. -/
  | initialised
  | connecting
  /-- The transport accepted the connection. -/
  | connected
  /-- The last connect attempt failed. -/
  | errored
  deriving DecidableEq, Inhabited

namespace ConnectionState

def text : ConnectionState → String
  | initialised => "initialised"
  | connecting => "connecting"
  | connected => "connected"
  | errored => "errored"

def ofText? (name : String) : Option ConnectionState :=
  [initialised, connecting, connected, errored].find? fun state ↦ state.text == name

def inspect : ConnectionState → String
  | initialised => "Initialised"
  | connecting => "Connecting"
  | connected => "Connected"
  | errored => "Errored"

theorem ofText?_text (state : ConnectionState) : ofText? state.text = some state := by
  cases state <;> decide

end ConnectionState

end PubSub
