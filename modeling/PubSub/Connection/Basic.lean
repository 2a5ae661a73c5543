import PubSub.Broker.Basic
import PubSub.Error
/-!
# Connections

The connection of one agent: its state, the handle of the broker connection it holds, and a generation that every
connect attempt and every release increases. An attempt is begun and answered at different times. It takes effect only
if it is still the current one when the answer comes, so a release that happens in between wins over it, and so does
any attempt begun after that release.

The functions here are told how to find out whether the transport reports a handle as live, and leave it to the caller
to close handles that they give up.
-/

namespace PubSub

/-- What an agent knows of its connection. -/
structure Connection where
  state : ConnectionState
  handle : Option ConnectionId
  generation : Nat
  deriving DecidableEq

structure Begun where
  connection : Connection
  /-- The generation that the attempt takes effect in. -/
  generation : Nat
  /-- The handle that the attempt replaces. -/
  stale : Option ConnectionId
  deriving DecidableEq

namespace Connection

def initial : Connection :=
  ⟨.initialised, none, 0⟩

variable (live : ConnectionId → Bool)

/-- Whether state, handle and transport agree that there is a connection. -/
def isConnected (connection : Connection) : Bool :=
  connection.state = .connected && connection.handle.any live

def liveHandle? (connection : Connection) : Option ConnectionId :=
  if connection.isConnected live then connection.handle else none

/-- Begins a connect attempt, unless one is under way or a live connection exists. A handle that is held is given up. -/
def begin? (connection : Connection) : Except Error Begun :=
  if connection.state = .connecting ∨ connection.isConnected live then
    throw (.invalidState connection.state "connect")
  else
    let generation := connection.generation + 1
    pure ⟨⟨.connecting, none, generation⟩, generation, connection.handle⟩

/-- Whether an attempt still waits for its answer and was not overtaken by a release. -/
def isCurrent (connection : Connection) (generation : Nat) : Bool :=
  connection.state = .connecting && connection.generation = generation

/-- Takes the handle that the transport answered an attempt with, if the attempt is still the current one. -/
def accept? (connection : Connection) (generation : Nat) (handle : ConnectionId) : Option Connection :=
  if connection.isCurrent generation then some { connection with state := .connected, handle := some handle }
  else none

/-- Notes that the transport refused an attempt. An attempt that was overtaken leaves no mark. -/
def reject (connection : Connection) (generation : Nat) : Connection :=
  if connection.isCurrent generation then { connection with state := .errored, handle := none } else connection

/-- Gives up the connection and every attempt under way. The handle that was held is left to the caller. -/
def release (connection : Connection) : Connection × Option ConnectionId :=
  (⟨.initialised, none, connection.generation + 1⟩, connection.handle)

end Connection

end PubSub
