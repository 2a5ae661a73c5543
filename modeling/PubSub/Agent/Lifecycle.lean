import PubSub.Agent.Basic
/-!
# The lifecycle of a connection

What becomes of one agent's connection when connects, disconnects and a drop overlap. A connect is not one step: it
begins, it waits until a handle that it replaces is closed, it waits for the transport, and, if it was overtaken, it
waits until the connection that it got is closed. Between any two of these parts everything else may happen, further
connects included. A disconnect releases the connection and closes the handle that was held; a drop releases it too and
leaves the handle to a task in the background.

A lifecycle takes one move at a time and knows nothing of the transport but its answers: every connect may fail, every
handle may be reported as dead at any time, and a close counts when it is called, whatever comes of it. What an agent
does to its connection in one go is a run of such moves.
-/

namespace PubSub

namespace Lifecycle

/-- Where a connect attempt stands. -/
inductive Stage where
  /-- It waits until the handle that it replaces is closed. -/
  | replacing (pending : Pending)
  /-- It waits for the transport's answer. -/
  | asking (pending : Pending)
  /-- It was overtaken, and waits until the connection that it got is closed. -/
  | abandoning (pending : Pending)
  | returned (result : Except Error Unit)

namespace Stage

/-- What an attempt in flight goes on with. -/
def pending? : Stage → Option Pending
  | replacing pending | asking pending | abandoning pending => some pending
  | returned _ => none

def inFlight (stage : Stage) : Bool :=
  stage.pending?.isSome

end Stage

end Lifecycle

/-- The refusal of an attempt that was answered, or overtaken. -/
def Pending.refusal (pending : Pending) (reason : String) : Error :=
  .connection (pending.options.uri ++ ": " ++ reason)

/-- The refusal of an attempt that was overtaken by a release. -/
def Pending.overtaken (pending : Pending) : Error :=
  pending.refusal "disconnected while connecting"

/-- The connection of one agent, with all that is under way on it and all that was done to its handles. -/
structure Lifecycle where
  /-- The options that every connect starts from. -/
  options : BrokerOptions
  connection : Connection
  /-- The connect attempts in the order of their calls. -/
  attempts : List Lifecycle.Stage
  /-- The handles that a drop has left to the background. -/
  orphans : List ConnectionId
  /-- The handles whose close is awaited by a disconnect or in the background. -/
  closing : List ConnectionId
  /-- The connections that the transport has opened, the oldest first. -/
  opened : List ConnectionId
  /-- The handles that a close was called on, the earliest call first. -/
  ended : List ConnectionId

namespace Lifecycle

/-- A part of an operation that nothing can come in between of. -/
inductive Move where
  /-- A connect is called while the transport reports as live what `live` holds of. -/
  | connect (overrides : BrokerOverrides) (live : ConnectionId → Bool)
  /-- The close that an attempt waits for before it asks the transport returns. -/
  | replaced (attempt : Nat)
  /-- The transport answers an attempt with a failure or with a new connection. -/
  | answered (attempt : Nat) (answer : Except String ConnectionId)
  /-- The close of what an overtaken attempt got returns. -/
  | abandoned (attempt : Nat)
  | disconnect
  | drop
  /-- The background begins to close a handle that a drop has left. -/
  | collect
  /-- The close of a handle by a disconnect or in the background returns. -/
  | closed (handle : ConnectionId)

namespace Move

def calls : Move → Bool
  | connect _ _ => true
  | _ => false

/-- Whether the move gives up the connection. -/
def releases : Move → Bool
  | disconnect | drop => true
  | _ => false

def answers (attempt : Nat) : Move → Bool
  | answered other _ => other == attempt
  | _ => false

/-- Whether the move carries on an attempt that was called before. -/
def carriesOn (attempt : Nat) : Move → Bool
  | replaced other | answered other _ | abandoned other => other == attempt
  | _ => false

end Move

def initial (options : BrokerOptions) : Lifecycle :=
  ⟨options, .initial, [], [], [], [], []⟩

def inFlight? (attempts : List Stage) (attempt : Nat) : Option Pending :=
  attempts[attempt]?.bind Stage.pending?

def setStage (lifecycle : Lifecycle) (attempt : Nat) (stage : Stage) : Lifecycle :=
  { lifecycle with attempts := lifecycle.attempts.set attempt stage }

/-- Calls a connect. One that is refused returns at once; one that replaces a handle closes it before anything else. -/
def call (lifecycle : Lifecycle) (overrides : BrokerOverrides) (live : ConnectionId → Bool) : Lifecycle :=
  match lifecycle.connection.begin? live with
  | .error error => { lifecycle with attempts := lifecycle.attempts ++ [.returned (throw error)] }
  | .ok begun =>
    let pending : Pending := ⟨begun.generation, lifecycle.options.merged overrides⟩
    match begun.stale with
    | none =>
      { lifecycle with connection := begun.connection, attempts := lifecycle.attempts ++ [.asking pending] }
    | some stale =>
      { lifecycle with
        connection := begun.connection
        attempts := lifecycle.attempts ++ [.replacing pending]
        ended := lifecycle.ended ++ [stale] }

/-- Takes the transport's answer to an attempt. A connection that comes too late is closed at once. -/
def conclude (lifecycle : Lifecycle) (attempt : Nat) (pending : Pending) : Except String ConnectionId → Lifecycle
  | .error reason =>
    { lifecycle.setStage attempt (.returned (throw (pending.refusal reason))) with
      connection := lifecycle.connection.reject pending.generation }
  | .ok handle =>
    match lifecycle.connection.accept? pending.generation handle with
    | some connection =>
      { lifecycle.setStage attempt (.returned (pure ())) with connection, opened := lifecycle.opened ++ [handle] }
    | none =>
      { lifecycle.setStage attempt (.abandoning pending) with
        opened := lifecycle.opened ++ [handle]
        ended := lifecycle.ended ++ [handle] }

/-- Whether a transport can give the answer: it gives no connection out twice. -/
def isNew (lifecycle : Lifecycle) : Except String ConnectionId → Bool
  | .error _ => true
  | .ok handle => !lifecycle.opened.contains handle

/-- Makes a move, if there is something to move. -/
def step? (lifecycle : Lifecycle) : Move → Option Lifecycle
  | .connect overrides live => some (lifecycle.call overrides live)
  | .replaced attempt =>
    match lifecycle.attempts[attempt]? with
    | some (.replacing pending) => some (lifecycle.setStage attempt (.asking pending))
    | _ => none
  | .answered attempt answer =>
    match lifecycle.attempts[attempt]? with
    | some (.asking pending) =>
      if lifecycle.isNew answer then some (lifecycle.conclude attempt pending answer) else none
    | _ => none
  | .abandoned attempt =>
    match lifecycle.attempts[attempt]? with
    | some (.abandoning pending) => some (lifecycle.setStage attempt (.returned (throw pending.overtaken)))
    | _ => none
  | .disconnect =>
    let (connection, handle) := lifecycle.connection.release
    some { lifecycle with
      connection
      closing := lifecycle.closing ++ handle.toList
      ended := lifecycle.ended ++ handle.toList }
  | .drop =>
    let (connection, handle) := lifecycle.connection.release
    some { lifecycle with connection, orphans := lifecycle.orphans ++ handle.toList }
  | .collect =>
    match lifecycle.orphans with
    | [] => none
    | handle :: rest =>
      some { lifecycle with
        orphans := rest
        closing := lifecycle.closing ++ [handle]
        ended := lifecycle.ended ++ [handle] }
  | .closed handle =>
    if lifecycle.closing.contains handle then
      some { lifecycle with closing := lifecycle.closing.erase handle }
    else none

def run? (lifecycle : Lifecycle) (moves : List Move) : Option Lifecycle :=
  moves.foldlM step? lifecycle

/-- Whether nothing is under way. -/
def isQuiet (lifecycle : Lifecycle) : Bool :=
  lifecycle.attempts.all (fun stage ↦ !stage.inFlight) && lifecycle.orphans.isEmpty && lifecycle.closing.isEmpty

/-! ## What a run has brought to an attempt -/

def movesAfterCall : List Move → Nat → List Move
  | [], _ => []
  | .connect _ _ :: rest, 0 => rest
  | .connect _ _ :: rest, attempt + 1 => movesAfterCall rest attempt
  | _ :: rest, attempt => movesAfterCall rest attempt

/-- Whether the connection was released between the call of an attempt and the transport's answer to it, or up to now
if there is no answer yet. -/
def isOvertaken (moves : List Move) (attempt : Nat) : Bool :=
  ((movesAfterCall moves attempt).takeWhile fun move ↦ !move.answers attempt).any Move.releases

end Lifecycle

end PubSub
