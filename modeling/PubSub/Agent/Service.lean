import PubSub.Agent.Lifecycle
/-!
# The dispatchers beside a connection

What an agent starts and stops while its connect attempts overlap. An attempt that comes back with a connection starts
a dispatcher for it, which takes the place of the one that there is, and then subscribes the receivers one after the
other. A disconnect and a drop take the dispatcher from its place. Whatever leaves the place is stopped, but lives on
until it looks again, so old dispatchers and new ones exist at the same time. All that were ever started are kept here.

A dispatcher looks whether it was stopped before it looks into its inbox. Receivers are subscribed on the connection
that is held at that moment, which may be that of a later attempt.
-/

namespace PubSub

namespace Lifecycle

/-- Whether an attempt at the stage has come back with a connection. -/
def Stage.hasConnected : Stage → Bool
  | returned (.ok _) => true
  | _ => false

def hasConnected (lifecycle : Lifecycle) (attempt : Nat) : Bool :=
  lifecycle.attempts[attempt]?.any Stage.hasConnected

/-- The connection that the transport gives an attempt. -/
def Move.given? : Move → Option (Nat × ConnectionId)
  | answered attempt (.ok handle) => some (attempt, handle)
  | _ => none

/-- The attempts that were given a connection in the moves and have come back with it, and those connections. -/
def connects (lifecycle : Lifecycle) (moves : List Move) : List (Nat × ConnectionId) :=
  (moves.filterMap Move.given?).filter fun (attempt, _) ↦ lifecycle.hasConnected attempt

end Lifecycle

/-- A dispatcher that was started. -/
structure Runner where
  attempt : Nat
  source : ConnectionId
  stopped : Bool
  /-- Whether it has seen that it was stopped, or the end of its inbox. -/
  ended : Bool

def Runner.origin (runner : Runner) : Nat × ConnectionId :=
  (runner.attempt, runner.source)

/-- The connection of one agent with the dispatchers that it has started. -/
structure Service where
  lifecycle : Lifecycle
  runners : List Runner
  /-- The number of the dispatcher that the agent keeps. -/
  slot : Option Nat
  /-- The attempts that are subscribing receivers. -/
  subscribing : List Nat
  /-- The subscriptions that attempts have asked for, and the connections they asked for them on. -/
  requests : List (Nat × ConnectionId)
  /-- The messages that were handed on, and the numbers of the dispatchers that did it. -/
  handled : List (Nat × Message)

namespace Service

/-- A part of an operation that nothing can come in between of. -/
inductive Move where
  | connection (move : Lifecycle.Move)
  /-- An attempt goes on to its next receiver while the transport reports as live what `live` holds of. -/
  | subscribe (attempt : Nat) (live : ConnectionId → Bool)
  /-- An attempt has gone through all receivers. -/
  | subscribed (attempt : Nat)
  /-- A dispatcher looks into its inbox, and finds a message or the end. -/
  | look (number : Nat) (found : Option Message)

def Move.connection? : Move → Option Lifecycle.Move
  | connection move => some move
  | _ => none

def initial (options : BrokerOptions) : Service :=
  ⟨.initial options, [], none, [], [], []⟩

/-- Takes the dispatcher from its place and stops it. -/
def halt (service : Service) : Service :=
  match service.slot with
  | none => service
  | some number =>
    { service with
      runners := service.runners.modify number fun runner ↦ { runner with stopped := true }
      slot := none }

/-- Starts a dispatcher, stops the one in whose place it comes, and goes on to the receivers. -/
def start (service : Service) (attempt : Nat) (source : ConnectionId) : Service :=
  { service.halt with
    runners := service.halt.runners ++ [⟨attempt, source, false, false⟩]
    slot := some service.runners.length
    subscribing := service.subscribing ++ [attempt] }

/-- What goes with a move of the connection. -/
def react (service : Service) : Lifecycle.Move → Service
  | .answered attempt (.ok source) =>
    if service.lifecycle.hasConnected attempt then service.start attempt source else service
  | .disconnect | .drop => service.halt
  | _ => service

/-- Lets a dispatcher look, unless it has ended. One that was stopped hands nothing on. -/
def look? (service : Service) (number : Nat) (found : Option Message) : Option Service :=
  let done := { service with runners := service.runners.modify number fun runner ↦ { runner with ended := true } }
  match service.runners[number]? with
  | none => none
  | some runner =>
    if runner.ended then none
    else if runner.stopped then some done
    else match found with
      | none => some done
      | some message => some { service with handled := service.handled ++ [(number, message)] }

def step? (service : Service) : Move → Option Service
  | .connection move => (service.lifecycle.step? move).map fun lifecycle ↦ { service with lifecycle }.react move
  | .subscribe attempt live =>
    if service.subscribing.contains attempt then
      let asked := (service.lifecycle.connection.liveHandle? live).toList
      some { service with requests := service.requests ++ asked.map fun handle ↦ (attempt, handle) }
    else none
  | .subscribed attempt =>
    if service.subscribing.contains attempt then
      some { service with subscribing := service.subscribing.erase attempt }
    else none
  | .look number found => service.look? number found

def run? (service : Service) (moves : List Move) : Option Service :=
  moves.foldlM step? service

def connectionMoves (moves : List Move) : List Lifecycle.Move :=
  moves.filterMap Move.connection?

/-- The dispatchers that have not been stopped. -/
def running (service : Service) : List Runner :=
  service.runners.filter fun runner ↦ !runner.stopped

end Service

end PubSub
