import PubSub.Broker.Basic
/-!
# Transports

The way from an agent to the broker. The plain transport is the broker itself. A scripted transport stands in front of
the broker, keeps a record of the calls that pass through it, and follows a script of faults: a call that the script
lets fail is recorded, and fails before the broker hears of it. Closing fails only after the broker has closed the
connection.
-/

namespace PubSub

/-- The way from an agent to the broker. -/
inductive Transport where
  | plain
  | scripted (label : String)
  deriving DecidableEq

inductive TransportError where
  | broker (error : BrokerError)
  /-- A fault of a script: the causes, the outermost first. -/
  | scripted (causes : List String)
  deriving DecidableEq

/-- The wording of a failure, its causes in one line. -/
def TransportError.message : TransportError → String
  | broker error => error.message
  | scripted causes => ": ".intercalate causes

inductive Call where
  | connect (options : BrokerOptions) (clientId : ClientId)
  | subscribe (pattern : String) (qos : QoS)
  | publish (message : Message) (options : PublishOptions)
  | close
  deriving DecidableEq

/-- The faults of a scripted transport, and how often it was asked to connect. A fault is a list of causes, and an empty
list is no fault. -/
structure Script where
  connect : List String
  subscribe : List String
  /-- The pattern that the subscribe fault is limited to. -/
  subscribeOnly : Option String
  publish : List String
  close : List String
  dead : Bool
  /-- Whether connects wait until they are released. -/
  gate : Bool
  attempts : Nat
  deriving DecidableEq

def Script.clear : Script :=
  ⟨[], [], none, [], [], false, false, 0⟩

/-- A change of a script, where what is not given stays. -/
structure ScriptChange where
  connect : Option (List String)
  subscribe : Option (List String)
  subscribeOnly : Option (Option String)
  publish : Option (List String)
  close : Option (List String)
  dead : Option Bool
  gate : Option Bool
  deriving DecidableEq

def Script.changed (script : Script) (change : ScriptChange) : Script where
  connect := change.connect.getD script.connect
  subscribe := change.subscribe.getD script.subscribe
  subscribeOnly := change.subscribeOnly.getD script.subscribeOnly
  publish := change.publish.getD script.publish
  close := change.close.getD script.close
  dead := change.dead.getD script.dead
  gate := change.gate.getD script.gate
  attempts := script.attempts

/-- The failure that a list of causes stands for. -/
def Script.fault (causes : List String) : Except TransportError Unit :=
  if causes.isEmpty then pure () else throw (.scripted causes)

end PubSub
