import PubSub.Channel.Callback
import PubSub.Error
import PubSub.Transport.Script
/-!
# The medium

Everything that agents share: the broker, the scripts of the transports in front of it, and the list of what could be
observed so far. Each operation of a transport is one function on the medium. It records the call if the transport is a
scripted one, lets the script's fault strike, and else passes the call on to the broker.
-/

namespace PubSub

/-- Something that can be seen from outside. -/
inductive Observation where
  /-- A call on the scripted transport of that label. -/
  | call (transport : String) (call : Call)
  /-- A report of a callback on a receiver of the agent of that label. -/
  | event (agent : String) (event : Event)
  /-- The end of a connect that ran in the background. -/
  | completed (ticket : String) (result : Except Error Unit)
  /-- A note in the log that something is unusual. -/
  | warning
  /-- A note in the log that something has failed. -/
  | failure

/-- What agents share. -/
structure Medium where
  broker : Broker
  scripts : List (String × Script)
  observations : List Observation

namespace Medium

def fresh : Medium :=
  ⟨.fresh, [], []⟩

def observe (medium : Medium) (observation : Observation) : Medium :=
  { medium with observations := medium.observations ++ [observation] }

def warn (medium : Medium) : Medium :=
  medium.observe .warning

def fail (medium : Medium) : Medium :=
  medium.observe .failure

def script (medium : Medium) (label : String) : Script :=
  ((medium.scripts.find? fun entry ↦ entry.1 == label).map Prod.snd).getD .clear

def setScript (medium : Medium) (label : String) (script : Script) : Medium :=
  let others := medium.scripts.filter fun entry ↦ entry.1 != label
  { medium with scripts := others ++ [(label, script)] }

def scriptOf (medium : Medium) : Transport → Script
  | .plain => .clear
  | .scripted label => medium.script label

/-- The medium with a call recorded, if the transport keeps a record. -/
def record (medium : Medium) (transport : Transport) (call : Call) : Medium :=
  match transport with
  | .plain => medium
  | .scripted label => medium.observe (.call label call)

def isLive (medium : Medium) (transport : Transport) (connection : ConnectionId) : Bool :=
  medium.broker.isLive connection && !(medium.scriptOf transport).dead

/-- The transport is asked to connect. The connect is recorded and counted, and not answered yet. -/
def requestConnect (medium : Medium) (transport : Transport) (options : BrokerOptions) (clientId : ClientId) :
    Medium :=
  match transport with
  | .plain => medium
  | .scripted label =>
    let medium := medium.observe (.call label (.connect options clientId))
    let script := medium.script label
    medium.setScript label { script with attempts := script.attempts + 1 }

def answerConnect (medium : Medium) (transport : Transport) (options : BrokerOptions) (clientId : ClientId) :
    Except TransportError (Medium × ConnectionId) := do
  Script.fault (medium.scriptOf transport).connect
  match medium.broker.connect options clientId with
  | .ok (broker, connection) => pure ({ medium with broker }, connection)
  | .error error => throw (.broker error)

/-- The fault that strikes a subscription to a pattern. -/
def subscribeFault (medium : Medium) (transport : Transport) (pattern : String) : Except TransportError Unit :=
  let script := medium.scriptOf transport
  if script.subscribeOnly.all (· == pattern) then Script.fault script.subscribe else pure ()

/-- The medium after a request to the broker, or as it is if the request was refused. -/
def settleRequest (medium : Medium) (request : Except TransportError Broker) :
    Medium × Except TransportError Unit :=
  match request with
  | .ok broker => ({ medium with broker }, pure ())
  | .error error => (medium, throw error)

def subscribe (medium : Medium) (transport : Transport) (connection : ConnectionId) (pattern : String) (qos : QoS) :
    Medium × Except TransportError Unit :=
  let medium := medium.record transport (.subscribe pattern qos)
  medium.settleRequest do
    medium.subscribeFault transport pattern
    (medium.broker.subscribe connection pattern qos).mapError .broker

def publish (medium : Medium) (transport : Transport) (connection : ConnectionId) (message : Message)
    (options : PublishOptions) : Medium × Except TransportError Unit :=
  let medium := medium.record transport (.publish message options)
  medium.settleRequest do
    Script.fault (medium.scriptOf transport).publish
    (medium.broker.publish connection message options.retain).mapError .broker

/-- Closes a connection. The broker closes it in any case. -/
def close (medium : Medium) (transport : Transport) (connection : ConnectionId) :
    Medium × Except TransportError Unit :=
  let medium := medium.record transport .close
  ({ medium with broker := medium.broker.close connection }, Script.fault (medium.scriptOf transport).close)

/-- The medium after an operation on the broker from outside any transport. -/
def onBroker (medium : Medium) (operation : Broker → Broker) : Medium :=
  { medium with broker := operation medium.broker }

def inspectTransport (medium : Medium) : Transport → String
  | .plain => medium.broker.inspect
  | .scripted _ => "Scripted"

end Medium

end PubSub
