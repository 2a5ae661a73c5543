import PubSub.Quality
import PubSub.Text.Inspection
/-!
# Channel definitions

A channel is one end of a named line of messages: a sender publishes on a topic, a receiver listens to a pattern. Name,
topic and direction are fixed when the channel is created. Channel options say where a channel departs from its agent.
-/

namespace PubSub

inductive Direction where
  | sender
  | receiver
  deriving DecidableEq

namespace Direction

def text : Direction → String
  | sender => "sender"
  | receiver => "receiver"

def inspect : Direction → String
  | sender => "Sender"
  | receiver => "Receiver"

end Direction

/-- What a channel is called and where it leads. -/
structure ChannelDefinition where
  name : String
  /-- The topic of a sender, or the pattern of a receiver. -/
  topic : String
  direction : Direction
  deriving DecidableEq

namespace ChannelDefinition

def text (definition : ChannelDefinition) : String :=
  definition.direction.text ++ " \"" ++ definition.name ++ "\" on " ++ definition.topic

def inspect (definition : ChannelDefinition) : String :=
  Text.record "ChannelDefinition" [
    ("name", Text.quoted definition.name), ("topic", Text.quoted definition.topic),
    ("direction", definition.direction.inspect)]

end ChannelDefinition

/-- Where a new channel departs from the identity and the channel defaults of its agent. -/
structure ChannelOptions where
  role : Option String
  instanceId : Option String
  /-- A topic or pattern to use as it is. -/
  overrideTopic : Option String
  qos : Option QoS
  retain : Option Bool
  /-- Whether a channel is created even if there is one of the name. -/
  ignoreExisting : Bool
  deriving DecidableEq

def ChannelOptions.none : ChannelOptions :=
  ⟨.none, .none, .none, .none, .none, false⟩

end PubSub
