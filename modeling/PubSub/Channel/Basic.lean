import PubSub.Broker.Basic
import PubSub.Channel.Callback
import PubSub.Channel.Definition
import PubSub.Topic.Pattern
/-!
# Senders and receivers

The two ends of a channel as their agent keeps them. An agent never removes a channel, so a channel is known by its
place in the order of creation. Looking a channel up by name finds the earliest of the name, and fails if that one
carries another kind of payload.
-/

namespace PubSub

/-- The publishing end of a channel. -/
structure Sender where
  definition : ChannelDefinition
  kind : PayloadKind
  options : PublishOptions
  deriving DecidableEq

/-- The receiving end of a channel. -/
structure Receiver where
  definition : ChannelDefinition
  kind : PayloadKind
  pattern : TopicPattern
  qos : QoS
  /-- Whether the broker acknowledged the subscription on the present connection. -/
  subscribed : Bool
  callbacks : List Callback

/-- The place of the channel that a name stands for among channels of given names and payload kinds, if there is one. -/
def findChannel (name : String) (kind : PayloadKind) (channels : List (String × PayloadKind)) :
    Except Error (Option Nat) :=
  match channels.findIdx? fun channel ↦ channel.1 == name with
  | none => pure none
  | some index =>
    if channels[index]?.any fun channel ↦ channel.2 = kind then pure (some index)
    else throw (.channelTypeMismatch name)

def Sender.inspect (sender : Sender) : String :=
  Text.record "Sender" [
    ("definition", sender.definition.inspect),
    ("publish_options", Text.record "PublishOptions" [
      ("qos", sender.options.qos.inspect), ("retain", Text.flag sender.options.retain)])]

namespace Receiver

def inspect (receiver : Receiver) : String :=
  Text.record "Receiver" [
    ("definition", receiver.definition.inspect), ("qos", receiver.qos.inspect),
    ("subscribed", Text.flag receiver.subscribed), ("callbacks", toString receiver.callbacks.length)]

/-- What a message delivers: nothing to decode if it is empty, else a payload if its bytes are one. -/
def read? (receiver : Receiver) (message : Message) : Option Delivery :=
  if message.payload.isEmpty then some ⟨message.topic, none⟩
  else (receiver.kind.decode? message.payload).map fun value ↦ ⟨message.topic, some ⟨receiver.kind, value⟩⟩

def register (receiver : Receiver) (callback : Callback) : Receiver :=
  { receiver with callbacks := receiver.callbacks ++ [callback] }

end Receiver

end PubSub
