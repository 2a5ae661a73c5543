import PubSub.Broker.Options
import PubSub.Quality
/-!
# Configuration

The settings of an agent in three sections: the broker options, the defaults of its channels and its behaviour. Each
field has a default, so a configuration can name any part of them.
-/

namespace PubSub

/-- What a channel uses where its own options leave it open. -/
structure ChannelDefaults where
  qos : QoS
  retain : Bool
  deriving DecidableEq

structure Behavior where
  /-- Whether building an agent connects it, and its channels need a connection. -/
  autoConnect : Bool
  deriving DecidableEq

structure Config where
  broker : BrokerOptions
  channels : ChannelDefaults
  behavior : Behavior
  deriving DecidableEq

/-- Acknowledged delivery, nothing retained. -/
def ChannelDefaults.standard : ChannelDefaults :=
  ⟨.atLeastOnce, false⟩

/-- Agents connect when they are built. -/
def Behavior.standard : Behavior :=
  ⟨true⟩

def Config.standard : Config :=
  ⟨.tcp, .standard, .standard⟩

def Config.inspect (config : Config) : String :=
  Text.record "RelayConfig" [
    ("broker", config.broker.inspect),
    ("channels", Text.record "ChannelDefaults" [
      ("qos", config.channels.qos.inspect), ("retain", Text.flag config.channels.retain)]),
    ("behavior", Text.record "BehaviorConfig" [("auto_connect", Text.flag config.behavior.autoConnect)])]

end PubSub
