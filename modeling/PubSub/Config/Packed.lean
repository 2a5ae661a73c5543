import PubSub.Config.Basic
import PubSub.MessagePack.Packable
/-!
# Configurations as payloads

Configurations, their sections and broker overrides travel as records with the field names of the configuration file.
What a record leaves out keeps its default, and an override that is left out or nil replaces nothing.
-/

namespace PubSub

open MessagePack

/-- The levels 0 to 2 stand for guarantees, whatever marker they are written with. -/
instance : Packable QoS where
  pack quality := .unsigned quality.level.toUInt64
  unpack? item := item.integerIn? 0 2 >>= fun n ↦ QoS.ofLevel? n.toNat

def BrokerOptions.fieldNames : List String :=
  ["protocol", "host", "port", "path", "username", "password"]

instance : Packable BrokerOptions where
  pack options := record [
    ("protocol", pack options.protocol), ("host", pack options.host), ("port", pack options.port),
    ("path", pack options.path), ("username", pack options.username), ("password", pack options.password)]
  unpack? item := do
    match ← item.fields? BrokerOptions.fieldNames with
    | [protocol, host, port, path, username, password] =>
      pure {
        protocol := ← defaulted? BrokerOptions.tcp.protocol protocol
        host := ← defaulted? BrokerOptions.tcp.host host
        port := ← defaulted? BrokerOptions.tcp.port port
        path := ← defaulted? BrokerOptions.tcp.path path
        username := ← defaulted? BrokerOptions.tcp.username username
        password := ← defaulted? BrokerOptions.tcp.password password }
    | _ => none

instance : Packable BrokerOverrides where
  pack overrides := record [
    ("protocol", pack overrides.protocol), ("host", pack overrides.host), ("port", pack overrides.port),
    ("path", pack overrides.path), ("username", pack overrides.username), ("password", pack overrides.password)]
  unpack? item := do
    match ← item.fields? BrokerOptions.fieldNames with
    | [protocol, host, port, path, username, password] =>
      pure {
        protocol := ← defaulted? none protocol
        host := ← defaulted? none host
        port := ← defaulted? none port
        path := ← defaulted? none path
        username := ← defaulted? none username
        password := ← defaulted? none password }
    | _ => none

def ChannelDefaults.fieldNames : List String :=
  ["qos", "retain"]

instance : Packable ChannelDefaults where
  pack defaults := record [("qos", pack defaults.qos), ("retain", pack defaults.retain)]
  unpack? item := do
    match ← item.fields? ChannelDefaults.fieldNames with
    | [qos, retain] =>
      pure {
        qos := ← defaulted? ChannelDefaults.standard.qos qos
        retain := ← defaulted? ChannelDefaults.standard.retain retain }
    | _ => none

def Behavior.fieldNames : List String :=
  ["auto_connect"]

instance : Packable Behavior where
  pack behavior := record [("auto_connect", pack behavior.autoConnect)]
  unpack? item := do
    match ← item.fields? Behavior.fieldNames with
    | [autoConnect] => pure { autoConnect := ← defaulted? Behavior.standard.autoConnect autoConnect }
    | _ => none

def Config.fieldNames : List String :=
  ["broker", "channels", "behavior"]

instance : Packable Config where
  pack config := record [
    ("broker", pack config.broker), ("channels", pack config.channels), ("behavior", pack config.behavior)]
  unpack? item := do
    match ← item.fields? Config.fieldNames with
    | [broker, channels, behavior] =>
      pure {
        broker := ← defaulted? Config.standard.broker broker
        channels := ← defaulted? Config.standard.channels channels
        behavior := ← defaulted? Config.standard.behavior behavior }
    | _ => none

end PubSub
