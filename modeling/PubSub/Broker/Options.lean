import PubSub.Text.Inspection
/-!
# Broker options

Where the broker is and which credentials a client presents there. Options start from one of two sets of defaults and
are changed field by field: an override that is given replaces the field, an override that is not given keeps it. The
password never appears in a diagnostic text.
-/

namespace PubSub

/-- Where a broker is, and whom a client claims to be. -/
structure BrokerOptions where
  protocol : String
  host : String
  port : UInt16
  path : String
  username : String
  password : String
  deriving DecidableEq

/-- A replacement for each field of the broker options, or none. An empty text is a replacement. -/
structure BrokerOverrides where
  protocol : Option String
  host : Option String
  port : Option UInt16
  path : Option String
  username : Option String
  password : Option String
  deriving DecidableEq

def BrokerOverrides.none : BrokerOverrides :=
  ⟨.none, .none, .none, .none, .none, .none⟩

namespace BrokerOptions

def tcp : BrokerOptions :=
  ⟨"mqtt", "localhost", 1883, "", "tether", "sp_ceB0ss!"⟩

def websocket : BrokerOptions :=
  ⟨"ws", "localhost", 15675, "/ws", "tether", "sp_ceB0ss!"⟩

def merged (options : BrokerOptions) (overrides : BrokerOverrides) : BrokerOptions where
  protocol := overrides.protocol.getD options.protocol
  host := overrides.host.getD options.host
  port := overrides.port.getD options.port
  path := overrides.path.getD options.path
  username := overrides.username.getD options.username
  password := overrides.password.getD options.password

/-- The address of the broker, `protocol://host:port` followed by the path. -/
def uri (options : BrokerOptions) : String :=
  options.protocol ++ "://" ++ options.host ++ ":" ++ toString options.port.toNat ++ options.path

/-- The options in diagnostic texts, the password withheld. -/
def inspect (options : BrokerOptions) : String :=
  Text.record "BrokerOptions" [
    ("protocol", Text.quoted options.protocol),
    ("host", Text.quoted options.host),
    ("port", toString options.port.toNat),
    ("path", Text.quoted options.path),
    ("username", Text.quoted options.username),
    ("password", Text.quoted "<redacted>")]

theorem merged_none (options : BrokerOptions) : options.merged .none = options := rfl

end BrokerOptions

end PubSub
