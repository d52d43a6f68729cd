import Mooring.Net.IpAddr
import Mooring.Text.Integer
import Mooring.Text.Pieces
namespace Mooring.Ports

open Mooring.Net Mooring.Text

/-- The transport protocol of a port. -/
inductive Protocol where
  | tcp
  | udp
  deriving DecidableEq, Inhabited

def Protocol.toText : Protocol → String
  | .tcp => "tcp"
  | .udp => "udp"

/-- A container port with its protocol. -/
structure ContainerPort where
  /-- The port number, below `2 ^ 16`. -/
  port : Nat
  protocol : Protocol
  deriving DecidableEq, Inhabited

namespace ContainerPort

def toText (p : ContainerPort) : String := toString p.port ++ "/" ++ p.protocol.toText

/-- Reads a key `port/protocol`, the protocol `tcp` or `udp`, or a bare port as TCP. -/
def parse? (s : String) : Option ContainerPort :=
  let (port, protocol) := match splitOnceChar '/' s.toList with
    | some (port, ['t', 'c', 'p']) => (some port, Protocol.tcp)
    | some (port, ['u', 'd', 'p']) => (some port, Protocol.udp)
    | some _ => (none, Protocol.tcp)
    | none => (some s.toList, Protocol.tcp)
  match port with
  | some port => (parseU16? (String.ofList port)).map fun n => ⟨n, protocol⟩
  | none => none

end ContainerPort

/-- How the host port of a mapping is chosen. -/
inductive HostBinding where
  | fixed (port : Nat)
  /-- Picked by the engine and published under this variable. -/
  | variable (name : String)
  /-- Picked by the engine, not published. -/
  | unassigned
  deriving DecidableEq

/-- One mapping, as read. -/
structure PortSpec where
  container : ContainerPort
  host : HostBinding
  /-- The address to bind to, when known. -/
  bindInterface : Option IpAddr
  /-- The variable that receives the address the engine binds to. -/
  hostIpVariable : Option String
  deriving DecidableEq

/-- Why a mapping cannot be read or its variables cannot be bound. -/
inductive PortSpecError where
  | missingColon (spec : String)
  | invalidContainerPort (spec value : String)
  | invalidHostPort (spec value : String)
  | unresolvableHost (spec host : String)
  /-- A port variable keeps the first port it is bound to. -/
  | rebind (name : String) (bound attempted : Nat)
  /-- A host variable keeps the first address it is bound to. -/
  | hostRebind (name bound attempted : String)
  | invalidBinding (containerPort value : String)
  deriving DecidableEq

namespace PortSpecError

def message : PortSpecError → String
  | .missingColon spec =>
    "Invalid port mapping '" ++ spec ++
      "': required format is '[<hostIP>:]<hostPort>:<containerPort>[/tcp|udp]'"
  | .invalidContainerPort spec value =>
    "Invalid port mapping '" ++ spec ++ "': container port '" ++ value ++ "' is not a port number"
  | .invalidHostPort spec value =>
    "Invalid port mapping '" ++ spec ++ "': host port '" ++ value ++ "' is not a port number"
  | .unresolvableHost spec host =>
    "Invalid port mapping '" ++ spec ++ "': host '" ++ host ++ "' to bind to cannot be resolved"
  | .rebind name bound attempted =>
    "Port variable '" ++ name ++ "' is already bound to " ++ toString bound ++
      ", refusing to rebind to " ++ toString attempted
  | .hostRebind name bound attempted =>
    "Host IP variable '" ++ name ++ "' is already bound to " ++ bound ++
      ", refusing to rebind to " ++ attempted
  | .invalidBinding containerPort value =>
    "Engine reported an unusable port binding '" ++ value ++ "' for " ++ containerPort

def kind : PortSpecError → String
  | .missingColon _ => "MissingColon"
  | .invalidContainerPort _ _ => "InvalidContainerPort"
  | .invalidHostPort _ _ => "InvalidHostPort"
  | .unresolvableHost _ _ => "UnresolvableHost"
  | .rebind _ _ _ => "Rebind"
  | .hostRebind _ _ _ => "HostRebind"
  | .invalidBinding _ _ => "InvalidBinding"

end PortSpecError

end Mooring.Ports
