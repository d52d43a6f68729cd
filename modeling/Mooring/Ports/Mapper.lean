import Mooring.Ports.Table
import Mooring.Engine.Inspect
import Mooring.Text.Blank
import Mooring.Net.Numeric
namespace Mooring.Ports

open Mooring.Net Mooring.Text Mooring.Engine Mooring.Collections

/-- The mapping text without a final `/tcp` or `/udp`, and the protocol; a line break makes the
text unreadable. -/
def splitProtocol (input : List Char) : Option (List Char × Protocol) :=
  if input.contains '\n' then none
  else
    match input.reverse with
    | 'p' :: 'c' :: 't' :: '/' :: rest => some (rest.reverse, .tcp)
    | 'p' :: 'd' :: 'u' :: '/' :: rest => some (rest.reverse, .udp)
    | _ => some (input, .tcp)

/-- The name of a host address variable in bind position, `+name` or `${name}`, not empty. -/
def hostIpVariableName (bind : String) : Option String :=
  let name := match bind.toList with
    | '+' :: name => some name
    | '$' :: '{' :: rest =>
      match rest.reverse with
      | '}' :: name => some name.reverse
      | _ => none
    | _ => none
  match name with
  | some (c :: cs) => some (String.ofList (c :: cs))
  | _ => none

/-- The name of a host port variable: the text inside `${` and `}`, or the text itself. -/
def hostPortVariableName (host : String) : String :=
  match host.toList with
  | '$' :: '{' :: rest =>
    match rest.reverse with
    | '}' :: name => String.ofList name.reverse
    | _ => host
  | _ => host

/-- The address a host address variable already has: a given value that is an address, which
is bound in the table, else the table's value if it is an address. -/
def knownHostIp (known : KeyMap String) (name : String) : TableM (Option IpAddr) := do
  match (known.find? name).bind fun v => IpAddr.parse? (trim v) with
  | some ip =>
    PortTable.bindHost name ip.toText
    return some ip
  | none => return ((← get).getHost? name).bind IpAddr.parse?

/-- How the host port of a mapping is chosen. -/
def parseHostPort (input : String) (host : String) (known : KeyMap String) :
    TableM HostBinding := do
  if host.isEmpty then return .unassigned
  if host.toList.all Char.isDigit then
    match parseU16? host with
    | some port => return .fixed port
    | none => throw (.invalidHostPort input host)
  let name := hostPortVariableName host
  match (known.find? name).bind fun v => parseU16? (trim v) with
  | some port =>
    PortTable.bind name port
    return .fixed port
  | none =>
    match (← get).get? name with
    | some port => return .fixed port
    | none => return .variable name

/-- Reads one mapping; a bind host that is no variable goes to the system resolver, whose name
service is `names`. -/
def parseSpec (names : String → Option IpAddr) (known : KeyMap String) (input : String) :
    TableM PortSpec := do
  let some (mapping, protocol) := splitProtocol input.toList | throw (.missingColon input)
  let (bind, host, container) ← match splitOnChar ':' mapping with
    | [host, container] => pure (none, host, container)
    | bind :: host :: rest@(_ :: _) => pure (some bind, host, joinWith [':'] rest)
    | _ => throw (.missingColon input)
  let container := String.ofList container
  let some port := parseU16? (trim container)
    | throw (.invalidContainerPort input container)
  let (bindInterface, hostIpVariable) ← match bind.map fun b => trim (String.ofList b) with
    | none => pure (none, none)
    | some bind =>
      match hostIpVariableName bind with
      | some name => do
        let ip ← knownHostIp known name
        pure (ip, some name)
      | none =>
        match IpAddr.resolve names bind with
        | some ip => pure (some ip, none)
        | none => throw (.unresolvableHost input bind)
  let host ← parseHostPort input (trim (String.ofList host)) known
  return ⟨⟨port, protocol⟩, host, bindInterface, hostIpVariable⟩

/-- A host binding the engine reported after start. -/
structure ResolvedPort where
  container : ContainerPort
  hostIp : String
  hostPort : Nat
  deriving DecidableEq

/-- The port mappings of one container. -/
structure PortMapper where
  specs : List PortSpec

namespace PortMapper

/-- Reads mappings in order, the first failure ending the reading. -/
def parse (names : String → Option IpAddr) (specs : List String) (known : KeyMap String) :
    TableM PortMapper := do
  return ⟨← specs.mapM (parseSpec names known)⟩

/-- Whether some variable of the mappings is still unbound, so that the engine must be asked. -/
def needsResolution (m : PortMapper) (t : PortTable) : Bool :=
  m.specs.any fun s =>
    (match s.host with
      | .variable name => (t.get? name).isNone
      | _ => false) ||
    (match s.hostIpVariable with
      | some name => (t.getHost? name).isNone
      | none => false)

def exposedPorts (m : PortMapper) : List String := m.specs.map (·.container.toText)

/-- The host bindings to ask for, by container port; a later mapping of the same port wins. -/
def portBindings (m : PortMapper) : KeyMap (List PortBinding) :=
  KeyMap.ofList <| m.specs.map fun s =>
    let hostPort := match s.host with
      | .fixed port => toString port
      | _ => ""
    (s.container.toText, [⟨(s.bindInterface.map IpAddr.toText).getD "", hostPort⟩])

/-- Binds each port variable whose container port was assigned a host port. -/
def resolve (m : PortMapper) (assigned : List (ContainerPort × Nat)) : TableM Unit := do
  for s in m.specs do
    match s.host with
    | .variable name =>
      match assigned.lookup s.container with
      | some port => PortTable.bind name port
      | none => pure ()
    | _ => pure ()

/-- The engine's bindings of the ports it reports by a readable key, in key order. -/
def resolvedPorts (bindings : List (String × PortBinding)) (dockerHost : String) :
    Except PortSpecError (List ResolvedPort) :=
  bindings.filterMapM fun (key, b) =>
    match ContainerPort.parse? key with
    | none => .ok none
    | some container =>
      match parseU16? b.hostPort with
      | none => .error (.invalidBinding key b.hostPort)
      | some port =>
        let hostIp := if b.hostIp = "0.0.0.0" || b.hostIp = "" then dockerHost else b.hostIp
        .ok (some ⟨container, hostIp, port⟩)

/-- The assignment of host ports to container ports, a later report of a port winning. -/
def assignment (resolved : List ResolvedPort) : List (ContainerPort × Nat) :=
  resolved.foldl (fun acc r => (r.container, r.hostPort) :: acc.filter (·.1 ≠ r.container)) []

/-- Binds the variables from the bindings of an inspected container and gives what was found. -/
def resolveFromContainer (m : PortMapper) (details : ContainerDetails) (dockerHost : String) :
    TableM (List ResolvedPort) := do
  let resolved ← liftExcept (resolvedPorts details.portBindings dockerHost)
  m.resolve (assignment resolved)
  for s in m.specs do
    match s.hostIpVariable with
    | some name =>
      match resolved.find? (·.container = s.container) with
      | some r => PortTable.bindHost name r.hostIp
      | none => pure ()
    | none => pure ()
  return resolved
where
  liftExcept {α : Type} : Except PortSpecError α → TableM α
    | .ok a => pure a
    | .error e => throw e

end PortMapper

end Mooring.Ports
