import Mooring.Json.Decode
import Mooring.Text.Pieces
namespace Mooring.Engine

open Mooring.Json Mooring.Record Mooring.Record.Fields

/-- A host side binding of a container port: the host address and port, as texts. -/
structure PortBinding where
  hostIp : String
  hostPort : String
  deriving DecidableEq, Inhabited

/-- The health check state. -/
structure Health where
  status : String

/-- Whether the container runs, and how it ended. -/
structure ContainerState where
  running : Bool
  status : String
  exitCode : Int
  health : Option Health

instance : Inhabited ContainerState := ⟨⟨false, "", 0, none⟩⟩

/-- The configuration a container was created with, as far as it is read. -/
structure ContainerConfig where
  image : String
  healthcheck : Option Value
  tty : Bool

instance : Inhabited ContainerConfig := ⟨⟨"", none, false⟩⟩

/-- The address of a container on one network. -/
structure NetworkEndpoint where
  ipAddress : String

/-- A container's address on the default bridge, its published ports and its networks, each
map in key order. -/
structure NetworkSettings where
  ipAddress : String
  ports : List (String × Option (List PortBinding))
  networks : List (String × NetworkEndpoint)

instance : Inhabited NetworkSettings := ⟨⟨"", [], []⟩⟩

/-- What the engine reports about one container. -/
structure ContainerDetails where
  id : String
  name : String
  state : ContainerState
  config : ContainerConfig
  networkSettings : NetworkSettings

/-- A container as the engine lists it. -/
structure ContainerSummary where
  id : String
  names : List String
  image : String
  state : String
  status : String

def PortBinding.decoder : Decoder Value PortBinding :=
  decode "PortBinding" false <| PortBinding.mk
    <$> withDefault "HostIp" Decoder.string ""
    <*> withDefault "HostPort" Decoder.string ""

def Health.decoder : Decoder Value Health :=
  decode "Health" false <| Health.mk <$> withDefault "Status" Decoder.string ""

def ContainerState.decoder : Decoder Value ContainerState :=
  decode "ContainerState" false <| ContainerState.mk
    <$> withDefault "Running" Decoder.bool false
    <*> withDefault "Status" Decoder.string ""
    <*> withDefault "ExitCode" Decoder.i64 0
    <*> withDefault "Health" (Decoder.optional Health.decoder) none

def ContainerConfig.decoder : Decoder Value ContainerConfig :=
  decode "ContainerConfig" false <| ContainerConfig.mk
    <$> withDefault "Image" Decoder.string ""
    <*> withDefault "Healthcheck" (Decoder.optional Decoder.any) none
    <*> withDefault "Tty" Decoder.bool false

def NetworkEndpoint.decoder : Decoder Value NetworkEndpoint :=
  decode "NetworkEndpoint" false <| NetworkEndpoint.mk <$> withDefault "IPAddress" Decoder.string ""

def NetworkSettings.decoder : Decoder Value NetworkSettings :=
  decode "NetworkSettings" false <| NetworkSettings.mk
    <$> withDefault "IPAddress" Decoder.string ""
    <*> withDefault "Ports"
      (Decoder.entries (Decoder.optional (Decoder.list PortBinding.decoder))) []
    <*> withDefault "Networks" (Decoder.entries NetworkEndpoint.decoder) []

def ContainerDetails.decoder : Decoder Value ContainerDetails :=
  decode "ContainerDetails" false <| ContainerDetails.mk
    <$> required "Id" Decoder.string
    <*> withDefault "Name" Decoder.string ""
    <*> withDefault "State" ContainerState.decoder default
    <*> withDefault "Config" ContainerConfig.decoder default
    <*> withDefault "NetworkSettings" NetworkSettings.decoder default

def ContainerSummary.decoder : Decoder Value ContainerSummary :=
  decode "ContainerSummary" false <| ContainerSummary.mk
    <$> required "Id" Decoder.string
    <*> withDefault "Names" (Decoder.list Decoder.string) []
    <*> withDefault "Image" Decoder.string ""
    <*> withDefault "State" Decoder.string ""
    <*> withDefault "Status" Decoder.string ""

/-- The first characters of a text that take exactly `n` bytes, if such a prefix exists. -/
def bytePrefix? (n : Nat) : List Char → Option (List Char)
  | [] => if n = 0 then some [] else none
  | c :: rest =>
    if n = 0 then some []
    else if c.utf8Size ≤ n then (bytePrefix? (n - c.utf8Size) rest).map (c :: ·)
    else none

/-- The short form of a container or image id: without a `sha256:` prefix, its first twelve
bytes, or all of it when those do not end on a character. -/
def shortId (id : String) : String :=
  let id := (Text.stripPrefix? "sha256:".toList id.toList).getD id.toList
  match bytePrefix? 12 id with
  | some p => String.ofList p
  | none => String.ofList id

def dropSlashes (s : String) : String := String.ofList (s.toList.dropWhile (· = '/'))

namespace ContainerDetails

def shortId (d : ContainerDetails) : String := Engine.shortId d.id

def displayName (d : ContainerDetails) : String := dropSlashes d.name

def isRunning (d : ContainerDetails) : Bool := d.state.running

def exitCode? (d : ContainerDetails) : Option Int :=
  if d.state.running then none else some d.state.exitCode

/-- Whether a health check is configured: any check value counts, except one whose test
starts with `NONE`, which disables an inherited check. -/
def hasHealthCheck (d : ContainerDetails) : Bool :=
  match d.config.healthcheck with
  | none => false
  | some check =>
    match check.get? "Test" with
    | some (.array test) =>
      match test.head? with
      | some (.string "NONE") => false
      | _ => true
    | _ => true

def healthStatus? (d : ContainerDetails) : Option String := d.state.health.map (·.status)

/-- The address on the default bridge, else the first non-empty one of a network, by network
name. -/
def ipAddress? (d : ContainerDetails) : Option String :=
  if !d.networkSettings.ipAddress.isEmpty then some d.networkSettings.ipAddress
  else (d.networkSettings.networks.map (·.2.ipAddress)).find? (!·.isEmpty)

/-- The first binding of each published port, by port key. -/
def portBindings (d : ContainerDetails) : List (String × PortBinding) :=
  d.networkSettings.ports.filterMap fun (port, bindings) =>
    match bindings with
    | some (b :: _) => some (port, b)
    | _ => none

end ContainerDetails

namespace ContainerSummary

def displayNames (s : ContainerSummary) : List String := s.names.map dropSlashes

def isRunning (s : ContainerSummary) : Bool := s.state = "running"

end ContainerSummary

end Mooring.Engine
