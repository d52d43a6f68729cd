import Mooring.Config.Error
import Mooring.Engine.Endpoint
import Mooring.Engine.Options
import Mooring.Wait.Poller
import Mooring.Naming
import Mooring.Text.Integer
namespace Mooring.Config

open Mooring.Engine Mooring.Text

abbrev Environment := String → Option String

def lookup (env : Environment) (key : String) : Option String :=
  (env key).filter fun v => !isBlankText v

/-- A number setting, or its default. -/
def readNumber (env : Environment) (key : String) (default : Nat) : Except ConfigError Nat :=
  match lookup env key with
  | none => .ok default
  | some v =>
    match parseUnsigned 64 (trim v) with
    | .ok n => .ok n
    | .error e => .error (.invalidValue key e.message)

/-- The value of a flag, if it is one. -/
def flagValue? (value : String) : Option Bool :=
  match String.ofList ((trim value).toList.map fun c => if c.toNat < 0x80 then c.toLower else c) with
  | "true" | "1" | "yes" | "on" => some true
  | "false" | "0" | "no" | "off" => some false
  | _ => none

/-- A flag setting, or its default. -/
def readFlag (env : Environment) (key : String) (default : Bool) : Except ConfigError Bool :=
  match lookup env key with
  | none => .ok default
  | some v =>
    match flagValue? v with
    | some b => .ok b
    | none => .error (.invalidValue key ("must be " ++ quoted "true" ++ " or " ++ quoted "false" ++
        ", got " ++ quoted v))
where
  quoted (s : String) : String := String.singleton (Char.ofNat 0x27) ++ s ++
    String.singleton (Char.ofNat 0x27)

def defaultDockerHost : String := "tcp://127.0.0.1:2375"

/-- How to reach the engine. -/
structure EngineSettings where
  dockerHost : String
  /-- The directory of client certificates. -/
  certPath : Option String
  tlsVerify : Bool
  /-- The API version to use instead of negotiating one. -/
  apiVersion : Option String
  maxConnections : Nat
  requestTimeoutSecs : Option Nat
  deriving DecidableEq

namespace EngineSettings

/-- Plain HTTP to the local engine, with the default connection ceiling. -/
def default : EngineSettings := ⟨defaultDockerHost, none, false, none, defaultMaxConnections, none⟩

def read (env : Environment) : Except ConfigError EngineSettings := do
  let tlsVerify ← readFlag env "DOCKER_TLS_VERIFY" false
  let certPath := match lookup env "DOCKER_CERT_PATH" with
    | some p => some p
    | none => if tlsVerify then (lookup env "HOME").map (joinPath · ".docker") else none
  let maxConnections ← readNumber env "DOCKHAND_MAX_CONNECTIONS" defaultMaxConnections
  if maxConnections = 0 then throw (.invalidValue "DOCKHAND_MAX_CONNECTIONS" "must be at least 1")
  let requestTimeoutSecs ← match lookup env "DOCKHAND_REQUEST_TIMEOUT_SECS" with
    | none => pure none
    | some _ => some <$> readNumber env "DOCKHAND_REQUEST_TIMEOUT_SECS" 0
  return ⟨(lookup env "DOCKER_HOST").getD defaultDockerHost, certPath, tlsVerify,
    lookup env "DOCKER_API_VERSION", maxConnections, requestTimeoutSecs⟩

def tls (s : EngineSettings) : Option TlsMaterial := s.certPath.map fun p => ⟨p, s.tlsVerify⟩

def endpoint (s : EngineSettings) : Except EngineError Endpoint := do
  let e ← Endpoint.ofDockerHost s.dockerHost s.tls
  return match s.apiVersion with
    | some v => e.withApiVersion v
    | none => e

def clientOptions (s : EngineSettings) : ClientOptions := ⟨s.maxConnections, s.requestTimeoutSecs⟩

end EngineSettings

/-- The defaults of readiness waits, in milliseconds. -/
structure WaitSettings where
  intervalMs : Nat
  timeoutMs : Nat
  deriving DecidableEq

def WaitSettings.default : WaitSettings := ⟨Wait.defaultInterval, Wait.defaultTimeout⟩

def WaitSettings.read (env : Environment) : Except ConfigError WaitSettings := do
  let interval ← readNumber env "DOCKHAND_WAIT_INTERVAL_MS" Wait.defaultInterval
  if interval = 0 then throw (.invalidValue "DOCKHAND_WAIT_INTERVAL_MS" "must be greater than 0")
  return ⟨interval, ← readNumber env "DOCKHAND_WAIT_TIMEOUT_MS" Wait.defaultTimeout⟩

/-- How containers are named. -/
structure NamingSettings where
  pattern : String
  maxIndex : Nat
  deriving DecidableEq

def NamingSettings.default : NamingSettings := ⟨Naming.defaultPattern, Naming.defaultMaxIndex⟩

def NamingSettings.read (env : Environment) : Except ConfigError NamingSettings := do
  let maxIndex ← readNumber env "DOCKHAND_MAX_NAME_INDEX" Naming.defaultMaxIndex
  if maxIndex = 0 then throw (.invalidValue "DOCKHAND_MAX_NAME_INDEX" "must be at least 1")
  return ⟨(lookup env "DOCKHAND_NAME_PATTERN").getD Naming.defaultPattern, maxIndex⟩

/-- Everything besides the run plan itself. -/
structure Settings where
  engine : EngineSettings
  wait : WaitSettings
  naming : NamingSettings
  deriving DecidableEq

def Settings.default : Settings := ⟨.default, .default, .default⟩

/-- Reads the engine settings, then those of waits, then those of naming. -/
def Settings.read (env : Environment) : Except ConfigError Settings := do
  return ⟨← EngineSettings.read env, ← WaitSettings.read env, ← NamingSettings.read env⟩

end Mooring.Config
