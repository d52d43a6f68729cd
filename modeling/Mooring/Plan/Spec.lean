import Mooring.Toml.Decode
import Mooring.Order.Resolve
import Mooring.Order.Declarations
import Mooring.Config.Error
import Mooring.Collections.KeyMap
namespace Mooring.Plan

open Mooring.Record Mooring.Toml Mooring.Order Mooring.Config Mooring.Collections

/-- Waiting for an HTTP endpoint to answer. -/
structure HttpWait where
  url : String
  method : Option String
  /-- The accepted status codes, as a range text. -/
  status : Option String
  allowAllHosts : Bool

/-- Waiting for TCP ports to accept connections. -/
structure TcpWait where
  /-- Defaults to the engine's host. -/
  host : Option String
  /-- Container ports; mapped ports are probed on their host port. -/
  ports : List Nat

/-- What to wait for once a container runs; every condition given must hold. -/
structure WaitSpec where
  http : Option HttpWait
  tcp : Option TcpWait
  /-- A pattern matched against the container's output. -/
  log : Option String
  /-- Wait for the engine's health check to report healthy. -/
  healthy : Bool
  /-- A command run inside the container until it exits with 0. -/
  exec : Option (List String)
  /-- Wait for the container to exit with this code. -/
  exit : Option Int
  /-- The time to wait, overriding the configured default. -/
  timeMs : Option Nat
  /-- A fixed pause used when no condition is given. -/
  idleMs : Option Nat

/-- One container to start. -/
structure RunSpec where
  /-- The name other containers refer to it by. -/
  name : String
  image : String
  aliasName : Option String
  namePattern : Option String
  ports : List String
  env : KeyMap String
  labels : KeyMap String
  cmd : Option (List String)
  entrypoint : Option (List String)
  binds : List String
  links : List String
  volumesFrom : List String
  network : NetworkMode
  dependsOn : List String
  wait : Option WaitSpec

/-- A whole run plan. -/
structure RunPlan where
  keepContainers : Bool
  portProperties : Option String
  presets : KeyMap String
  containers : List RunSpec

namespace RunSpec

def declarations (s : RunSpec) : Declarations := ⟨s.volumesFrom, s.links, s.network, s.dependsOn⟩

instance : Dependent RunSpec := ⟨RunSpec.name, RunSpec.aliasName, fun s => s.declarations.dependencies⟩

end RunSpec

section Decoders

variable {ν : Type} [Described ν]

open Fields

def textList : Decoder ν (List String) := Decoder.list Decoder.string

def textMap : Decoder ν (KeyMap String) := fun v =>
  (Decoder.entries Decoder.string v).map KeyMap.ofList

def optionalText : Decoder ν (Option String) := Decoder.optional Decoder.string

/-- A path, which is any text. -/
def path : Decoder ν (Option String) := Decoder.optional fun v =>
  match Described.shape v with
  | .string s => .ok s
  | _ => mismatch v "path string"

def networkMode : Decoder ν NetworkMode := fun v => (Decoder.string v).map NetworkMode.parse

def httpWait : Decoder ν HttpWait :=
  decode "HttpWait" true <| HttpWait.mk
    <$> required "url" Decoder.string
    <*> withDefault "method" optionalText none
    <*> withDefault "status" optionalText none
    <*> withDefault "allow_all_hosts" Decoder.bool false

def tcpWait : Decoder ν TcpWait :=
  decode "TcpWait" true <| TcpWait.mk
    <$> withDefault "host" optionalText none
    <*> required "ports" (Decoder.list (Decoder.unsigned 16))

def waitSpec : Decoder ν WaitSpec :=
  decode "WaitSpec" true <| WaitSpec.mk
    <$> withDefault "http" (Decoder.optional httpWait) none
    <*> withDefault "tcp" (Decoder.optional tcpWait) none
    <*> withDefault "log" optionalText none
    <*> withDefault "healthy" Decoder.bool false
    <*> withDefault "exec" (Decoder.optional textList) none
    <*> withDefault "exit" (Decoder.optional Decoder.i64) none
    <*> withDefault "time_ms" (Decoder.optional (Decoder.unsigned 64)) none
    <*> withDefault "idle_ms" (Decoder.optional (Decoder.unsigned 64)) none

def runSpec : Decoder ν RunSpec :=
  decode "RunSpec" true <| RunSpec.mk
    <$> required "name" Decoder.string
    <*> required "image" Decoder.string
    <*> withDefault "alias" optionalText none
    <*> withDefault "name_pattern" optionalText none
    <*> withDefault "ports" textList []
    <*> withDefault "env" textMap []
    <*> withDefault "labels" textMap []
    <*> withDefault "cmd" (Decoder.optional textList) none
    <*> withDefault "entrypoint" (Decoder.optional textList) none
    <*> withDefault "binds" textList []
    <*> withDefault "links" textList []
    <*> withDefault "volumes_from" textList []
    <*> withDefault "network" networkMode .default
    <*> withDefault "depends_on" textList []
    <*> withDefault "wait" (Decoder.optional waitSpec) none

def runPlan : Decoder ν RunPlan :=
  decode "RunPlan" true <| RunPlan.mk
    <$> withDefault "keep_containers" Decoder.bool false
    <*> withDefault "port_properties" path none
    <*> withDefault "variables" textMap []
    <*> withDefault "container" (Decoder.list runSpec) []

end Decoders

/-- Reads a run plan from a TOML text; a problem is an invalid value of the run plan, with the
TOML error as its message. -/
def RunPlan.parse (text : String) : Except ConfigError RunPlan :=
  (decodeText runPlan text).mapError fun e => .invalidValue "run plan" (e.render text)

end Mooring.Plan
