import Mooring.Engine.Inspect
import Mooring.Collections.KeyMap
namespace Mooring.Engine

open Mooring.Json Mooring.Collections

/-- How the container is bound to the host. -/
structure HostConfig where
  portBindings : KeyMap (List PortBinding)
  binds : List String
  links : List String
  volumesFrom : List String
  networkMode : Option String
  autoRemove : Bool

/-- The body of a container create request. -/
structure CreateRequest where
  image : String
  hostname : Option String
  user : Option String
  env : List String
  cmd : Option (List String)
  entrypoint : Option (List String)
  workingDir : Option String
  labels : KeyMap String
  exposedPorts : KeyMap Unit
  hostConfig : HostConfig
  /-- The network endpoints and their aliases, when aliases were asked for. -/
  endpoints : Option (KeyMap (List String))

/-- A member that is there only when the value is. -/
def optionalMember {α : Type} (key : String) (f : α → Value) : Option α → List (String × Value)
  | some a => [(key, f a)]
  | none => []

def memberIf (present : Bool) (key : String) (v : Value) : List (String × Value) :=
  if present then [(key, v)] else []

def bindingValue (b : PortBinding) : Value :=
  .object [("HostIp", .string b.hostIp), ("HostPort", .string b.hostPort)]

def HostConfig.toValue (h : HostConfig) : Value :=
  .object <|
    memberIf (!h.portBindings.isEmpty) "PortBindings"
      (.object (h.portBindings.map fun (k, bs) => (k, .array (bs.map bindingValue)))) ++
    memberIf (!h.binds.isEmpty) "Binds" (Value.strings h.binds) ++
    memberIf (!h.links.isEmpty) "Links" (Value.strings h.links) ++
    memberIf (!h.volumesFrom.isEmpty) "VolumesFrom" (Value.strings h.volumesFrom) ++
    optionalMember "NetworkMode" .string h.networkMode ++
    memberIf h.autoRemove "AutoRemove" (.bool true)

namespace CreateRequest

def new (image : String) : CreateRequest :=
  ⟨image, none, none, [], none, none, none, [], [], ⟨[], [], [], [], none, false⟩, none⟩

def withHostname (r : CreateRequest) (h : String) : CreateRequest := { r with hostname := some h }

def withUser (r : CreateRequest) (u : String) : CreateRequest := { r with user := some u }

def addEnv (r : CreateRequest) (key value : String) : CreateRequest :=
  { r with env := r.env ++ [key ++ "=" ++ value] }

def withCmd (r : CreateRequest) (cmd : List String) : CreateRequest := { r with cmd := some cmd }

def withEntrypoint (r : CreateRequest) (e : List String) : CreateRequest :=
  { r with entrypoint := some e }

def withWorkingDir (r : CreateRequest) (d : String) : CreateRequest :=
  { r with workingDir := some d }

def addLabel (r : CreateRequest) (key value : String) : CreateRequest :=
  { r with labels := r.labels.insert key value }

/-- Exposes ports and adds host bindings, by port key. -/
def addPorts (r : CreateRequest) (exposed : List String)
    (bindings : List (String × List PortBinding)) : CreateRequest :=
  { r with
    exposedPorts := r.exposedPorts.insertAll (exposed.map fun p => (p, ()))
    hostConfig := { r.hostConfig with
      portBindings := r.hostConfig.portBindings.insertAll bindings } }

def addBind (r : CreateRequest) (b : String) : CreateRequest :=
  { r with hostConfig := { r.hostConfig with binds := r.hostConfig.binds ++ [b] } }

def addLink (r : CreateRequest) (l : String) : CreateRequest :=
  { r with hostConfig := { r.hostConfig with links := r.hostConfig.links ++ [l] } }

def addVolumesFrom (r : CreateRequest) (c : String) : CreateRequest :=
  { r with hostConfig := { r.hostConfig with volumesFrom := r.hostConfig.volumesFrom ++ [c] } }

def withAutoRemove (r : CreateRequest) (b : Bool) : CreateRequest :=
  { r with hostConfig := { r.hostConfig with autoRemove := b } }

/-- Joins a network; aliases, when given, name the network's endpoint. -/
def withNetwork (r : CreateRequest) (mode : String) (aliases : List String) : CreateRequest :=
  let r := { r with hostConfig := { r.hostConfig with networkMode := some mode } }
  if aliases.isEmpty then r else { r with endpoints := some [(mode, aliases)] }

/-- The request as the engine reads it. -/
def toValue (r : CreateRequest) : Value :=
  .object <|
    [("Image", .string r.image)] ++
    optionalMember "Hostname" .string r.hostname ++
    optionalMember "User" .string r.user ++
    memberIf (!r.env.isEmpty) "Env" (Value.strings r.env) ++
    optionalMember "Cmd" Value.strings r.cmd ++
    optionalMember "Entrypoint" Value.strings r.entrypoint ++
    optionalMember "WorkingDir" .string r.workingDir ++
    memberIf (!r.labels.isEmpty) "Labels" (.object (r.labels.map fun (k, v) => (k, .string v))) ++
    memberIf (!r.exposedPorts.isEmpty) "ExposedPorts"
      (.object (r.exposedPorts.map fun (p, _) => (p, .object []))) ++
    [("HostConfig", r.hostConfig.toValue)] ++
    optionalMember "NetworkingConfig" (fun eps => .object [("EndpointsConfig", .object
      (eps.map fun (n, aliases) => (n, .object (memberIf (!aliases.isEmpty) "Aliases"
        (Value.strings aliases)))))]) r.endpoints

end CreateRequest

end Mooring.Engine
