import Mooring.Run.Error
import Mooring.Wait.Probes
import Mooring.Plan.Spec
import Mooring.Config.Settings
import Mooring.Ports.Mapper
namespace Mooring.Run

open Mooring.Engine Mooring.Ports Mooring.Naming Mooring.Order Mooring.Wait Mooring.Plan
open Mooring.Config Mooring.Collections Mooring.Text

/-- A container the runner started. -/
structure StartedContainer where
  /-- The name the plan gives it. -/
  specName : String
  aliasName : Option String
  containerId : String
  /-- The engine's name for it; `none` when the engine chose one. -/
  containerName : Option String
  image : String
  ports : List ResolvedPort
  ipAddress : Option String

namespace StartedContainer

def shortId (c : StartedContainer) : String := Engine.shortId c.containerId

def reference (c : StartedContainer) : String := c.containerName.getD c.containerId

end StartedContainer

def stopGraceSecs : Nat := 10

def dockerHostToken : String := "$\x7bdocker.host\x7d"

/-- The runner between calls. -/
structure Runner where
  client : Client
  settings : Settings
  /-- The port variables, shared by every container of the run. -/
  table : PortTable
  names : NameResolver
  /-- The engine's host, for ports bound to every address. -/
  dockerHost : String
  /-- Whether tearing down leaves the containers running. -/
  keepContainers : Bool
  /-- The containers started so far, in start order. -/
  started : List StartedContainer

/-- What a run needs from outside: the engine, the network, the clock, the cancellation token, the
system resolver, and the regex crate's compiler. -/
structure RunEnv (m : Type → Type) where
  transport : Transport m
  network : Network m
  /-- The time now, in milliseconds since the epoch. -/
  now : m Int
  /-- The cancellation token as it stands now: fired, due to fire in some milliseconds, or never. -/
  token : m Cancellation
  /-- The name service of the system resolver. -/
  names : String → Option Net.IpAddr
  /-- The bytes the compiled program of a regex takes. -/
  regexSize : String → Nat

/-- A step of a run: it may fail, and what it did to the runner before stays. -/
abbrev RunM (m : Type → Type) := ExceptT RunError (StateT Runner m)

namespace Runner

def new (client : Client) (settings : Settings) : Runner :=
  ⟨client, settings, PortTable.empty, NameResolver.new settings.naming.maxIndex,
    client.endpoint.host, false, []⟩

def substitute (r : Runner) (text : String) : String :=
  r.table.substitute (String.ofList (replaceAll dockerHostToken.toList r.dockerHost.toList text.toList))

/-- The host port to probe for a container port: its mapping, or the port itself. -/
def hostPortFor (ports : List ResolvedPort) (containerPort : Nat) : Nat :=
  match ports.find? (·.container = ⟨containerPort, .tcp⟩) with
  | some p => p.hostPort
  | none => containerPort

/-- The create request of a spec: links and shared volumes name the containers they refer to
by the names they were started under. -/
def createRequest (r : Runner) (spec : RunSpec) (mapper : PortMapper)
    (references : KeyMap String) : CreateRequest :=
  let resolve (name : String) : String := (references.find? name).getD name
  let req := (CreateRequest.new spec.image).addPorts mapper.exposedPorts mapper.portBindings
  let req := spec.env.foldl (fun req (k, v) => req.addEnv k (r.substitute v)) req
  let req := spec.labels.foldl (fun req (k, v) => req.addLabel k v) req
  let req := match spec.cmd with
    | some cmd => req.withCmd cmd
    | none => req
  let req := match spec.entrypoint with
    | some e => req.withEntrypoint e
    | none => req
  let req := spec.binds.foldl CreateRequest.addBind req
  let req := spec.volumesFrom.foldl (fun req v => req.addVolumesFrom (resolve v)) req
  let req := if spec.network.isCustom then req
    else spec.links.foldl (fun req link =>
      req.addLink (resolve (linkTarget link) ++ ":" ++ linkAlias link)) req
  match spec.network with
  | .container name => req.withNetwork ("container:" ++ resolve name) []
  | .custom network => req.withNetwork network spec.aliasName.toList
  | other =>
    match other.engineMode with
    | some mode => req.withNetwork mode []
    | none => req

section

variable {m : Type → Type} [Monad m] (env : RunEnv m)

/-- Runs an engine call in a run. -/
def engine {α : Type} (x : ExceptT EngineError m α) : RunM m α := do
  match ← (x.run : m _) with
  | .ok a => pure a
  | .error e => throw (.engine e)

/-- Runs a step on the port table; its bindings stay even when it fails. -/
def onTable {α : Type} (step : TableM α) : RunM m α := do
  let r ← get
  let (result, table) := (step.run).run r.table
  set { r with table := table }
  match result with
  | .ok a => pure a
  | .error e => throw (.ports e)

/-- The poller of a wait, with what its checks start from. -/
def buildPoller (r : Runner) (spec : RunSpec) (id : String) (wait : WaitSpec)
    (ports : List ResolvedPort) : Except RunError (Poller (ProbeM m) × ProbeMemory) := do
  let invalid (reason : String) : RunError := .invalidWait spec.name reason
  let t := env.transport
  let timeout := wait.timeMs.getD r.settings.wait.timeoutMs
  let mut checks : List (Check (ProbeM m)) := []
  let mut memory : ProbeMemory := ⟨[], true, none⟩
  if let some http := wait.http then
    match HttpCheck.withOptions (r.substitute http.url) http.method http.status http.allowAllHosts with
    | .ok c => checks := checks ++ [c.probe env.network]
    | .error e => throw (invalid e.message)
  if let some tcp := wait.tcp then
    let host := (tcp.host.map r.substitute).getD r.dockerHost
    let c := TcpCheck.new host (tcp.ports.map (hostPortFor ports))
    checks := checks ++ [c.probe env.network]
    memory := { memory with pendingPorts := c.pending }
  if let some pattern := wait.log then
    match LogCheck.new env.regexSize id pattern with
    | .ok c => checks := checks ++ [c.probe t r.client]
    | .error e => throw (invalid e.message)
  if wait.healthy then
    checks := checks ++ [healthProbe t r.client id]
  if let some cmd := wait.exec then
    if cmd.isEmpty then throw (invalid "exec command is empty")
    checks := checks ++ [execProbe t r.client id cmd]
  if let some code := wait.exit then
    checks := checks ++ [exitProbe t r.client id code]
  let poller : Poller (ProbeM m) :=
    ⟨checks, r.settings.wait.intervalMs, timeout, wait.idleMs,
      some ((Timed.mk · 0) <$> runningGuard t r.client id)⟩
  return (poller, memory)

/-- Starts a created container, reads its ports, and waits until it is ready. -/
def bringUp (spec : RunSpec) (id : String) (mapper : PortMapper) :
    RunM m (ContainerDetails × List ResolvedPort) := do
  let r ← get
  engine (r.client.startContainer env.transport id)
  let some details ← engine (r.client.inspectContainer env.transport id)
    | throw (.vanished spec.name)
  let ports ← onTable (mapper.resolveFromContainer details r.dockerHost)
  if let some wait := spec.wait then
    let r ← get
    let (poller, memory) ← match buildPoller env r spec id wait ports with
      | .ok p => pure p
      | .error e => throw e
    let cancel ← (env.token : m _)
    let (run, _) ← ((poller.wait cancel).run memory : m _)
    if let .error e := run.result then throw (.notReady spec.name e)
  return (details, ports)

/-- Pulls an image the engine lacks. -/
def ensureImage (image : String) : RunM m Unit := do
  let r ← get
  if ← engine (r.client.hasImage env.transport image) then return
  engine (r.client.pullImage env.transport image none none)

/-- Removes a container that failed to come up, as far as the engine lets it. -/
def discard (id : String) : RunM m Unit := do
  let r ← get
  let _ ← (r.client.removeContainer env.transport id true |>.run : m _)

/-- Names, creates, starts and waits for one container, and tracks it. -/
def startOne (spec : RunSpec) (known : KeyMap String) (references : KeyMap String)
    (existing : List String) : RunM m StartedContainer := do
  let r ← get
  let ctx : NamingContext := {
    pattern := spec.namePattern.getD r.settings.naming.pattern
    imageName := spec.image
    aliasName := some (spec.aliasName.getD spec.name)
    timestampMillis := ← (env.now : m _)
    existing := existing }
  let containerName ← match r.names.calculateName ctx with
    | .ok n => pure n
    | .error e => throw (.naming e)
  let mapper ← onTable (PortMapper.parse env.names spec.ports known)
  ensureImage env spec.image
  let r ← get
  let request := r.createRequest spec mapper references
  let id ← engine (r.client.createContainer env.transport request containerName)
  match ← ExceptT.lift (bringUp env spec id mapper).run with
  | .error e =>
    discard env id
    throw e
  | .ok (details, ports) =>
    let container : StartedContainer :=
      ⟨spec.name, spec.aliasName, id, containerName, spec.image, ports, details.ipAddress?⟩
    modify fun r => { r with started := r.started ++ [container] }
    return container

/-- Starts every spec, those it needs first, with the port variables known up front; once the
token has fired, the run stops before the next container. -/
def startAll (specs : List RunSpec) (known : KeyMap String) : RunM m (List StartedContainer) := do
  let r ← get
  let names ← engine (r.client.containerNames env.transport)
  let ordered ← match order names specs with
    | .ok o => pure o
    | .error e => throw (.order e)
  let mut existing := names
  let mut references : KeyMap String := []
  let mut started := []
  for spec in ordered do
    if (← (env.token : m _)) == .before then throw .cancelled
    let container ← startOne env spec known references existing
    let reference := container.reference
    if !existing.contains reference then existing := existing ++ [reference]
    references := references.insert spec.name reference
    if let some a := spec.aliasName then references := references.insert a reference
    started := started ++ [container]
  return started

/-- Stops and removes the tracked containers in reverse start order, unless they are kept;
gives how many were removed. A container the engine no longer knows counts as removed, and a
failure leaves the others to go on. -/
def stopAll : StateT Runner m Nat := do
  let r ← get
  set { r with started := [] }
  if r.keepContainers then return 0
  let mut removed := 0
  for c in r.started.reverse do
    let _ ← (r.client.stopContainer env.transport c.containerId stopGraceSecs |>.run : m _)
    match ← (r.client.removeContainer env.transport c.containerId true |>.run : m _) with
    | .ok () => removed := removed + 1
    | .error e => if e.isNotFound then removed := removed + 1
  return removed

end

end Runner

end Mooring.Run
