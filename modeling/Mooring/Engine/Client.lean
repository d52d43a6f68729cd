import Mooring.Engine.Endpoint
import Mooring.Engine.Options
import Mooring.Engine.Url
import Mooring.Engine.Auth
import Mooring.Engine.Inspect
import Mooring.Engine.Request
import Mooring.Engine.Stream
import Mooring.Engine.Logs
import Mooring.Json.Decode
namespace Mooring.Engine

open Mooring.Json Mooring.Record Mooring.Record.Fields Mooring.Image Mooring.Text

inductive Method where
  | get
  | post
  | delete
  deriving DecidableEq

def Method.toText : Method → String
  | .get => "GET"
  | .post => "POST"
  | .delete => "DELETE"

/-- What a request carries. -/
inductive RequestBody where
  | empty
  | json (v : Value)
  /-- A build context archive. -/
  | tar (bytes : List UInt8)

/-- A request to the engine. -/
structure Request where
  method : Method
  url : String
  body : RequestBody
  /-- The registry credentials header. -/
  registryAuth : Option String
  /-- The limit on the whole exchange, in seconds. -/
  timeoutSecs : Option Nat

/-- The engine's answer: its status, its body in the chunks it arrived in, and the failure that
broke the body off, if one did. -/
structure Reply where
  status : Nat
  chunks : List (List UInt8)
  broken : Option String

def Reply.body (r : Reply) : List UInt8 := r.chunks.flatten

/-- What carries requests to the engine: the reply, or why none came. -/
structure Transport (m : Type → Type) where
  send : Request → m (Except String Reply)

/-- An answer read whole. -/
structure Response where
  url : String
  status : Nat
  body : List UInt8

/-- The message of an error answer: the `message` of a JSON body, else the body trimmed. -/
def errorMessage (body : List UInt8) : String :=
  let text := trim (Utf8.decodeLossy body)
  match Value.read body with
  | .ok v => ((v.get? "message").bind Value.asString?).getD text
  | .error _ => text

/-- Decodes the JSON body of an answer. -/
def Response.json {α : Type} (r : Response) (d : Decoder Value α) : Except EngineError α :=
  match Value.read r.body with
  | .error e => .error (.decode r.url e.message)
  | .ok v =>
    match d v with
    | .ok a => .ok a
    | .error f => .error (.decode r.url f.error.message)

/-- What the engine says about itself. -/
structure VersionInfo where
  version : String
  apiVersion : String
  os : String
  arch : String

def VersionInfo.decoder : Decoder Value VersionInfo :=
  decode "VersionInfo" false <| VersionInfo.mk
    <$> withDefault "Version" Decoder.string ""
    <*> required "ApiVersion" Decoder.string
    <*> withDefault "Os" Decoder.string ""
    <*> withDefault "Arch" Decoder.string ""

/-- An image as the engine lists it. -/
structure ImageSummary where
  id : String
  repoTags : Option (List String)

def ImageSummary.decoder : Decoder Value ImageSummary :=
  decode "ImageSummary" false <| ImageSummary.mk
    <$> required "Id" Decoder.string
    <*> withDefault "RepoTags" (Decoder.optional (Decoder.list Decoder.string)) none

/-- The answer to creating a container or an exec instance. -/
structure Created where
  id : String
  warnings : Option (List String)

def Created.decoder : Decoder Value Created :=
  decode "CreateResponse" false <| Created.mk
    <$> required "Id" Decoder.string
    <*> withDefault "Warnings" (Decoder.optional (Decoder.list Decoder.string)) none

/-- Where an exec instance stands. -/
structure ExecState where
  running : Bool
  exitCode : Option Int

def ExecState.decoder : Decoder Value ExecState :=
  decode "ExecInspect" false <| ExecState.mk
    <$> withDefault "Running" Decoder.bool false
    <*> withDefault "ExitCode" (Decoder.optional Decoder.i64) none

/-- The body creating an exec instance: the command, with both output streams attached. -/
def execConfig (cmd : List String) : Value :=
  .object [("AttachStderr", .bool true), ("AttachStdout", .bool true), ("Cmd", .strings cmd)]

/-- Whether a container's image is the wanted one, `latest` being implied. -/
def sameImage (actual wanted : String) : Bool :=
  actual == wanted ||
    match ImageName.parse actual, ImageName.parse wanted with
    | .ok a, .ok b => a.fullName none == b.fullName none
    | _, _ => false

/-- A streamed answer being read: the body still to come until it ends or breaks off (the chunks
left, and the failure after them if it breaks off), the decoder, the events decoded and not yet
given out, and the messages of the error events given out. -/
structure EventStream where
  url : String
  body : Option (List (List UInt8) × Option String)
  decoder : StreamDecoder
  pending : List StreamEvent
  errors : List String

namespace EventStream

def ofReply (url : String) (reply : Reply) : EventStream :=
  ⟨url, some (reply.chunks, reply.broken), StreamDecoder.empty, [], []⟩

/-- The reads of the body left: one per chunk, and its end. -/
def readsLeft (s : EventStream) : Nat :=
  match s.body with
  | none => 0
  | some (chunks, _) => chunks.length + 1

/-- The next event. A decoded one goes first, its message recorded if it is an error; without
one the next chunk is read and decoded. The end of the body finishes the decoder and a failed
read fails, each closing the body; `none` once it is closed and every event was given out. -/
def nextEvent (s : EventStream) : Except EngineError (Option StreamEvent) × EventStream :=
  match s.pending with
  | event :: rest =>
    (.ok (some event), { s with pending := rest, errors := s.errors ++ event.errorMessage?.toList })
  | [] =>
    match _hb : s.body with
    | none => (.ok none, s)
    | some ([], none) => nextEvent { s with decoder := s.decoder.finish, body := none }
    | some ([], some reason) => (.error (.transport s.url reason), { s with body := none })
    | some (chunk :: chunks, broken) =>
      let (decoder, values) := s.decoder.push chunk
      let events := values.map StreamEvent.classify
      nextEvent { s with decoder := decoder, body := some (chunks, broken), pending := events }
termination_by s.readsLeft
decreasing_by all_goals simp [readsLeft, _hb]

/-- An event given out leaves less to give: the same body and one event fewer waiting, or less
body. -/
theorem nextEvent_decreases {s s' : EventStream} {event : StreamEvent}
    (h : s.nextEvent = (.ok (some event), s')) :
    Prod.Lex (· < ·) (· < ·) (s'.readsLeft, s'.pending.length) (s.readsLeft, s.pending.length) := by
  rw [Prod.lex_def]
  fun_induction nextEvent s with
  | case1 s event rest hp =>
    cases h
    simp [readsLeft, hp]
  | case2 => simp at h
  | case3 s hp hb ih =>
    -- after the end nothing is left to read, so no event can follow
    have hlt := ih h
    simp only [readsLeft, hp, List.length_nil] at hlt
    omega
  | case4 => simp at h
  | case5 s hp chunk chunks broken hb decoder values hpush events ih =>
    -- the events of the chunk read are given out before the next read
    have hlt := ih h
    simp only [readsLeft, hb, hp, List.length_nil, List.length_cons] at hlt ⊢
    omega

/-- Reads events until the body is closed, folding each into `acc`: the failure that closed the
body if a read failed, the folded value and the stream as left. -/
def consume {σ : Type} (onEvent : σ → StreamEvent → σ) (acc : σ) (s : EventStream) :
    Option EngineError × σ × EventStream :=
  match _h : s.nextEvent with
  | (.error e, s') => (some e, acc, s')
  | (.ok none, s') => (none, acc, s')
  | (.ok (some event), s') => consume onEvent (onEvent acc event) s'
termination_by (s.readsLeft, s.pending.length)
decreasing_by exact nextEvent_decreases _h

/-- Drains the stream, handing every event to `onEvent`. A failed read fails it; else it fails
with the first error event's message and their number, if there was one. -/
def drainWith {σ : Type} (operation : String) (onEvent : σ → StreamEvent → σ) (acc : σ)
    (s : EventStream) : Except EngineError Unit × σ :=
  match s.consume onEvent acc with
  | (some e, acc, _) => (.error e, acc)
  | (none, acc, s) =>
    (match s.errors with
      | [] => .ok ()
      | first :: _ => .error (.stream operation first s.errors.length), acc)

end EventStream

/-- A drained event stream: its events, the error messages among them, the malformed fragments
skipped, and the failure that broke it off, if one did. -/
structure Drained where
  events : List StreamEvent
  errors : List String
  warnings : Nat
  failure : Option EngineError

/-- Reads the events of a streamed answer until its end, keeping them in order. -/
def drain (url : String) (reply : Reply) : Drained :=
  match (EventStream.ofReply url reply).consume (fun events event => events ++ [event]) [] with
  | (failure, events, s) => ⟨events, s.errors, s.decoder.warnings, failure⟩

/-- The result of a drained stream: its failure, else its first error event with their count. -/
def Drained.result (d : Drained) (operation : String) : Except EngineError Unit :=
  match d.failure, d.errors with
  | some e, _ => .error e
  | none, [] => .ok ()
  | none, first :: _ => .error (.stream operation first d.errors.length)

/-- Whether to keep following a log. -/
inductive LogControl where
  | continue
  | stop
  deriving DecidableEq

/-- How following a log ended. -/
inductive FollowOutcome where
  /-- The callback asked to stop. -/
  | stopped
  /-- The engine closed the log, as it does when the container exits. -/
  | ended
  | cancelled
  deriving DecidableEq

def FollowOutcome.toText : FollowOutcome → String
  | .stopped => "Stopped"
  | .ended => "Ended"
  | .cancelled => "Cancelled"

/-- Hands lines to the callback until it asks to stop. -/
def feedLines {σ : Type} (callback : σ → LogLine → σ × LogControl) :
    σ → List LogLine → σ × Bool
  | s, [] => (s, false)
  | s, line :: rest =>
    match callback s line with
    | (s, .stop) => (s, true)
    | (s, .continue) => feedLines callback s rest

/-- Feeds the chunks of a log to the callback: stopped when it asks, ended when the log ends, a
transport failure when it breaks off, cancelled when it sees so. It looks for the cancellation
before each read of the body, and `cancelAt` is the read at which it sees it, counting from 0, if
it does: the lines of a chunk read are handed out whole, up to a stop, before the next look. -/
def pumpLog {σ : Type} (url : String) (callback : σ → LogLine → σ × LogControl) (s : σ)
    (broken : Option String) (cancelAt : Option Nat) :
    LogDecoder → List (List UInt8) → Except EngineError FollowOutcome × σ
  | d, [] =>
    if cancelAt = some 0 then (.ok .cancelled, s)
    else match broken with
      | some reason => (.error (.transport url reason), s)
      | none =>
        let (_, lines) := d.finish
        match feedLines callback s lines with
        | (s, true) => (.ok .stopped, s)
        | (s, false) => (.ok .ended, s)
  | d, chunk :: rest =>
    if cancelAt = some 0 then (.ok .cancelled, s)
    else
      let (d, lines) := d.push chunk
      match feedLines callback s lines with
      | (s, true) => (.ok .stopped, s)
      | (s, false) => pumpLog url callback s broken (cancelAt.map (· - 1)) d rest

/-- A client for one engine. -/
structure Client where
  endpoint : Endpoint
  urls : UrlBuilder
  options : ClientOptions
  /-- Whether new calls are refused. -/
  shutDown : Bool

namespace Client

def new (endpoint : Endpoint) (options : ClientOptions) (apiVersion : String) : Client :=
  ⟨endpoint, UrlBuilder.new endpoint.baseUrl apiVersion, options, false⟩

def apiVersion (c : Client) : String := c.urls.apiVersion

def availableConnections (c : Client) : Nat := max 1 c.options.maxConnections

def shutdown (c : Client) : Client := { c with shutDown := true }

variable {m : Type → Type} [Monad m] (t : Transport m)

/-- Connects to an engine, asking its API version unless the endpoint pins one. -/
def connect (endpoint : Endpoint) (options : ClientOptions) : ExceptT EngineError m Client := do
  match endpoint.apiVersion with
  | some v => return new endpoint options v
  | none =>
    let url := endpoint.baseUrl ++ "/version"
    let reply ← match ← (t.send ⟨.get, url, .empty, none, options.requestTimeoutSecs⟩ : m _) with
      | .ok r => pure r
      | .error reason => throw (EngineError.transport url reason)
    if let some reason := reply.broken then throw (.transport url reason)
    if reply.status ≠ 200 then throw (.status "GET" url reply.status (errorMessage reply.body))
    let info ← ExceptT.mk (pure ((Response.mk url reply.status reply.body).json VersionInfo.decoder))
    return new endpoint options info.apiVersion

def acquire (c : Client) (url : String) : ExceptT EngineError m Unit :=
  if c.shutDown then throw (.transport url "engine client is shut down") else pure ()

/-- Sends a request and reads the whole answer, whose status must be accepted. -/
def request (c : Client) (method : Method) (url : String) (body : RequestBody)
    (accepted : List Nat) : ExceptT EngineError m Response := do
  acquire c url
  let reply ← match ← (t.send ⟨method, url, body, none, c.options.requestTimeoutSecs⟩ : m _) with
    | .ok r => pure r
    | .error reason => throw (EngineError.transport url reason)
  if let some reason := reply.broken then throw (.transport url reason)
  if !accepted.contains reply.status then
    throw (.status method.toText url reply.status (errorMessage reply.body))
  return ⟨url, reply.status, reply.body⟩

/-- Opens a stream of events, which must answer with a success status. -/
def streamRequest (c : Client) (method : Method) (url : String) (body : RequestBody)
    (auth : Option RegistryAuth) : ExceptT EngineError m Reply := do
  acquire c url
  let reply ← match ← (t.send ⟨method, url, body, auth.map (·.toHeader), none⟩ : m _) with
    | .ok r => pure r
    | .error reason => throw (EngineError.transport url reason)
  if reply.status < 200 || 300 ≤ reply.status then
    let body := if reply.broken.isSome then [] else reply.body
    throw (.status method.toText url reply.status (errorMessage body))
  return reply

def lift {α : Type} (r : Except EngineError α) : ExceptT EngineError m α := ExceptT.mk (pure r)

def version (c : Client) : ExceptT EngineError m VersionInfo := do
  lift ((← request t c .get c.urls.version .empty [200]).json VersionInfo.decoder)

def listImages (c : Client) (reference : Option String) : ExceptT EngineError m (List ImageSummary) := do
  let url := c.urls.listImages false reference
  lift ((← request t c .get url .empty [200]).json (Decoder.list ImageSummary.decoder))

def hasImage (c : Client) (name : String) : ExceptT EngineError m Bool := do
  let r ← request t c .get (c.urls.inspectImage name) .empty [200, 404]
  return r.status == 200

def parseImage (image : String) : Except EngineError ImageName :=
  (ImageName.parse image).mapError EngineError.imageName

/-- Opens the pull stream of an image, from a registry if one is given. -/
def pullStream (c : Client) (image : String) (registry : Option String)
    (auth : Option RegistryAuth) : ExceptT EngineError m Reply := do
  let name ← lift (parseImage image)
  streamRequest t c .post (c.urls.pullImage name registry) .empty auth

/-- Opens the pull stream of an image and drains it, without judging its events. -/
def pullEvents (c : Client) (image : String) (registry : Option String)
    (auth : Option RegistryAuth) : ExceptT EngineError m Drained := do
  let name ← lift (parseImage image)
  let url := c.urls.pullImage name registry
  return drain url (← streamRequest t c .post url .empty auth)

/-- Pulls an image. -/
def pullImage (c : Client) (image : String) (registry : Option String)
    (auth : Option RegistryAuth) : ExceptT EngineError m Unit := do
  let name ← lift (parseImage image)
  let url := c.urls.pullImage name registry
  let reply ← streamRequest t c .post url .empty auth
  lift ((drain url reply).result ("pull of " ++ quoted image))
where
  quoted (s : String) : String := String.singleton (Char.ofNat 0x27) ++ s ++
    String.singleton (Char.ofNat 0x27)

/-- Tags an image. -/
def tagImage (c : Client) (source target : String) (force : Bool) : ExceptT EngineError m Unit := do
  let source ← lift (parseImage source)
  let target ← lift (parseImage target)
  let _ ← request t c .post (c.urls.tagImage source target force) .empty [201]

/-- Removes an image; `false` when there was none. -/
def removeImage (c : Client) (name : String) (force : Bool) : ExceptT EngineError m Bool := do
  let r ← request t c .delete (c.urls.removeImage name force) .empty [200, 404]
  return r.status != 404

/-- Tags the image under the registry for a push, unless its name has a registry or none is
given; gives the tag to remove afterwards, unless it existed before. -/
def tagTemporary (c : Client) (name : ImageName) (registry : Option String) :
    ExceptT EngineError m (Option String) := do
  let target := name.fullName registry
  if name.hasRegistry || registry.isNone then return none
  let existed ← hasImage t c target
  tagImage t c (name.fullName none) target false
  return if existed then none else some target

/-- Pushes an image. An image without a registry in its name is pushed under the given one
through a temporary tag, removed afterwards whether the push worked or not; a failed push is
reported before a failed removal. -/
def pushImage (c : Client) (image : String) (registry : Option String)
    (auth : Option RegistryAuth) : ExceptT EngineError m Unit := do
  let name ← lift (parseImage image)
  let url := c.urls.pushImage name registry
  let temporary ← tagTemporary t c name registry
  let operation := "push of " ++ pullImage.quoted (name.fullName registry)
  let pushed ← ExceptT.lift (streamRequest t c .post url .empty auth).run
  let pushed := pushed.bind fun reply => (drain url reply).result operation
  let cleanup ← match temporary with
    | some target => do
      match ← ExceptT.lift (removeImage t c target true).run with
      | .ok _ => pure (Except.ok ())
      | .error _ => pure (.error (EngineError.temporaryTag target))
    | none => pure (.ok ())
  lift pushed
  lift cleanup

/-- Builds an image from a build context archive. -/
def buildImage (c : Client) (image : String) (context : List UInt8) (options : BuildOptions) :
    ExceptT EngineError m Unit := do
  let url := c.urls.buildImage image options
  let reply ← streamRequest t c .post url (.tar context) none
  lift ((drain url reply).result ("build of " ++ pullImage.quoted image))

/-- Creates a container; gives its full id. -/
def createContainer (c : Client) (request_ : CreateRequest) (name : Option String) :
    ExceptT EngineError m String := do
  let url := c.urls.createContainer name
  let r ← request t c .post url (.json request_.toValue) [201]
  return (← lift (r.json Created.decoder)).id

def startContainer (c : Client) (id : String) : ExceptT EngineError m Unit := do
  let _ ← request t c .post (c.urls.startContainer id) .empty [204, 304]

def stopContainer (c : Client) (id : String) (killWaitSecs : Nat) : ExceptT EngineError m Unit := do
  let _ ← request t c .post (c.urls.stopContainer id killWaitSecs) .empty [204, 304]

def removeContainer (c : Client) (id : String) (removeVolumes : Bool) :
    ExceptT EngineError m Unit := do
  let _ ← request t c .delete (c.urls.removeContainer id removeVolumes) .empty [204]

/-- A container's details; `none` when the engine does not know it. -/
def inspectContainer (c : Client) (id : String) :
    ExceptT EngineError m (Option ContainerDetails) := do
  let r ← request t c .get (c.urls.inspectContainer id) .empty [200, 404]
  if r.status == 404 then return none
  return some (← lift (r.json ContainerDetails.decoder))

def listContainers (c : Client) (all : Bool) : ExceptT EngineError m (List ContainerSummary) := do
  let r ← request t c .get (c.urls.listContainers all none) .empty [200]
  lift (r.json (Decoder.list ContainerSummary.decoder))

/-- The names of all containers, running or not, sorted, each once. -/
def containerNames (c : Client) : ExceptT EngineError m (List String) := do
  let names := (← listContainers t c true).flatMap (·.displayNames)
  return (names.foldl (fun acc n => Collections.KeyMap.insert n () acc) []).map (·.1)

/-- The containers created from exactly this image. -/
def containersForImage (c : Client) (image : String) (all : Bool) :
    ExceptT EngineError m (List ContainerSummary) := do
  let r ← request t c .get (c.urls.listContainers all (some ("ancestor", image))) .empty [200]
  let containers ← lift (r.json (Decoder.list ContainerSummary.decoder))
  return containers.filter fun s => sameImage s.image image

/-- Every log line written so far. -/
def logs (c : Client) (id : String) : ExceptT EngineError m (List LogLine) := do
  let r ← request t c .get (c.urls.containerLogs id false) .empty [200]
  return decodeAll r.body

/-- Follows a container's log, handing every line to the callback until it asks to stop or the
log ends, waiting for that without cancelling; gives how following ended and the callback's last
state. Opening the log fails at once; what breaks the log later is its outcome. -/
def followLogs {σ : Type} (c : Client) (id : String) (init : σ)
    (callback : σ → LogLine → σ × LogControl) :
    ExceptT EngineError m (Except EngineError FollowOutcome × σ) := do
  if c.shutDown then throw (.transport c.endpoint.baseUrl "engine client is shut down")
  let url := c.urls.containerLogs id true
  let reply ← match ← (t.send ⟨.get, url, .empty, none, none⟩ : m _) with
    | .ok r => pure r
    | .error reason => throw (EngineError.transport url reason)
  if reply.status < 200 || 300 ≤ reply.status then
    let body := if reply.broken.isSome then [] else reply.body
    throw (.status "GET" url reply.status (errorMessage body))
  return pumpLog url callback init reply.broken none LogDecoder.empty reply.chunks

/-- Creates an exec instance in a container; gives its id. -/
def createExec (c : Client) (containerId : String) (cmd : List String) :
    ExceptT EngineError m String := do
  let r ← request t c .post (c.urls.createExec containerId) (.json (execConfig cmd)) [201]
  return (← lift (r.json Created.decoder)).id

/-- Runs an exec instance to its end; gives its output lines joined. -/
def startExec (c : Client) (execId : String) : ExceptT EngineError m String := do
  let body := Value.object [("Detach", .bool false), ("Tty", .bool false)]
  let r ← request t c .post (c.urls.startExec execId) (.json body) [200]
  return "\n".intercalate ((decodeAll r.body).map (·.text))

def inspectExec (c : Client) (execId : String) : ExceptT EngineError m ExecState := do
  let r ← request t c .get (c.urls.inspectExec execId) .empty [200]
  lift (r.json ExecState.decoder)

end Client

end Mooring.Engine
