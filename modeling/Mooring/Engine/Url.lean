import Mooring.Image.Name
import Mooring.Json.Writer
import Mooring.Text.Percent
namespace Mooring.Engine

open Mooring.Image Mooring.Json Mooring.Text

abbrev Query := List (String × String)

def flag (key : String) (value : Bool) : String × String := (key, if value then "1" else "0")

/-- The query text, empty for no parameters. -/
def renderQuery (q : Query) : String :=
  if q.isEmpty then ""
  else "?" ++ "&".intercalate (q.map fun (k, v) => k ++ "=" ++ percentEncode v)

/-- The engine's filter argument, `{"key":["value"]}` for each pair, keys in order. -/
def filters (pairs : List (String × String)) : String :=
  (Value.ofMembers (pairs.map fun (k, v) => (k, Value.strings [v]))).render

/-- Extra settings of an image build. -/
structure BuildOptions where
  /-- The path of the build file inside the context. -/
  dockerfile : Option String
  noCache : Bool
  pull : Bool
  forceRm : Bool
  buildArgs : List (String × String)

/-- Builds the addresses for one engine base address and API version. -/
structure UrlBuilder where
  baseUrl : String
  apiVersion : String

namespace UrlBuilder

/-- A builder; `apiVersion` is given with or without its leading `v`. -/
def new (baseUrl apiVersion : String) : UrlBuilder :=
  ⟨String.ofList (baseUrl.toList.reverse.dropWhile (· = '/')).reverse,
    String.ofList (apiVersion.toList.dropWhile (· = 'v'))⟩

/-- A versioned address for a path whose identifiers are already encoded. -/
def url (b : UrlBuilder) (path : String) (query : Query) : String :=
  b.baseUrl ++ "/v" ++ b.apiVersion ++ "/" ++ path ++ renderQuery query

def segment (id : String) : String := percentEncode id

def version (b : UrlBuilder) : String := b.baseUrl ++ "/version"

def listImages (b : UrlBuilder) (all : Bool) (reference : Option String) : String :=
  b.url "images/json" ([flag "all" all] ++
    (reference.map fun r => [("filters", filters [("reference", r)])]).getD [])

def inspectImage (b : UrlBuilder) (name : String) : String :=
  b.url ("images/" ++ segment name ++ "/json") []

def createContainer (b : UrlBuilder) (name : Option String) : String :=
  b.url "containers/create" ((name.map fun n => [("name", n)]).getD [])

def startContainer (b : UrlBuilder) (id : String) : String :=
  b.url ("containers/" ++ segment id ++ "/start") []

/-- Stops a container, killing it after `killWaitSecs` seconds when that is not zero. -/
def stopContainer (b : UrlBuilder) (id : String) (killWaitSecs : Nat) : String :=
  b.url ("containers/" ++ segment id ++ "/stop")
    (if killWaitSecs > 0 then [("t", toString killWaitSecs)] else [])

def removeContainer (b : UrlBuilder) (id : String) (removeVolumes : Bool) : String :=
  b.url ("containers/" ++ segment id) [flag "v" removeVolumes, flag "force" true]

def inspectContainer (b : UrlBuilder) (id : String) : String :=
  b.url ("containers/" ++ segment id ++ "/json") []

def listContainers (b : UrlBuilder) (all : Bool) (filter : Option (String × String)) : String :=
  b.url "containers/json" ([flag "all" all] ++
    (filter.map fun f => [("filters", filters [f])]).getD [])

def containerLogs (b : UrlBuilder) (id : String) (follow : Bool) : String :=
  b.url ("containers/" ++ segment id ++ "/logs")
    [flag "stdout" true, flag "stderr" true, flag "timestamps" true, flag "follow" follow]

/-- Pulls an image by its digest, else its tag, else `latest`. -/
def pullImage (b : UrlBuilder) (name : ImageName) (registry : Option String) : String :=
  let tag := (name.digest.orElse fun _ => name.tag).getD "latest"
  b.url "images/create" [("fromImage", name.nameWithoutTag registry), ("tag", tag)]

def pushImage (b : UrlBuilder) (name : ImageName) (registry : Option String) : String :=
  b.url ("images/" ++ segment (name.nameWithoutTag registry) ++ "/push")
    [("tag", name.tag.getD "latest"), flag "force" true]

def tagImage (b : UrlBuilder) (source target : ImageName) (force : Bool) : String :=
  b.url ("images/" ++ segment (source.fullName none) ++ "/tag")
    [("repo", target.nameWithoutTag none), ("tag", target.tag.getD "latest"), flag "force" force]

def removeImage (b : UrlBuilder) (name : String) (force : Bool) : String :=
  b.url ("images/" ++ segment name) [flag "force" force]

/-- Builds an image; build arguments travel as one JSON object, later keys winning. -/
def buildImage (b : UrlBuilder) (image : String) (o : BuildOptions) : String :=
  b.url "build" <|
    [("t", image), flag "rm" true] ++
    ((o.dockerfile.map fun d => [("dockerfile", d)]).getD []) ++
    (if o.noCache then [flag "nocache" true] else []) ++
    (if o.pull then [flag "pull" true] else []) ++
    (if o.forceRm then [flag "forcerm" true] else []) ++
    (if o.buildArgs.isEmpty then []
     else [("buildargs",
       (Value.ofMembers (o.buildArgs.map fun (k, v) => (k, Value.string v))).render)])

def createExec (b : UrlBuilder) (containerId : String) : String :=
  b.url ("containers/" ++ segment containerId ++ "/exec") []

def startExec (b : UrlBuilder) (execId : String) : String :=
  b.url ("exec/" ++ segment execId ++ "/start") []

def inspectExec (b : UrlBuilder) (execId : String) : String :=
  b.url ("exec/" ++ segment execId ++ "/json") []

end UrlBuilder

end Mooring.Engine
