import Mooring.Engine.Error
import Mooring.Url.Address
namespace Mooring.Engine

open Mooring.Url

/-- Joins a file name onto a directory path, with a separator unless the directory is empty or
already ends in one; an absolute name stands alone. -/
def joinPath (dir name : String) : String :=
  if name.startsWith "/" || dir.isEmpty then name
  else if dir.endsWith "/" then dir ++ name
  else dir ++ "/" ++ name

/-- A directory holding `key.pem`, `cert.pem` and `ca.pem`. -/
structure TlsMaterial where
  certPath : String
  /-- Whether the engine's certificate is checked against `ca.pem`. -/
  verify : Bool
  deriving DecidableEq

namespace TlsMaterial

def new (certPath : String) : TlsMaterial := ⟨certPath, true⟩

def keyFile (t : TlsMaterial) : String := joinPath t.certPath "key.pem"

def certFile (t : TlsMaterial) : String := joinPath t.certPath "cert.pem"

def caFile (t : TlsMaterial) : String := joinPath t.certPath "ca.pem"

end TlsMaterial

/-- The address of an engine. -/
structure Endpoint where
  scheme : Scheme
  baseUrl : String
  /-- The API version to use instead of negotiating one. -/
  apiVersion : Option String
  tls : Option TlsMaterial
  deriving DecidableEq

/-- Splits at the first occurrence of a separator. -/
def splitOnce (text sep : String) : Option (String × String) :=
  match text.splitOn sep with
  | first :: rest@(_ :: _) => some (first, sep.intercalate rest)
  | _ => none

namespace Endpoint

/-- Reads an engine address. -/
def ofDockerHost (host : String) (tls : Option TlsMaterial) : Except EngineError Endpoint := do
  let invalid (reason : String) : EngineError := .endpoint host reason
  let some (scheme, rest) := splitOnce host "://"
    | throw (invalid "missing scheme (expected tcp://, http:// or https://)")
  let scheme ← match scheme with
    | "tcp" | "http" => pure (if tls.isSome then Scheme.https else .http)
    | "https" => pure .https
    | "unix" | "npipe" =>
      throw (invalid "local socket transports are not supported, use a tcp:// address")
    | _ => throw (invalid "unsupported scheme")
  match WebUrl.parse scheme ("//" ++ rest) with
  | .error e => throw (invalid e.message)
  | .ok url =>
    if url.host.toText.isEmpty then throw (invalid "missing host")
    let text := url.toText
    return ⟨scheme, String.ofList (text.toList.reverse.dropWhile (· = '/')).reverse, none, tls⟩

def withApiVersion (e : Endpoint) (version : String) : Endpoint :=
  { e with apiVersion := some (String.ofList (version.toList.dropWhile (· = 'v'))) }

/-- The host of the base URL, or `localhost` when it has none. -/
def host (e : Endpoint) : String :=
  match WebUrl.parse e.scheme (e.baseUrl.drop (e.scheme.toText.length + 1)).toString with
  | .ok url => url.host.toText
  | .error _ => "localhost"

end Endpoint

end Mooring.Engine
